import Mathlib.Data.List.Forall2
import Mathlib.Data.List.Nodup
import TicketSystem.NotificationFormat

namespace TicketSystem

open Interleaved

/-- What a call of a consumer meets: what it draws, the messages that others have put on the queue
before, and whether its answer is lost although it was executed. -/
structure Circumstance where
  oracle : Oracle
  arrived : List SqsMessage := []
  lost : Bool := false

def World.arrives (w : World) (messages : List SqsMessage) : World :=
  { w with queue := w.queue ++ messages }

/-- A mail that is only logged has no answer to lose. -/
def Cmd.remote (fromAddress : String) : Cmd → Bool
  | .one (.sendEmail _ _ _) => fromAddress ≠ ""
  | _ => true

def Cmd.amid (fromAddress : String) (x : Circumstance) (c : Cmd) (w : World) :
    Except Err c.Res × World :=
  let answered := c.dispatch fromAddress x.oracle (w.arrives x.arrived)
  if x.lost && c.remote fromAddress then (.error .failed, answered.2) else answered

/-- Turns of the loops of any number of consumers; a consumer that is stopped has crashed. The
number is the size of its batches. -/
abbrev Consumers := Pool Cmd Cmd.Res Err Unit Nat World

abbrev Consuming (fromAddress : String) (z : Zod) : Consumers → Consumers → Prop :=
  Reach (poll z) (Cmd.amid fromAddress) fun _ _ => True

def SqsMessage.payload? (z : Zod) (msg : SqsMessage) : Option NotificationPayload :=
  msg.body.parse?.bind (safeParse z)

def SqsMessage.object (msg : SqsMessage) : S3Object := ⟨"async/" ++ msg.messageId, msg.body⟩

/-- What the message calls for. -/
def SqsMessage.effect (z : Zod) (msg : SqsMessage) : Stmt :=
  match msg.payload? z with
  | some n => .sendEmail n.recipientEmail n.subject n.body
  | none => .putObject msg.object.key msg.object.body

theorem SqsMessage.effect_of_payload {z : Zod} {msg : SqsMessage} {n : NotificationPayload}
    (h : msg.payload? z = some n) : msg.effect z = .sendEmail n.recipientEmail n.subject n.body := by
  rw [SqsMessage.effect, h]

theorem SqsMessage.effect_of_none {z : Zod} {msg : SqsMessage} (h : msg.payload? z = none) :
    msg.effect z = .putObject msg.object.key msg.object.body := by
  rw [SqsMessage.effect, h]

/-- What was done about a message: what it calls for, and its deletion if that worked. -/
inductive Handled (z : Zod) (msg : SqsMessage) : List Seen → Prop
  | failed {o : Seen} (attempt : o.cmd = .one (msg.effect z)) (failed : o.answer.isOk = false) :
      Handled z msg [o]
  | deleted {o p : Seen} (attempt : o.cmd = .one (msg.effect z)) (worked : o.answer.isOk = true)
      (delete : p.cmd = .one (.deleteMessage msg.messageId)) : Handled z msg [o, p]

/-- The turn received a batch, has handled its messages one after the other, and has yet to handle
`todo`. -/
def UnderWay (z : Zod) (batchSize : Nat) (past : List Seen) (todo : List SqsMessage) : Prop :=
  ∃ done parts, past = ⟨.one (.receiveMessages batchSize), .ok (done ++ todo)⟩ :: parts.flatten ∧
    List.Forall₂ (Handled z) done parts

/-- What the turn does next. -/
inductive Deals (z : Zod) (batchSize : Nat) : List Seen → Cmd → Prop
  | receive : Deals z batchSize [] (.one (.receiveMessages batchSize))
  | attempt {past : List Seen} {msg : SqsMessage} {todo : List SqsMessage}
      (turn : UnderWay z batchSize past (msg :: todo)) : Deals z batchSize past (.one (msg.effect z))
  | delete {past : List Seen} {msg : SqsMessage} {todo : List SqsMessage} {o : Seen}
      (turn : UnderWay z batchSize past (msg :: todo)) (attempt : o.cmd = .one (msg.effect z))
      (worked : o.answer.isOk = true) :
      Deals z batchSize (past ++ [o]) (.one (.deleteMessage msg.messageId))

/-- The turn has handled its whole batch, or received none. -/
def Dealt (z : Zod) (batchSize : Nat) (past : List Seen) : Prop :=
  UnderWay z batchSize past [] ∨ ∃ e, past = [⟨.one (.receiveMessages batchSize), .error e⟩]

theorem UnderWay.next {z : Zod} {batchSize : Nat} {past part : List Seen} {msg : SqsMessage}
    {todo : List SqsMessage} (h : UnderWay z batchSize past (msg :: todo)) (hp : Handled z msg part) :
    UnderWay z batchSize (past ++ part) todo := by
  obtain ⟨done, parts, rfl, hparts⟩ := h
  refine ⟨done ++ [msg], parts ++ [part], ?_, ?_⟩
  · simp
  · exact List.rel_append hparts (.cons hp .nil)

section Turns

variable {z : Zod} {batchSize : Nat} {past : List Seen}

/-- How one message is handled, whatever is answered. -/
theorem handleMessage_obeys {msg : SqsMessage} {todo : List SqsMessage}
    (turn : UnderWay z batchSize past (msg :: todo)) :
    (handleMessage z msg).Obeys (fun _ _ => True) (Deals z batchSize)
      (fun past r => r = .ok () ∧ UnderWay z batchSize past todo) past := by
  have attempts := Deals.attempt turn
  have failed : ∀ o : Seen, o.cmd = .one (msg.effect z) → o.answer.isOk = false →
      UnderWay z batchSize (past ++ [o]) todo := fun o ho hf => turn.next (.failed ho hf)
  have deleted : ∀ o : Seen, o.cmd = .one (msg.effect z) → o.answer.isOk = true →
      (call (.deleteMessage msg.messageId)).Obeys (fun _ _ => True) (Deals z batchSize)
        (fun past _ => UnderWay z batchSize past todo) (past ++ [o]) := by
    intro o ho hw
    refine Prog.obeys_perform.mpr ⟨Deals.delete turn ho hw, fun r _ => ?_⟩
    rw [List.append_assoc]
    exact turn.next (.deleted ho hw rfl)
  refine Prog.Obeys.tryCatch (S := fun past _ => UnderWay z batchSize past todo) ?_
    (fun past _ ht => ⟨rfl, ht⟩) (fun past _ ht => ⟨rfl, ht⟩)
  unfold processMessage
  split
  next n parsed =>
    rw [SqsMessage.effect_of_payload parsed] at attempts failed deleted
    exact Prog.obeys_perform_bind.mpr
      ⟨attempts, fun _ _ => deleted _ rfl rfl, fun _ _ => failed _ rfl rfl⟩
  next other =>
    rw [SqsMessage.effect_of_none other] at attempts failed deleted
    exact Prog.obeys_perform_bind.mpr
      ⟨attempts, fun _ _ => deleted _ rfl rfl, fun _ _ => failed _ rfl rfl⟩

/-- By induction on the messages that are left: what became of one changes nothing for the next. -/
theorem handleMessages_obeys {todo : List SqsMessage} (turn : UnderWay z batchSize past todo) :
    (handleMessages z todo).Obeys (fun _ _ => True) (Deals z batchSize)
      (fun past r => r = .ok () ∧ UnderWay z batchSize past []) past := by
  induction todo generalizing past with
  | nil => exact ⟨rfl, turn⟩
  | cons msg todo ih =>
    refine Prog.Obeys.bind (handleMessage_obeys turn) (fun past _ h => ih h.2) ?_
    rintro past e ⟨he, _⟩
    cases he

theorem poll_obeys : (poll z batchSize).Obeys (fun _ _ => True) (Deals z batchSize)
    (fun past r => r = .ok () ∧ Dealt z batchSize past) [] := by
  refine ⟨.receive, fun received _ => ?_⟩
  cases received with
  | error e => exact ⟨rfl, .inr ⟨e, rfl⟩⟩
  | ok messages =>
    have turn : UnderWay z batchSize [⟨.one (.receiveMessages batchSize), .ok messages⟩] messages :=
      ⟨[], [], rfl, .nil⟩
    exact (handleMessages_obeys turn).mono (fun _ _ h => h) fun past r h => ⟨h.1, .inl h.2⟩

end Turns

def polling (z : Zod) : Contract Cmd Cmd.Res Err Unit Nat where
  answers _ _ := True
  issues := Deals z
  returns batchSize past r := r = .ok () ∧ Dealt z batchSize past

theorem poll_kept (fromAddress : String) (z : Zod) :
    (polling z).Kept (poll z) (Cmd.amid fromAddress) where
  answers _ _ _ := trivial
  obeys _ := poll_obeys

/-- What becomes of a call: it is struck, or a mail is only logged, or it is executed in the world
with the messages that arrived, and its answer may be lost. -/
inductive Befalls (fromAddress : String) (x : Circumstance) (s : Stmt) (w : World) :
    Except Err s.Res → World → Prop
  | struck {r : Except Err s.Res} (failed : r.isOk = false) :
      Befalls fromAddress x s w r (w.arrives x.arrived)
  | logged {r : Except Err s.Res} {recipient subject body : String} (stub : fromAddress = "")
      (mail : s = .sendEmail recipient subject body) :
      Befalls fromAddress x s w r (w.arrives x.arrived)
  | executed {r : Except Err s.Res}
      (answer : r.isOk = true → r = (s.exec x.oracle (w.arrives x.arrived)).1) :
      Befalls fromAddress x s w r (s.exec x.oracle (w.arrives x.arrived)).2

section Calls

variable {z : Zod} {fromAddress : String} {x : Circumstance} {w w' : World} {msg : SqsMessage}
  {batchSize : Nat}

/-- What is executed, and its answer perhaps lost. -/
theorem befalls_of_executed {s : Stmt} {lost : Bool} {r : Except Err s.Res}
    (h : (if lost = true then
        (.error .failed, (Cmd.exec x.oracle (.one s) (w.arrives x.arrived)).2)
      else Cmd.exec x.oracle (.one s) (w.arrives x.arrived)) = (r, w')) :
    Befalls fromAddress x s w r w' := by
  rcases Cmd.exec_one x.oracle s (w.arrives x.arrived) with he | he
  · rw [he] at h
    split at h <;> cases h <;> exact .struck rfl
  · rw [he] at h
    split at h
    next =>
      cases h
      exact .executed nofun
    next =>
      have hr : (s.exec x.oracle (w.arrives x.arrived)).1 = r := congrArg Prod.fst h
      have hw : (s.exec x.oracle (w.arrives x.arrived)).2 = w' := congrArg Prod.snd h
      exact hw ▸ .executed fun _ => hr.symm

theorem Cmd.amid_befalls {s : Stmt} {r : Except Err s.Res}
    (h : Cmd.amid fromAddress x (.one s) w = (r, w')) : Befalls fromAddress x s w r w' := by
  cases s with
  | sendEmail recipient subject body =>
    by_cases hunset : fromAddress = ""
    · simp only [Cmd.amid, Cmd.dispatch, Cmd.remote, hunset, ne_eq, not_true_eq_false,
        decide_false, Bool.and_false, Bool.false_eq_true, if_true, if_false] at h
      cases h
      exact .logged hunset rfl
    · simp only [Cmd.amid, Cmd.dispatch, hunset, if_false] at h
      exact befalls_of_executed h
  | _ => exact befalls_of_executed h

/-- What the statement leaves as it is, the call does. -/
theorem Cmd.amid_keeps {β : Type} (field : World → β) {s : Stmt} {r : Except Err s.Res}
    (hs : ∀ u, field (s.exec x.oracle u).2 = field u)
    (h : Cmd.amid fromAddress x (.one s) w = (r, w')) : field w' = field (w.arrives x.arrived) := by
  cases Cmd.amid_befalls h with
  | struck => rfl
  | logged => rfl
  | executed => exact hs _

/-- A consumer takes nothing off the queue by what it does. -/
theorem Deals.queue {past : List Seen} {c : Cmd} {r : Except Err c.Res}
    (h : Deals z batchSize past c) (hx : Cmd.amid fromAddress x c w = (r, w')) :
    w'.queue = w.queue ++ x.arrived := by
  cases h with
  | receive => exact Cmd.amid_keeps World.queue (fun _ => rfl) hx
  | delete => exact Cmd.amid_keeps World.queue (fun _ => rfl) hx
  | @attempt _ msg =>
    refine Cmd.amid_keeps World.queue (fun u => ?_) hx
    unfold SqsMessage.effect
    split <;> rfl

/-- Only the message's own object is written. -/
theorem Deals.objects {past : List Seen} {c : Cmd} {r : Except Err c.Res}
    (h : Deals z batchSize past c) (hx : Cmd.amid fromAddress x c w = (r, w')) :
    w'.objects = w.objects ∨ ∃ msg todo, UnderWay z batchSize past (msg :: todo) ∧
      w'.objects = w.objects.filter (·.key ≠ msg.object.key) ++ [msg.object] := by
  have put : ∀ msg : SqsMessage, ∀ s, s = .putObject msg.object.key msg.object.body →
      ∀ r : Except Err s.Res, Cmd.amid fromAddress x (.one s) w = (r, w') →
        w'.objects = w.objects ∨
          w'.objects = w.objects.filter (·.key ≠ msg.object.key) ++ [msg.object] := by
    rintro msg _ rfl r hx
    cases Cmd.amid_befalls hx with
    | struck => exact .inl rfl
    | logged _ mail => cases mail
    | executed => exact .inr rfl
  cases h with
  | receive => exact .inl (Cmd.amid_keeps World.objects (fun _ => rfl) hx)
  | delete => exact .inl (Cmd.amid_keeps World.objects (fun _ => rfl) hx)
  | @attempt _ msg todo turn =>
    cases hp : msg.payload? z with
    | some n =>
      refine .inl (Cmd.amid_keeps World.objects (fun u => ?_) hx)
      rw [SqsMessage.effect_of_payload hp]
      rfl
    | none =>
      exact (put msg _ (SqsMessage.effect_of_none hp) _ hx).imp_right fun hw =>
        ⟨msg, todo, turn, hw⟩

/-- What is delivered is on the queue. -/
theorem received_queued {messages : List SqsMessage}
    (hx : Cmd.amid fromAddress x (.one (.receiveMessages batchSize)) w = (.ok messages, w')) :
    messages ⊆ w'.queue := by
  cases Cmd.amid_befalls hx with
  | struck failed => cases failed
  | logged _ mail => cases mail
  | executed answer =>
    have hm : messages = _ := Except.ok.inj (answer rfl)
    intro msg hmsg
    rw [hm] at hmsg
    obtain ⟨i, _, hi⟩ := List.mem_filterMap.mp (List.mem_of_mem_take hmsg)
    exact List.mem_of_getElem? hi

theorem effect_done {c : Cmd} {r : Except Err c.Res} (hc : c = .one (msg.effect z))
    (hx : Cmd.amid fromAddress x c w = (r, w')) (hok : r.isOk = true) :
    match msg.payload? z with
    | some n => fromAddress = "" ∨
        w'.mails = w.mails ++ [⟨n.recipientEmail, n.subject, n.body⟩]
    | none => msg.object ∈ w'.objects := by
  subst hc
  have done := Cmd.amid_befalls hx
  cases hp : msg.payload? z with
  | some n =>
    have heffect := SqsMessage.effect_of_payload hp
    cases done with
    | struck failed => cases failed.symm.trans hok
    | logged stub => exact .inl stub
    | executed =>
      rw [heffect]
      exact .inr rfl
  | none =>
    have heffect := SqsMessage.effect_of_none hp
    cases done with
    | struck failed => cases failed.symm.trans hok
    | logged _ mail => cases heffect.symm.trans mail
    | executed =>
      rw [heffect]
      exact List.mem_append_right _ (List.mem_singleton_self _)

end Calls

/-- The entry did what the message calls for: it sent the mail, or wrote the object. -/
structure Completes (z : Zod) (stub : Prop) (msg : SqsMessage) (e : Entry Cmd Cmd.Res Err World) :
    Prop where
  effect : e.obs.cmd = .one (msg.effect z)
  worked : e.obs.answer.isOk = true
  done : match msg.payload? z with
    | some n => stub ∨ e.after.mails = e.before.mails ++ [⟨n.recipientEmail, n.subject, n.body⟩]
    | none => msg.object ∈ e.after.objects

/-- A message is deleted by a consumer that received it and has just completed its effect; the
object of a message is its body; and every turn handles the messages of its batch one after the
other, unless it crashes. -/
structure Consumers.Lossless (s : Consumers) (z : Zod) (stub : Prop) : Prop where
  deletes : ∀ h₁ e h₂ id, s.history = h₁ ++ e :: h₂ → e.obs.cmd = .one (.deleteMessage id) →
    ∃ a x b msg, h₁ = a ++ x :: b ∧ x.tid = e.tid ∧ own e.tid b = [] ∧ msg.messageId = id ∧
      msg ∈ x.before.queue ∧ Completes z stub msg x
  stores : ∀ msg ∈ s.world.queue, ∀ o ∈ s.world.objects, o.key = msg.object.key → o = msg.object
  once : (s.world.objects.map S3Object.key).Nodup
  turns : ∀ i t, s.threads[i]? = some t →
    (∃ c, t.next? = some c ∧ Deals z t.request (own i s.history) c) ∨
      t.result? = some (.ok ()) ∧ Dealt z t.request (own i s.history)

section Runs

variable {fromAddress : String} {z : Zod} {w : World} {s : Consumers}

theorem Consuming.deals (h : Consuming fromAddress z { world := w } s)
    {h₁ h₂ : List (Entry Cmd Cmd.Res Err World)} {e : Entry Cmd Cmd.Res Err World}
    (hs : s.history = h₁ ++ e :: h₂) : ∃ batchSize x, Deals z batchSize (own e.tid h₁) e.obs.cmd ∧
      Cmd.amid fromAddress x e.obs.cmd e.before = (e.obs.answer, e.after) := by
  obtain ⟨t, _, deals, x, hx⟩ := h.issued (poll_kept fromAddress z) hs
  exact ⟨t.request, x, deals, hx⟩

theorem Consuming.queue_grows (h : Consuming fromAddress z { world := w } s)
    {m : List (Entry Cmd Cmd.Res Err World)} (hm : m ⊆ s.history) {u v : World}
    (hl : Linked u m v) : u.queue <+: v.queue := by
  refine hl.relates (r := fun u v => u.queue <+: v.queue) (fun _ => List.prefix_rfl)
    (fun _ _ _ => List.IsPrefix.trans) fun e he => ?_
  obtain ⟨h₁, h₂, hs⟩ := List.append_of_mem (hm he)
  obtain ⟨_, x, deals, hx⟩ := h.deals hs
  exact ⟨x.arrived, (deals.queue hx).symm⟩

/-- A message that is being handled is still on the queue that delivered it. -/
theorem Consuming.queued (h : Consuming fromAddress z { world := w } s)
    {h₁ h₂ : List (Entry Cmd Cmd.Res Err World)} {e : Entry Cmd Cmd.Res Err World}
    (hs : s.history = h₁ ++ e :: h₂) {batchSize : Nat} {msg : SqsMessage} {todo : List SqsMessage}
    (turn : UnderWay z batchSize (own e.tid h₁) (msg :: todo)) : msg ∈ e.before.queue := by
  obtain ⟨done, parts, hown, _⟩ := turn
  obtain ⟨a, r, b, rfl, _, hobs, _⟩ := own_head (congrArg List.head? hown)
  have hs' : s.history = a ++ r :: (b ++ e :: h₂) := by simpa using hs
  obtain ⟨_, x, _, hx⟩ := h.deals hs'
  have hl : Linked w (a ++ r :: (b ++ e :: h₂)) s.world := hs' ▸ h.linked
  have hb : b ⊆ s.history := fun y hy => by simp [hs', hy]
  rw [hobs] at hx
  have hdelivered : msg ∈ r.after.queue := received_queued hx (by simp)
  exact (h.queue_grows hb hl.at.2.at.1).subset hdelivered

/-- By induction on the history: every object was written for a message of the queue. -/
theorem Consuming.objects (empty : w.objects = []) (h : Consuming fromAddress z { world := w } s) :
    (∀ o ∈ s.world.objects, ∃ msg ∈ s.world.queue, o = msg.object) ∧
      (s.world.objects.map S3Object.key).Nodup := by
  refine h.linked.invariant (I := fun _ v =>
    (∀ o ∈ v.objects, ∃ msg ∈ v.queue, o = msg.object) ∧ (v.objects.map S3Object.key).Nodup)
    (by simp [empty]) ?_
  rintro h₁ e h₂ hs ⟨hfrom, hnodup⟩
  obtain ⟨batchSize, x, deals, hx⟩ := h.deals hs
  have hqueue : e.before.queue ⊆ e.after.queue := by
    rw [deals.queue hx]
    exact List.subset_append_left _ _
  have hfrom : ∀ o ∈ e.before.objects, ∃ msg ∈ e.after.queue, o = msg.object := fun o ho =>
    let ⟨msg, hmsg, heq⟩ := hfrom o ho
    ⟨msg, hqueue hmsg, heq⟩
  rcases deals.objects hx with hsame | ⟨msg, todo, turn, hput⟩
  · rw [hsame]
    exact ⟨hfrom, hnodup⟩
  · rw [hput]
    constructor
    · intro o ho
      rcases List.mem_append.mp ho with ho | ho
      · exact hfrom o (List.mem_filter.mp ho).1
      · exact ⟨msg, hqueue (h.queued hs turn), List.mem_singleton.mp ho⟩
    · rw [List.map_append, List.nodup_append]
      refine ⟨hnodup.sublist (List.filter_sublist.map _), List.nodup_singleton _, ?_⟩
      rintro k hk k' hk' rfl
      obtain ⟨o, ho, rfl⟩ := List.mem_map.mp hk
      have hne : o.key ≠ msg.object.key := by simpa using (List.mem_filter.mp ho).2
      exact hne (List.mem_singleton.mp hk')

theorem consumers_lossless (h : Consuming fromAddress z { world := w } s) (empty : w.objects = [])
    (unique : (s.world.queue.map SqsMessage.messageId).Nodup) :
    s.Lossless z (fromAddress = "") := by
  obtain ⟨hfrom, hnodup⟩ := h.objects empty
  refine ⟨fun h₁ e h₂ id hs hdelete => ?_, fun msg hmsg o ho hkey => ?_, hnodup, fun i t ht => ?_⟩
  · obtain ⟨batchSize, _, deals, _⟩ := h.deals hs
    generalize hown : own e.tid h₁ = past at deals
    rw [hdelete] at deals
    generalize hc : Cmd.one (.deleteMessage id) = c at deals
    cases deals with
    | receive => cases hc
    | @attempt msg _ turn =>
      have heffect := Cmd.one.inj hc
      unfold SqsMessage.effect at heffect
      split at heffect <;> cases heffect
    | @delete past msg todo o turn attempt worked =>
      cases hc
      obtain ⟨a, x, b, rfl, htid, rfl, hpast, hnone⟩ := own_last hown
      have hs' : s.history = a ++ x :: (b ++ e :: h₂) := by simpa using hs
      obtain ⟨_, y, _, hx⟩ := h.deals hs'
      exact ⟨a, x, b, msg, rfl, htid, hnone, rfl, h.queued hs' (htid ▸ hpast ▸ turn),
        attempt, worked, effect_done attempt hx worked⟩
  · obtain ⟨msg', hmsg', rfl⟩ := hfrom o ho
    have hid : msg'.messageId = msg.messageId := by simpa [SqsMessage.object] using hkey
    rw [List.inj_on_of_nodup_map unique hmsg' hmsg hid]
  · have hobeys := h.obeys (poll_kept fromAddress z) ht
    obtain ⟨batchSize, state, stopped⟩ := t
    cases state with
    | pure _ => exact .inr ⟨rfl, hobeys.2⟩
    | throw e => cases hobeys.1
    | stmt c k => exact .inl ⟨c, rfl, hobeys.1⟩

end Runs

namespace Sample

def aviso : Json :=
  .object [("type", .string "ticket.commented"),
    ("ticketId", .string "00000000-0000-0000-0000-000000000066"),
    ("recipientEmail", .string "ana@sample.com"), ("subject", .string "Nuevo comentario"),
    ("body", .string "Listo")]

/-- A text that is no JSON, and a notification. -/
def loaded : World :=
  { world with queue := [⟨"m1", .text "sin formato"⟩, ⟨"m2", .stringify aviso⟩] }

def meets (delivered : List Nat) (fails lost : Bool) : Circumstance where
  oracle := { uuid := 0, delivered := delivered, fault := if fails then some 0 else none }
  lost := lost

/-- The first consumer cannot store the first message, and mails the second one; the other two are
delivered the first one again, and the answer to the deletion is lost. -/
def turnsTaken : List (Move Nat Circumstance) :=
  [.arrive 10, .run 0 (meets [0, 1] false false), .run 0 (meets [] true false),
    .arrive 1, .arrive 1, .run 1 (meets [0] false false), .run 2 (meets [0] false false),
    .run 0 (meets [] false false), .run 0 (meets [] false false),
    .run 1 (meets [] false false), .run 2 (meets [] false false), .run 1 (meets [] false true),
    .stop 2]

def consume? (fromAddress : String) : Option Consumers :=
  Pool.replay (poll .documented) (Cmd.amid fromAddress) (fun _ _ => true) turnsTaken
    { world := loaded }

def consumed : Consumers := (consume? "tickets@sample.com").get (by decide +kernel)

def stubbed : Consumers := (consume? "").get (by decide +kernel)

theorem consume_run {fromAddress : String} {s : Consumers} (h : consume? fromAddress = some s) :
    Consuming fromAddress .documented { world := loaded } s :=
  (Reach.of_replay h).mono fun _ _ _ => trivial

example : consumed.world.deleted = ["m2", "m1"] ∧ consumed.world.mails.length = 1 ∧
    consumed.world.objects = [⟨"async/m1", .text "sin formato"⟩] := by decide +kernel

end Sample

open Sample in
theorem consumers_lossless_consumed : consumed.Lossless .documented ("tickets@sample.com" = "") :=
  consumers_lossless (consume_run (Option.some_get _).symm) rfl (by decide +kernel)

open Sample in
/-- Without an address to send from, a notification is deleted and nothing is mailed. -/
theorem stub_mails_nothing : ¬ ∀ (fromAddress : String) (z : Zod) (w : World) (s : Consumers),
    Consuming fromAddress z { world := w } s → w.objects = [] →
      (s.world.queue.map SqsMessage.messageId).Nodup → s.Lossless z False := by
  intro hall
  have lossless := hall "" .documented loaded stubbed (consume_run (Option.some_get _).symm) rfl
    (by decide +kernel)
  have hlen : 5 < stubbed.history.length := by decide +kernel
  have hs : stubbed.history =
      stubbed.history.take 5 ++ stubbed.history[5] :: stubbed.history.drop 6 := by simp
  obtain ⟨a, x, b, msg, htake, _, _, hid, hqueued, completes⟩ :=
    lossless.deletes _ _ _ "m2" hs rfl
  have hx : x ∈ stubbed.history := List.take_subset 5 _ (htake ▸ by simp)
  have hqueue : ∀ e ∈ stubbed.history, e.before.queue = loaded.queue := by decide +kernel
  have hmails : ∀ e ∈ stubbed.history, e.after.mails = [] := by decide +kernel
  have hmsg : ∀ m ∈ loaded.queue, m.messageId = "m2" → m.payload? .documented ≠ none := by
    decide +kernel
  have done := completes.done
  rw [hqueue x hx] at hqueued
  cases hp : msg.payload? .documented with
  | none => exact hmsg msg hqueued hid hp
  | some n =>
    rw [hp, hmails x hx] at done
    simp at done

end TicketSystem
