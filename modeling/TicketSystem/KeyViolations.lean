import TicketSystem.Numbering

namespace TicketSystem

open Relational Interleaved

/-- The transaction of request `i` was refused while a stored row carried its key. -/
def Server.KeyViolated (s : Server) (i : Nat) (key : Option String) : Prop :=
  ∃ e ∈ s.history, e.tid = i ∧ e.obs.cmd.commits = true ∧
    (∃ err, e.obs.answer = .error err) ∧
    ∃ k, key = some k ∧ ∃ x ∈ e.before.tickets.rows, x.idempotencyKey = some k

/-- No create has ended in a unique violation on its key, and one without a key, or with the
empty one, has stored a new ticket, unless it failed from outside. -/
structure Server.SurvivesKeys (s : Server) : Prop where
  unviolated : ∀ (i : Nat) (t : Task) dto user key, s.threads[i]? = some t →
    t.request = .create dto user key → Thread.result? t = some (.error (.prisma .P2002)) →
    ¬ s.KeyViolated i key
  creates : ∀ (i : Nat) (t : Task) dto user key r, s.threads[i]? = some t →
    t.request = .create dto user key → truthy key = none → Thread.result? t = some r →
    r = .error .failed ∨
      ∃ row, r = .ok (.created { ticket := row, created := true }) ∧ s.Inserted i row

def World.hasKey (w : World) (key : Option String) : Bool :=
  key.isSome && w.tickets.rows.any fun x => x.idempotencyKey == key

/-- A row carries the number that the sequence gives next. -/
def World.numberTaken (w : World) : Bool :=
  w.tickets.rows.any fun x => x.ticketNumber == ticketNumber (w.ticketNumberSeq + 1)

/-- The next statement of a thread is the transaction of a create whose key is not looked up,
the table holds that key or the next number, and the insert is not struck before it begins. -/
def collides (s : Server) : Action → Bool
  | .run i o => (s.threads[i]?).any fun t =>
    match t.request with
    | .create _ _ key => (Thread.next? t).any Cmd.commits && (truthy key).isNone &&
        o.fault != some 0 && (s.world.hasKey key || s.world.numberTaken)
    | _ => false
  | _ => false

def sparesKeys (s : Server) (a : Action) : Bool := freshIds s a && !collides s a

theorem looks_answer {c : Cmd} (hc : c.looks = true) (o : Oracle) (w : World) {err : Err}
    (h : (c.exec o w).1 = .error err) : err ≠ .prisma .P2002 := by
  cases c with
  | transaction => cases hc
  | one s =>
    rcases Cmd.exec_one o s w with he | he
    · cases (congrArg Prod.fst he).symm.trans h
      simp
    · have h := (congrArg Prod.fst he).symm.trans h
      cases s with
      | ticketFindPage =>
        simp only [Stmt.exec] at h
        split at h
        next => cases h
        next =>
          cases h
          simp
      | _ => first | cases h | cases hc

/-- A create whose key is not looked up ends as its transaction does; one whose key is looked up
ends in a unique violation only after it has found no row with that key. -/
structure Concludes (q : Request) (past : List Seen) (r : Except Err Response) : Prop where
  unkeyed : ∀ dto user key, q = .create dto user key → truthy key = none →
    ∀ c e, past.getLast? = some ⟨c, .error e⟩ → r = .error e
  keyed : ∀ dto user key k, q = .create dto user key → truthy key = some k →
    r = .error (.prisma .P2002) →
    past.getLast? = some ⟨.one (.ticketFindFirst { idempotencyKey := some k }), .ok none⟩

/-- Such a create does nothing after its transaction. -/
def OnceRefused (q : Request) (past : List Seen) (_ : Cmd) : Prop :=
  ∀ dto user key, q = .create dto user key → truthy key = none → ∀ o ∈ past, o.cmd.looks = true

def Unclashing {α : Type} (r : Except Err α) : Prop := ∀ e, r = .error e → e ≠ .prisma .P2002

def keyTerms : Contract Cmd Cmd.Res Err Response Request where
  answers c r := c.looks = true → Unclashing r
  issues := OnceRefused
  returns := Concludes

section Terms

variable {dto : CreateTicketDto} {user : User} {key : Option String} {past : List Seen}

/-- What ends right after an error ends in that error. -/
def PassesOn {α : Type} (past : List Seen) (r : Except Err α) : Prop :=
  ∀ c e, past.getLast? = some ⟨c, .error e⟩ → r = .error e

theorem passesOn_error {α : Type} {c : Cmd} {e : Err} :
    PassesOn (past ++ [⟨c, .error e⟩]) (.error e : Except Err α) := by
  intro c' e' h
  rw [List.getLast?_concat] at h
  cases h
  rfl

theorem passesOn_of_ok {α : Type} {c : Cmd} {a : c.Res} {r : Except Err α} :
    PassesOn (past ++ [⟨c, .ok a⟩]) r := by
  intro c' e' h
  rw [List.getLast?_concat] at h
  cases h

theorem insertTicket_unkeyed (htruthy : truthy key = none) :
    (insertTicket dto user key).Obeys keyTerms.answers
      (fun past _ => ∀ o ∈ past, o.cmd.looks = true) PassesOn [] := by
  unfold insertTicket
  obtain ⟨priority, hp⟩ := calculatePriority_ok dto.severityRange dto.impactRange
  rw [hp]
  refine Prog.obeys_perform_bind.mpr ⟨by simp, fun sla _ => ?_, fun e _ => passesOn_error⟩
  refine Prog.Obeys.bind (S := fun past r => (∀ o ∈ past, o.cmd.looks = true) ∧ PassesOn past r) ?_
    (fun past slaDueAt h => ?_) (fun past e h c e' he => ?_)
  · cases sla with
    | none => exact ⟨by simp; rfl, passesOn_of_ok⟩
    | some sla =>
      refine Prog.obeys_perform_bind.mpr ⟨by simp; rfl, fun now _ => ?_, fun e _ => ?_⟩
      · exact ⟨by simp; exact ⟨rfl, rfl⟩, passesOn_of_ok⟩
      · exact ⟨by simp; exact ⟨rfl, rfl⟩, passesOn_error⟩
  · refine Prog.Obeys.tryCatch (S := PassesOn) ?_ (fun _ _ h => h) (fun past e h => ?_)
    · exact Prog.obeys_perform_bind.mpr ⟨h.1, fun t _ => passesOn_of_ok, fun e _ => passesOn_error⟩
    · unfold recoverDuplicate
      rw [htruthy]
      exact h
  · cases h.2 c e' he
    rfl

/-- A unique violation is passed on only after no row was found under the key. -/
def Sought {α : Type} (k : String) (past : List Seen) (r : Except Err α) : Prop :=
  r = .error (.prisma .P2002) →
    past.getLast? = some ⟨.one (.ticketFindFirst { idempotencyKey := some k }), .ok none⟩

theorem unclashing_of_looks {α : Type} {c : Cmd} (hc : c.looks = true) {e : Err}
    (he : keyTerms.answers c (.error e)) : Unclashing (.error e : Except Err α) := by
  intro e' hr
  cases hr
  exact he hc e rfl

theorem Unclashing.ok {α : Type} {a : α} : Unclashing (.ok a : Except Err α) := fun _ hr => nomatch hr

theorem Unclashing.sought {α β : Type} {k : String} {e : Err}
    (h : Unclashing (.error e : Except Err β)) : Sought k past (.error e : Except Err α) := by
  intro hr
  cases hr
  exact absurd rfl (h _ rfl)

theorem sought_ok {α : Type} {k : String} {a : α} : Sought k past (.ok a : Except Err α) :=
  fun hr => nomatch hr

theorem recoverDuplicate_keyed {k : String} (htruthy : truthy key = some k) (err : Err) :
    (recoverDuplicate key err).Obeys keyTerms.answers (fun _ _ => True) (Sought k) past := by
  unfold recoverDuplicate
  rw [htruthy]
  split
  next heq =>
    cases heq
    refine Prog.obeys_perform_bind.mpr
      ⟨trivial, fun existing _ => ?_, fun e he => (unclashing_of_looks (α := Unit) rfl he).sought⟩
    cases existing with
    | some t => exact sought_ok
    | none => exact fun _ => List.getLast?_concat ..
  next hother =>
    intro hr
    cases hr
    exact absurd rfl (hother k rfl)

theorem insertTicket_keyed {k : String} (htruthy : truthy key = some k) :
    (insertTicket dto user key).Obeys keyTerms.answers (fun _ _ => True) (Sought k) past := by
  unfold insertTicket
  obtain ⟨priority, hp⟩ := calculatePriority_ok dto.severityRange dto.impactRange
  rw [hp]
  refine Prog.obeys_perform_bind.mpr
    ⟨trivial, fun sla _ => ?_, fun e he => (unclashing_of_looks (α := Unit) rfl he).sought⟩
  refine Prog.Obeys.bind (S := fun _ => Unclashing) ?_ (fun past slaDueAt _ => ?_)
    (fun past e he => he.sought)
  · cases sla with
    | none => exact .ok
    | some sla =>
      exact Prog.obeys_perform_bind.mpr
        ⟨trivial, fun now _ => .ok, fun e he => unclashing_of_looks rfl he⟩
  · exact Prog.Obeys.tryCatch (Prog.obeys_any _ _) (fun _ _ _ => sought_ok)
      fun past e _ => recoverDuplicate_keyed htruthy e

theorem lookupRecent_unclashing (k : String) :
    (lookupRecent k).Obeys keyTerms.answers (fun _ _ => True) (fun _ => Unclashing) past := by
  refine Prog.obeys_perform_bind.mpr
    ⟨trivial, fun now _ => ?_, fun _ he => unclashing_of_looks rfl he⟩
  refine Prog.obeys_perform (P := fun _ _ => True) (Q := fun _ => Unclashing).mpr
    ⟨trivial, fun r hr => ?_⟩
  exact hr rfl

theorem create_unkeyed (htruthy : truthy key = none) :
    (respond .created (create dto user key)).Obeys keyTerms.answers
      (OnceRefused (.create dto user key)) (Concludes (.create dto user key)) [] := by
  have keyed : ∀ past (r : Except Err Response), PassesOn past r →
      Concludes (.create dto user key) past r := by
    intro past r h
    refine ⟨fun _ _ _ _ _ => h, fun _ _ _ k hq hk => ?_⟩
    cases hq
    cases htruthy.symm.trans hk
  refine Prog.Obeys.bind (S := PassesOn) ?_ (fun past c h => keyed _ _ fun c' e' hlast => ?_)
    (fun past e h => keyed _ _ fun c' e' hlast => ?_)
  · unfold create
    rw [htruthy]
    exact (insertTicket_unkeyed htruthy).mono (fun _ _ h _ _ _ _ _ => h) fun _ _ h => h
  · cases h c' e' hlast
  · cases h c' e' hlast
    rfl

theorem create_keyed {k : String} (htruthy : truthy key = some k) :
    (respond .created (create dto user key)).Obeys keyTerms.answers
      (OnceRefused (.create dto user key)) (Concludes (.create dto user key)) [] := by
  refine Prog.Obeys.mono (P := fun _ _ => True) (Q := Sought k) ?_
    (fun past c _ _ _ _ hq hnone => ?_) (fun past r h => ⟨fun _ _ _ hq hnone => ?_, ?_⟩)
  · refine Prog.Obeys.bind (S := Sought k) ?_ (fun _ _ _ => sought_ok) (fun past e h hr => ?_)
    · unfold create
      rw [htruthy]
      refine (lookupRecent_unclashing k).bind (fun past found _ => ?_) (fun past e he => he.sought)
      cases found with
      | some t => exact sought_ok
      | none => exact insertTicket_keyed htruthy
    · cases hr
      exact h rfl
  · cases hq
    cases htruthy.symm.trans hnone
  · cases hq
    cases htruthy.symm.trans hnone
  · intro _ _ _ k' hq hk'
    cases hq
    cases htruthy.symm.trans hk'
    exact h

theorem other_concludes {q : Request} (other : ∀ dto user key, q ≠ .create dto user key) :
    (serve q).Obeys keyTerms.answers (OnceRefused q) (Concludes q) [] :=
  (Prog.obeys_any _ _).mono (fun _ _ _ _ _ _ hq => absurd hq (other _ _ _))
    fun _ _ _ => ⟨fun _ _ _ hq => absurd hq (other _ _ _), fun _ _ _ _ hq => absurd hq (other _ _ _)⟩

theorem keyTerms_kept : keyTerms.Kept serve Cmd.exec where
  answers o c w hc e hr := looks_answer hc o w hr
  obeys q := by
    cases q with
    | create dto user key =>
      cases htruthy : truthy key with
      | none => exact create_unkeyed htruthy
      | some k => exact create_keyed htruthy
    | _ => exact other_concludes (by simp)

end Terms

section Runs

variable {ok : Server → Action → Bool} {w : World} {s : Server}

/-- A create whose key is looked up finds the row it was refused for. -/
theorem keyed_unviolated (h : Run ok { world := w } s) {i : Nat} {t : Task}
    {dto : CreateTicketDto} {user : User} {key : Option String} {k : String}
    (ht : s.threads[i]? = some t) (hq : t.request = .create dto user key)
    (htruthy : truthy key = some k)
    (hr : Thread.result? t = some (.error (.prisma .P2002))) : ¬ s.KeyViolated i key := by
  rintro ⟨e, he, htid, hcommits, _, k', hkey, x, hx, hxk⟩
  cases (truthy_eq_some.mp htruthy).1.symm.trans hkey
  have hconcludes : Concludes t.request (own i s.history) _ := h.returned keyTerms_kept ht hr
  have hlast := hconcludes.keyed dto user key k hq htruthy rfl
  obtain ⟨l, hl⟩ := List.getLast?_eq_some_iff.mp hlast
  obtain ⟨h₁, e', h₂, hh, htid', hobs, _, hnone⟩ := own_last hl
  -- the transaction came before the lookup
  have hbefore : e ∈ h₁ := by
    rw [hh] at he
    rcases List.mem_append.mp he with he | he
    · exact he
    · rcases List.mem_cons.mp he with rfl | he
      · rw [hobs] at hcommits
        cases hcommits
      · have hmem : e.obs ∈ own i h₂ := mem_own.mpr ⟨e, he, htid, rfl⟩
        rw [hnone] at hmem
        cases hmem
  obtain ⟨a, b, rfl⟩ := List.append_of_mem hbefore
  obtain ⟨row, hrow, hevolves⟩ : ∃ row, e'.before.ticket? x.id = some row ∧ x.Evolves row := by
    have hl : Linked w ((a ++ e :: b) ++ e' :: h₂) s.world := hh ▸ h.linked
    obtain ⟨v, _, hv⟩ := linked_append.mp hl.at.1
    cases hv.1
    exact Run.evolves_along h hh hv _ _ (World.ticket?_of_mem hx)
  obtain ⟨o, hexec⟩ := Run.executed h hh hobs
  simp only [Stmt.exec, Prod.mk.injEq, Except.ok.injEq, Table.find?, List.find?_eq_none] at hexec
  refine hexec.1 row (World.ticket?_mem hrow) ?_
  simp [TicketWhere.matches, hevolves.idempotencyKey.trans hxk]

theorem collides_iff {i : Nat} {dto : CreateTicketDto} {user : User} {key : Option String}
    {c : Cmd} {k : Except Err c.Res → Service Response} {o : Oracle}
    (thread : s.threads[i]? = some { request := .create dto user key, state := .stmt c k }) :
    collides s (.run i o) = true ↔ c.commits = true ∧ truthy key = none ∧ o.fault ≠ some 0 ∧
      ∃ y ∈ s.world.tickets.rows, y.ticketNumber = ticketNumber (s.world.ticketNumberSeq + 1) ∨
        ∃ k, key = some k ∧ y.idempotencyKey = some k := by
  have hkey : s.world.hasKey key = true ↔
      ∃ y ∈ s.world.tickets.rows, ∃ k, key = some k ∧ y.idempotencyKey = some k := by
    cases key with
    | none => simp [World.hasKey]
    | some k => simp [World.hasKey]
  have hnumber : s.world.numberTaken = true ↔ ∃ y ∈ s.world.tickets.rows,
      y.ticketNumber = ticketNumber (s.world.ticketNumberSeq + 1) := by
    simp [World.numberTaken]
  simp only [collides, thread, Option.any_some, Thread.next?, Bool.and_eq_true, Bool.or_eq_true,
    hkey, hnumber, Option.isNone_iff_eq_none, bne_iff_ne, and_assoc]
  refine and_congr_right fun _ => and_congr_right fun _ => and_congr_right fun _ => ?_
  rw [or_comm, ← exists_or]
  simp only [← and_or_left]

/-- In such runs a create whose key is not looked up is only answered with errors from outside. -/
theorem unkeyed_error (h : Run sparesKeys { world := w } s) {i : Nat} {t : Task}
    {dto : CreateTicketDto} {user : User} {key : Option String} (ht : s.threads[i]? = some t)
    (hq : t.request = .create dto user key) (htruthy : truthy key = none) {x : Seen}
    (hx : x ∈ own i s.history) {err : Err} (herr : x.answer = .error err) : err = .failed := by
  have hfresh : ∀ s a, sparesKeys s a = true → freshIds s a = true :=
    fun _ _ hspares => (Bool.and_eq_true_iff.mp hspares).1
  refine (Run.create_failed hfresh h ht hq hx herr).resolve_right ?_
  rintro ⟨h₁, e, h₂, u, k, o, _, rfl, hm, hcommits, _, hf, _, hrow⟩
  have hcollides : collides u (.run e.tid o) = true :=
    (collides_iff hm.thread).mpr ⟨hcommits, htruthy, hf, hrow⟩
  have hspared := (Bool.and_eq_true_iff.mp hm.admitted).2
  rw [hcollides] at hspared
  cases hspared

theorem Run.survivesKeys (h : Run sparesKeys { world := w } s) : s.SurvivesKeys where
  unviolated i t dto user key ht hq hr := by
    cases htruthy : truthy key with
    | some k => exact keyed_unviolated h ht hq htruthy hr
    | none =>
      have hends : Ends t.request (own i s.history) (.error (.prisma .P2002)) :=
        h.returned serve_kept ht hr
      obtain ⟨_, o, ho, herr⟩ := hends.cause _ dto user key hq rfl
      cases unkeyed_error h ht hq htruthy ho herr
  creates i t dto user key r ht hq htruthy hr := by
    have hends : Ends t.request (own i s.history) r := h.returned serve_kept ht hr
    cases r with
    | error err =>
      obtain ⟨_, o, ho, herr⟩ := hends.cause err dto user key hq rfl
      exact .inl (congrArg Except.error (unkeyed_error h ht hq htruthy ho herr))
    | ok v =>
      have hsome := hends.answered v dto user key hq rfl
      cases v with
      | created c =>
        obtain ⟨_, _, _, hreq, hreturned⟩ := Run.returned_create h ht hr
        cases hq.symm.trans hreq
        obtain ⟨row, created⟩ := c
        cases created with
        | true => exact .inr ⟨row, rfl, (hreturned.stored rfl).1⟩
        | false =>
          obtain ⟨_, k, hk, _⟩ := hreturned.found rfl
          cases htruthy.symm.trans hk
      | _ => exact absurd rfl hsome

/-- The insert is refused by a row it clashes with, unless it is struck before. -/
theorem exec_create_refused {dto : CreateTicketDto} {user : User} {key : Option String}
    {priority : Priority} {slaDueAt : Option Time} {o : Oracle} (hf : o.fault ≠ some 0)
    {y : Ticket} (hy : y ∈ w.tickets.rows)
    (hc : y.clash (insertedTicket dto user key priority slaDueAt o w)) :
    (Cmd.exec o (.transaction (createTransaction dto user key priority slaDueAt)) w).1 =
      .error (.prisma .P2002) := by
  have hnone : w.tickets.insert? (insertedTicket dto user key priority slaDueAt o w) = none :=
    Table.insert?_eq_none.mpr ⟨y, hy, hc⟩
  cases hfault : o.fault with
  | none =>
    simp only [Cmd.exec, hfault, createTransaction_run, hnone]
  | some n =>
    obtain ⟨m, rfl⟩ : ∃ m, n = m + 1 :=
      Nat.exists_eq_succ_of_ne_zero fun hn => hf (hfault.trans (congrArg some hn))
    simp only [Cmd.exec, hfault, createTransaction, tx, Prog.bind_eq, Prog.perform, Prog.bind,
      Tx.run, exec_ticketCreate_refused hnone]
    rfl

/-- A create whose key is not looked up is over once its transaction is refused. -/
theorem refused_at_once {ok : Server → Action → Bool} (h : Run ok { world := w } s) {i : Nat}
    {t : Task} {dto : CreateTicketDto} {user : User} {key : Option String}
    (ht : s.threads[i]? = some t) (hq : t.request = .create dto user key)
    (htruthy : truthy key = none) {c : Cmd} (hc : c.commits = true) {e : Err}
    (hlast : (own i s.history).getLast? = some ⟨c, .error e⟩) :
    Thread.result? t = some (.error e) := by
  have hobeys := h.obeys keyTerms_kept ht
  have hconcludes : ∀ r : Except Err Response, Concludes t.request (own i s.history) r →
      r = .error e := fun r hr => hr.unkeyed dto user key hq htruthy c e hlast
  unfold Thread.result?
  cases hstate : t.state with
  | pure v =>
    rw [hstate] at hobeys
    cases hconcludes _ hobeys
  | throw e' =>
    rw [hstate] at hobeys
    exact congrArg some (hconcludes _ hobeys)
  | stmt c' k =>
    rw [hstate] at hobeys
    have hlooks : c.looks = true := hobeys.1 dto user key hq htruthy _ (List.mem_of_getLast? hlast)
    cases c with
    | transaction => cases hlooks
    | one => cases hc

theorem Server.SurvivesKeys.before {s' : Server} {a : Action} (h : s'.SurvivesKeys)
    (hstep : Step serve Cmd.exec s a s') : s.SurvivesKeys where
  unviolated i t dto user key ht hq hr hviolated := by
    obtain ⟨t', ht', hq', hr'⟩ := hstep.result_stays ht hr
    obtain ⟨e, he, hrest⟩ := hviolated
    exact h.unviolated i t' dto user key ht' (hq'.trans hq) hr' ⟨e, hstep.history_stays he, hrest⟩
  creates i t dto user key r ht hq htruthy hr := by
    obtain ⟨t', ht', hq', hr'⟩ := hstep.result_stays ht hr
    refine (h.creates i t' dto user key r ht' (hq'.trans hq) htruthy hr').imp_right ?_
    rintro ⟨row, hrow, e, he, htid, hc⟩
    have hown : e.obs ∈ own i s'.history := mem_own.mpr ⟨e, he, htid, rfl⟩
    rw [hstep.own_stays ht hr] at hown
    obtain ⟨e', he', htid', hobs⟩ := mem_own.mp hown
    exact ⟨row, hrow, e', he', htid', hobs ▸ hc⟩

theorem Issues.transaction {dto : CreateTicketDto} {user : User} {key : Option String}
    {past : List Seen} {c : Cmd} (h : Issues (.create dto user key) past c)
    (hc : c.commits = true) : ∃ priority slaDueAt,
      c = .transaction (createTransaction dto user key priority slaDueAt) := by
  cases h with
  | reads reads =>
    cases c with
    | transaction => cases reads
    | one => cases hc
  | update intent => cases intent
  | event intent => cases intent
  | readBack intent => cases intent
  | note notes => cases notes
  | create calm => exact ⟨_, _, rfl⟩

theorem survives_keys_iff (h : Run freshIds { world := w } s) :
    s.SurvivesKeys ↔ Run sparesKeys { world := w } s := by
  refine h.iff_avoids (fun s a => collides s a = true)
    (fun s a hfresh hno => by simp [sparesKeys, hfresh, hno]) (fun _ => Run.survivesKeys)
    (fun _ _ _ hstep hsurvives => hsurvives.before hstep) fun s a s' hr hok hc hstep => ?_
  cases hstep with
  | arrive q => cases hc
  | stop thread => cases hc
  | @run i q c k o thread =>
    cases q with
    | create dto user key =>
      intro hsurvives
      obtain ⟨hcommits, htruthy, hf, y, hy, hmeets⟩ := (collides_iff thread).mp hc
      have hissues : Issues (.create dto user key) (own i s.history) c :=
        (hr.obeys serve_kept thread).1
      obtain ⟨priority, slaDueAt, rfl⟩ := hissues.transaction hcommits
      have hclash : y.clash (insertedTicket dto user key priority slaDueAt o s.world) := by
        rcases hmeets with hnumber | ⟨k', hk, hy'⟩
        · exact .inr (.inl hnumber)
        · exact Ticket.clash_of_key hy' hk
      have hrefused := exec_create_refused hf hy hclash
      have hstep : Step serve Cmd.exec s (.run i o) _ := .run o thread
      have hi := (List.getElem?_eq_some_iff.mp thread).1
      have ht := List.getElem?_set_self (a := Thread.mk (.create dto user key)
        (k (Cmd.exec o (.transaction (createTransaction dto user key priority slaDueAt)) s.world).1)
        false) hi
      have hlast : (own i (s.ran i (.create dto user key) _ k (Cmd.exec o (.transaction
          (createTransaction dto user key priority slaDueAt)) s.world)).history).getLast? =
          some ⟨.transaction (createTransaction dto user key priority slaDueAt),
            .error (.prisma .P2002)⟩ := by
        simp [Pool.ran, hrefused]
      have hresult := refused_at_once (hr.next hok hstep) ht rfl htruthy rfl hlast
      rcases hsurvives.creates i _ dto user key _ ht rfl htruthy hresult with hr | ⟨row, hr, _⟩
      · cases hr
      · cases hr
    | _ => simp [collides, thread] at hc

end Runs

namespace Sample

def emptyKey : List Action := .arrive (.create body reportante (some "")) :: steps 0 0 3

def oneEmptyKey : Server := (play sparesKeys emptyKey).get (by decide +kernel)

def twoEmptyKeys : Server :=
  (play freshIds (emptyKey ++ .arrive (.create body vecina (some "")) :: steps 1 10 3)).get
    (by decide +kernel)

end Sample

open Sample in
theorem survives_one_empty_key : oneEmptyKey.SurvivesKeys := by
  have hrun : Run sparesKeys { world := world } oneEmptyKey := play_run (by decide +kernel)
  exact (survives_keys_iff (hrun.mono fun _ _ h => (Bool.and_eq_true_iff.mp h).1)).mpr hrun

open Sample in
theorem empty_key_refused : ¬ ∀ s, Run freshIds { world := world } s → s.SurvivesKeys := by
  intro h
  have hrun : Run freshIds { world := world } twoEmptyKeys := play_run (by decide +kernel)
  rcases (h _ hrun).creates 1 twoEmptyKeys.threads[1] body vecina (some "")
    (.error (.prisma .P2002)) rfl rfl rfl rfl with hr | ⟨row, hr, _⟩
  · cases hr
  · cases hr

end TicketSystem
