import Mathlib.Data.List.Induction
import TicketSystem.Lib.Program

namespace Interleaved

/-- A request being served: what is left of its program. A stopped thread never
takes another step. -/
structure Thread (C : Type) (R : C → Type) (ε α Q : Type) where
  request : Q
  state : Prog C R ε α
  stopped : Bool := false

/-- One executed statement, with the shared world around it. -/
structure Entry (C : Type) (R : C → Type) (ε W : Type) where
  tid : Nat
  obs : Obs C R ε
  before : W
  after : W

/-- Threads that interleave statement by statement on one world. The history
records every executed statement, oldest first, and decides nothing. -/
structure Pool (C : Type) (R : C → Type) (ε α Q W : Type) where
  world : W
  threads : List (Thread C R ε α Q) := []
  history : List (Entry C R ε W) := []

inductive Move (Q O : Type) where
  | arrive (q : Q)
  | run (i : Nat) (o : O)
  | stop (i : Nat)

variable {C : Type} {R : C → Type} {ε α Q W O : Type}

theorem getElem?_concat_cases {ι : Type} {l : List ι} {a x : ι} {i : Nat}
    (h : (l ++ [a])[i]? = some x) : l[i]? = some x ∨ (i = l.length ∧ x = a) := by
  rcases Nat.lt_or_ge i l.length with hi | hi
  · exact .inl (by simpa [List.getElem?_append_left hi] using h)
  · have hlen := (List.getElem?_eq_some_iff.mp h).1
    simp only [List.length_append, List.length_singleton] at hlen
    have heq : i = l.length := by omega
    subst heq
    exact .inr ⟨rfl, Option.some.inj (h.symm.trans List.getElem?_concat_length)⟩

theorem getElem?_set_cases {ι : Type} {l : List ι} {i j : Nat} {a x : ι}
    (h : (l.set i a)[j]? = some x) : j = i ∧ x = a ∨ j ≠ i ∧ l[j]? = some x := by
  by_cases hj : j = i
  · subst hj
    have hlen : j < l.length := by
      simpa using (List.getElem?_eq_some_iff.mp h).1
    rw [List.getElem?_set_self hlen] at h
    exact .inl ⟨rfl, (Option.some.inj h).symm⟩
  · rw [List.getElem?_set_ne (Ne.symm hj)] at h
    exact .inr ⟨hj, h⟩

def Thread.result? (t : Thread C R ε α Q) : Option (Except ε α) :=
  match t.state with
  | .pure a => some (.ok a)
  | .throw e => some (.error e)
  | .stmt _ _ => none

def Thread.next? (t : Thread C R ε α Q) : Option C :=
  match t.state with
  | .stmt c _ => some c
  | _ => none

def Thread.Over (t : Thread C R ε α Q) : Prop := t.stopped = true ∨ t.next? = none

instance (t : Thread C R ε α Q) : Decidable t.Over := inferInstanceAs (Decidable (_ ∨ _))

def Pool.Quiet (s : Pool C R ε α Q W) : Prop := ∀ t ∈ s.threads, t.Over

instance (s : Pool C R ε α Q W) : Decidable s.Quiet :=
  inferInstanceAs (Decidable (∀ t ∈ s.threads, t.Over))

def own (i : Nat) (h : List (Entry C R ε W)) : List (Obs C R ε) :=
  (h.filter (fun e => e.tid == i)).map Entry.obs

@[simp] theorem own_nil (i : Nat) : own i ([] : List (Entry C R ε W)) = [] := rfl

@[simp] theorem own_append (i : Nat) (h₁ h₂ : List (Entry C R ε W)) :
    own i (h₁ ++ h₂) = own i h₁ ++ own i h₂ := by simp [own]

@[simp] theorem own_cons (i : Nat) (e : Entry C R ε W) (h : List (Entry C R ε W)) :
    own i (e :: h) = (if e.tid = i then [e.obs] else []) ++ own i h := by
  by_cases he : e.tid = i <;> simp [own, he]

theorem mem_own {i : Nat} {h : List (Entry C R ε W)} {o : Obs C R ε} :
    o ∈ own i h ↔ ∃ e ∈ h, e.tid = i ∧ e.obs = o := by
  simp [own, and_assoc]

theorem own_head {i : Nat} {h : List (Entry C R ε W)} {o : Obs C R ε}
    (ho : (own i h).head? = some o) :
    ∃ h₁ e h₂, h = h₁ ++ e :: h₂ ∧ e.tid = i ∧ e.obs = o ∧ own i h₁ = [] := by
  induction h with
  | nil => simp at ho
  | cons e h ih =>
    by_cases he : e.tid = i
    · exact ⟨[], e, h, rfl, he, by simpa [he] using ho, rfl⟩
    · obtain ⟨h₁, x, h₂, rfl, hx, hobs, hown⟩ := ih (by simpa [he] using ho)
      exact ⟨e :: h₁, x, h₂, rfl, hx, hobs, by simp [he, hown]⟩

theorem own_last {i : Nat} {h : List (Entry C R ε W)} {l : List (Obs C R ε)} {o : Obs C R ε}
    (ho : own i h = l ++ [o]) :
    ∃ h₁ e h₂, h = h₁ ++ e :: h₂ ∧ e.tid = i ∧ e.obs = o ∧ own i h₁ = l ∧ own i h₂ = [] := by
  induction h using List.reverseRecOn with
  | nil => simp at ho
  | append_singleton h e ih =>
    by_cases he : e.tid = i
    · have ho : own i h ++ [e.obs] = l ++ [o] := by simpa [he] using ho
      obtain ⟨hl, hobs⟩ := List.append_inj' ho rfl
      exact ⟨h, e, [], rfl, he, List.singleton_inj.mp hobs, hl, rfl⟩
    · obtain ⟨h₁, x, h₂, rfl, hx, hobs, hown, hnone⟩ := ih (by simpa [he] using ho)
      exact ⟨h₁, x, h₂ ++ [e], by simp, hx, hobs, hown, by simp [he, hnone]⟩

/-- The worlds of a history follow on from one another, from `w` to `w'`. -/
def Linked : W → List (Entry C R ε W) → W → Prop
  | w, [], w' => w = w'
  | w, e :: h, w' => e.before = w ∧ Linked e.after h w'

theorem linked_append {w w' : W} {h₁ h₂ : List (Entry C R ε W)} :
    Linked w (h₁ ++ h₂) w' ↔ ∃ v, Linked w h₁ v ∧ Linked v h₂ w' := by
  induction h₁ generalizing w with
  | nil => simp [Linked]
  | cons e h ih => simp [Linked, ih, and_assoc]

theorem Linked.snoc {w : W} {h : List (Entry C R ε W)} {e : Entry C R ε W}
    (hl : Linked w h e.before) : Linked w (h ++ [e]) e.after :=
  linked_append.mpr ⟨e.before, hl, rfl, rfl⟩

theorem Linked.at {w w' : W} {h₁ h₂ : List (Entry C R ε W)} {e : Entry C R ε W}
    (hl : Linked w (h₁ ++ e :: h₂) w') : Linked w h₁ e.before ∧ Linked e.after h₂ w' := by
  obtain ⟨v, hv, rfl, hr⟩ := linked_append.mp hl
  exact ⟨hv, hr⟩

/-- A relation that holds across every entry, and is a preorder, holds across a history. -/
theorem Linked.relates {r : W → W → Prop} (refl : ∀ u, r u u)
    (trans : ∀ u v x, r u v → r v x → r u x) {w w' : W} {h : List (Entry C R ε W)}
    (hl : Linked w h w') (hr : ∀ e ∈ h, r e.before e.after) : r w w' := by
  induction h generalizing w with
  | nil => cases hl; exact refl _
  | cons e h ih =>
    obtain ⟨rfl, hl⟩ := hl
    exact trans _ _ _ (hr e (by simp)) (ih hl (fun x hx => hr x (by simp [hx])))

/-- Such a relation holds between any two moments, the earlier on its left. -/
theorem Linked.pairwise {r : W → W → Prop}
    (trans : ∀ u v x, r u v → r v x → r u x) {w w' : W} {h : List (Entry C R ε W)}
    (hl : Linked w h w') (hr : ∀ e ∈ h, r e.before e.after) :
    (w :: h.map Entry.after).Pairwise r := by
  induction h generalizing w with
  | nil => exact List.pairwise_singleton _ _
  | cons e h ih =>
    obtain ⟨rfl, hl⟩ := hl
    have hrest := ih hl fun x hx => hr x (by simp [hx])
    have he := hr e (by simp)
    refine List.pairwise_cons.mpr ⟨fun v hv => ?_, hrest⟩
    rcases List.mem_cons.mp hv with rfl | hv
    · exact he
    · exact trans _ _ _ he ((List.pairwise_cons.mp hrest).1 v hv)

theorem Linked.before_mem {w w' : W} {h : List (Entry C R ε W)} (hl : Linked w h w')
    {e : Entry C R ε W} (he : e ∈ h) : e.before ∈ w :: h.map Entry.after := by
  induction h generalizing w with
  | nil => cases he
  | cons x h ih =>
    obtain ⟨rfl, hl⟩ := hl
    rcases List.mem_cons.mp he with rfl | he
    · exact List.mem_cons_self
    · exact List.mem_cons_of_mem _ (ih hl he)

theorem Linked.end_mem {w w' : W} {h : List (Entry C R ε W)} (hl : Linked w h w') :
    w' ∈ w :: h.map Entry.after := by
  induction h generalizing w with
  | nil => cases hl; exact List.mem_cons_self
  | cons x h ih =>
    obtain ⟨rfl, hl⟩ := hl
    exact List.mem_cons_of_mem _ (ih hl)

theorem Linked.adjacent {r : W → W → Prop} {w w' : W} {h : List (Entry C R ε W)}
    (hl : Linked w h w') (hp : (w :: h.map Entry.after).Pairwise r) {e : Entry C R ε W}
    (he : e ∈ h) : r e.before e.after := by
  induction h generalizing w with
  | nil => cases he
  | cons x h ih =>
    obtain ⟨rfl, hl⟩ := hl
    obtain ⟨hfirst, hrest⟩ := List.pairwise_cons.mp hp
    rcases List.mem_cons.mp he with rfl | he
    · exact hfirst _ List.mem_cons_self
    · exact ih hl hrest he

/-- The world before statement `n` of a history that ends in `w'`. -/
def worldAt (h : List (Entry C R ε W)) (w' : W) (n : Nat) : W := (h[n]?).elim w' Entry.before

theorem Linked.worldAt_zero {w w' : W} {h : List (Entry C R ε W)} (hl : Linked w h w') :
    worldAt h w' 0 = w := by
  cases h with
  | nil => exact hl.symm
  | cons e h => exact hl.1

/-- What happened between two statements is a piece of the history. -/
theorem Linked.between {w w' : W} {h : List (Entry C R ε W)} (hl : Linked w h w') {i j : Nat}
    (hij : i ≤ j) : ∃ m, m ⊆ h ∧ Linked (worldAt h w' i) m (worldAt h w' j) := by
  induction h generalizing w i j with
  | nil => exact ⟨[], by simp, rfl⟩
  | cons e h ih =>
    cases i with
    | succ i =>
      obtain ⟨j, rfl⟩ : ∃ k, j = k + 1 := ⟨j - 1, by omega⟩
      obtain ⟨m, hm, hlinked⟩ := ih hl.2 (Nat.le_of_succ_le_succ hij)
      exact ⟨m, fun x hx => List.mem_cons_of_mem _ (hm hx), hlinked⟩
    | zero =>
      cases j with
      | zero => exact ⟨[], by simp, rfl⟩
      | succ j =>
        obtain ⟨m, hm, hlinked⟩ := ih hl.2 (Nat.zero_le j)
        rw [Linked.worldAt_zero hl.2] at hlinked
        exact ⟨e :: m, List.cons_subset_cons e hm, rfl, hlinked⟩

/-- What every entry preserves holds at all moments of a history. -/
theorem Linked.always {I : W → Prop} {w w' : W} {h : List (Entry C R ε W)} (hl : Linked w h w')
    (h0 : I w) (hs : ∀ e ∈ h, I e.before → I e.after) : ∀ u ∈ w :: h.map Entry.after, I u := by
  induction h generalizing w with
  | nil => simpa using h0
  | cons e h ih =>
    obtain ⟨rfl, hl⟩ := hl
    exact List.forall_mem_cons.mpr
      ⟨h0, ih hl (hs e (by simp) h0) fun x hx => hs x (by simp [hx])⟩

/-- What holds at the start of a linked history, and across each of its entries, holds at
its end. -/
theorem Linked.invariant {I : List (Entry C R ε W) → W → Prop} {w w' : W}
    {h : List (Entry C R ε W)} (hl : Linked w h w') (h0 : I [] w)
    (hs : ∀ h₁ e h₂, h = h₁ ++ e :: h₂ → I h₁ e.before → I (h₁ ++ [e]) e.after) : I h w' := by
  induction h using List.reverseRecOn generalizing w' with
  | nil => cases hl; exact h0
  | append_singleton h e ih =>
    obtain ⟨v, hv, rfl, rfl⟩ := linked_append.mp hl
    refine hs h e [] rfl (ih hv fun h₁ x h₂ hx => hs h₁ x (h₂ ++ [e]) ?_)
    rw [hx, List.append_assoc]
    rfl

section Steps

variable (program : Q → Prog C R ε α) (exec : O → (c : C) → W → Except ε (R c) × W)

def Pool.ran (s : Pool C R ε α Q W) (i : Nat) (q : Q) (c : C)
    (k : Except ε (R c) → Prog C R ε α) (r : Except ε (R c) × W) : Pool C R ε α Q W where
  world := r.2
  threads := s.threads.set i { request := q, state := k r.1 }
  history := s.history ++ [{ tid := i, obs := ⟨c, r.1⟩, before := s.world, after := r.2 }]

inductive Step (s : Pool C R ε α Q W) : Move Q O → Pool C R ε α Q W → Prop
  | arrive (q : Q) :
      Step s (.arrive q) { s with threads := s.threads ++ [{ request := q, state := program q }] }
  | run {i : Nat} {q : Q} {c : C} {k : Except ε (R c) → Prog C R ε α} (o : O)
      (thread : s.threads[i]? = some { request := q, state := .stmt c k }) :
      Step s (.run i o) (s.ran i q c k (exec o c s.world))
  | stop {i : Nat} {t : Thread C R ε α Q} (thread : s.threads[i]? = some t) :
      Step s (.stop i) { s with threads := s.threads.set i { t with stopped := true } }

/-- The pools a run from `s₀` can reach when every move satisfies `ok`. -/
inductive Reach (ok : Pool C R ε α Q W → Move Q O → Prop) (s₀ : Pool C R ε α Q W) :
    Pool C R ε α Q W → Prop
  | start : Reach ok s₀ s₀
  | next {s s' : Pool C R ε α Q W} {m : Move Q O} : Reach ok s₀ s → ok s m →
      Step program exec s m s' → Reach ok s₀ s'

/-- The same step as a function, so that a run can be computed. -/
def Pool.next (s : Pool C R ε α Q W) : Move Q O → Option (Pool C R ε α Q W)
  | .arrive q => some { s with threads := s.threads ++ [{ request := q, state := program q }] }
  | .run i o =>
    match s.threads[i]? with
    | some ⟨q, .stmt c k, false⟩ => some (s.ran i q c k (exec o c s.world))
    | _ => none
  | .stop i =>
    match s.threads[i]? with
    | some t => some { s with threads := s.threads.set i { t with stopped := true } }
    | none => none

def Pool.replay (ok : Pool C R ε α Q W → Move Q O → Bool) :
    List (Move Q O) → Pool C R ε α Q W → Option (Pool C R ε α Q W)
  | [], s => some s
  | m :: ms, s => if ok s m then (s.next program exec m).bind (replay ok ms) else none

variable {program exec}

theorem Pool.next_step {s s' : Pool C R ε α Q W} {m : Move Q O}
    (h : s.next program exec m = some s') : Step program exec s m s' := by
  cases m with
  | arrive q => cases Option.some.inj h; exact .arrive q
  | run i o =>
    simp only [Pool.next] at h
    split at h
    next ht => cases Option.some.inj h; exact .run o ht
    next => simp at h
  | stop i =>
    simp only [Pool.next] at h
    split at h
    next ht => cases Option.some.inj h; exact .stop ht
    next => simp at h

/-- A thread of the next state was there before, or arrived just now. -/
theorem Step.thread_before {s s' : Pool C R ε α Q W} {m : Move Q O}
    (h : Step program exec s m s') {i : Nat} {t' : Thread C R ε α Q}
    (ht : s'.threads[i]? = some t') :
    (∃ t, s.threads[i]? = some t ∧ t.request = t'.request) ∨
      (i = s.threads.length ∧ m = .arrive t'.request) := by
  cases h with
  | arrive q =>
    rcases getElem?_concat_cases ht with ht | ⟨hi, rfl⟩
    · exact .inl ⟨t', ht, rfl⟩
    · exact .inr ⟨hi, rfl⟩
  | run o thread =>
    rcases getElem?_set_cases ht with ⟨rfl, rfl⟩ | ⟨_, ht⟩
    · exact .inl ⟨_, thread, rfl⟩
    · exact .inl ⟨t', ht, rfl⟩
  | stop thread =>
    rcases getElem?_set_cases ht with ⟨rfl, rfl⟩ | ⟨_, ht⟩
    · exact .inl ⟨_, thread, rfl⟩
    · exact .inl ⟨t', ht, rfl⟩

/-- A thread stays where it is, with its request. -/
theorem Step.thread_keeps {s s' : Pool C R ε α Q W} {m : Move Q O}
    (h : Step program exec s m s') {i : Nat} {t : Thread C R ε α Q}
    (ht : s.threads[i]? = some t) :
    ∃ t', s'.threads[i]? = some t' ∧ t'.request = t.request := by
  have hi : i < s.threads.length := (List.getElem?_eq_some_iff.mp ht).1
  cases h with
  | arrive q => exact ⟨t, by simpa [List.getElem?_append_left hi] using ht, rfl⟩
  | @run j q c k o thread =>
    by_cases hij : j = i
    · subst hij
      cases Option.some.inj (ht.symm.trans thread)
      exact ⟨_, List.getElem?_set_self hi, rfl⟩
    · exact ⟨t, by simpa [Pool.ran, List.getElem?_set_ne hij] using ht, rfl⟩
  | @stop j u thread =>
    by_cases hij : j = i
    · subst hij
      cases Option.some.inj (ht.symm.trans thread)
      exact ⟨_, List.getElem?_set_self hi, rfl⟩
    · exact ⟨t, by simpa [List.getElem?_set_ne hij] using ht, rfl⟩

/-- What a thread has returned it goes on having returned, for the same request. -/
theorem Step.result_stays {s s' : Pool C R ε α Q W} {m : Move Q O}
    (h : Step program exec s m s') {i : Nat} {t : Thread C R ε α Q} {r : Except ε α}
    (ht : s.threads[i]? = some t) (hr : t.result? = some r) :
    ∃ t', s'.threads[i]? = some t' ∧ t'.request = t.request ∧ t'.result? = some r := by
  have hlen := (List.getElem?_eq_some_iff.mp ht).1
  cases h with
  | arrive q => exact ⟨t, by simpa [List.getElem?_append_left hlen] using ht, rfl, hr⟩
  | @run j q c k o thread =>
    have hij : j ≠ i := by
      rintro rfl
      cases Option.some.inj (thread.symm.trans ht)
      cases hr
    exact ⟨t, by simpa [Pool.ran, List.getElem?_set_ne hij] using ht, rfl, hr⟩
  | @stop j u thread =>
    by_cases hij : j = i
    · subst hij
      cases Option.some.inj (thread.symm.trans ht)
      exact ⟨_, List.getElem?_set_self hlen, rfl, hr⟩
    · exact ⟨t, by simpa [List.getElem?_set_ne hij] using ht, rfl, hr⟩

theorem Step.history_stays {s s' : Pool C R ε α Q W} {m : Move Q O}
    (h : Step program exec s m s') {e : Entry C R ε W} (he : e ∈ s.history) : e ∈ s'.history := by
  cases h with
  | arrive q => exact he
  | run o thread => exact List.mem_append_left _ he
  | stop thread => exact he

/-- A thread that has returned executes nothing more. -/
theorem Step.own_stays {s s' : Pool C R ε α Q W} {m : Move Q O}
    (h : Step program exec s m s') {i : Nat} {t : Thread C R ε α Q} {r : Except ε α}
    (ht : s.threads[i]? = some t) (hr : t.result? = some r) :
    own i s'.history = own i s.history := by
  cases h with
  | arrive q => rfl
  | stop thread => rfl
  | @run j q c k o thread =>
    have hij : j ≠ i := by
      rintro rfl
      cases Option.some.inj (thread.symm.trans ht)
      cases hr
    simp [Pool.ran, hij]

namespace Reach

variable {ok ok' : Pool C R ε α Q W → Move Q O → Prop} {s₀ s s' : Pool C R ε α Q W}

theorem of_replay {ok : Pool C R ε α Q W → Move Q O → Bool} {ms : List (Move Q O)}
    (h : s.replay program exec ok ms = some s') :
    Reach program exec (fun s m => ok s m = true) s s' := by
  suffices ∀ u, Reach program exec (fun s m => ok s m = true) s u →
      u.replay program exec ok ms = some s' →
      Reach program exec (fun s m => ok s m = true) s s' from this s .start h
  clear h
  induction ms with
  | nil => intro u hu h; cases Option.some.inj h; exact hu
  | cons m ms ih =>
    intro u hu h
    simp only [Pool.replay] at h
    split at h
    next hok =>
      obtain ⟨v, hv, h⟩ := Option.bind_eq_some_iff.mp h
      exact ih v (hu.next hok (Pool.next_step hv)) h
    next => simp at h

theorem mono (hok : ∀ s m, ok s m → ok' s m) (h : Reach program exec ok s₀ s) :
    Reach program exec ok' s₀ s := by
  induction h with
  | start => exact .start
  | next _ hm hs ih => exact .next ih (hok _ _ hm) hs

theorem trans (h : Reach program exec ok s₀ s) (h' : Reach program exec ok s s') :
    Reach program exec ok s₀ s' := by
  induction h' with
  | start => exact h
  | next _ hm hs ih => exact .next ih hm hs

/-- A property of runs that every bad move spoils for good, and that holds when there is none,
holds exactly of the runs that avoid bad moves. -/
theorem iff_avoids {good : Pool C R ε α Q W → Move Q O → Prop}
    (bad : Pool C R ε α Q W → Move Q O → Prop) {Φ : Pool C R ε α Q W → Prop}
    (hgood : ∀ s m, ok s m → ¬ bad s m → good s m)
    (enough : ∀ s, Reach program exec good s₀ s → Φ s)
    (before : ∀ s m s', Step program exec s m s' → Φ s' → Φ s)
    (spoils : ∀ s m s', Reach program exec ok s₀ s → ok s m → bad s m →
      Step program exec s m s' → ¬ Φ s')
    (h : Reach program exec ok s₀ s) : Φ s ↔ Reach program exec good s₀ s := by
  refine ⟨fun hΦ => ?_, enough s⟩
  induction h with
  | start => exact .start
  | next hr hm hstep ih =>
    exact (ih (before _ _ _ hstep hΦ)).next
      (hgood _ _ hm fun hbad => spoils _ _ _ hr hm hbad hstep hΦ) hstep

/-- The state between two parts of a history: thread `e.tid` was about to issue
`e.obs.cmd`, the move that made it was admitted, and the answer is the world's. -/
structure Moment (program : Q → Prog C R ε α) (exec : O → (c : C) → W → Except ε (R c) × W)
    (ok : Pool C R ε α Q W → Move Q O → Prop) (s₀ : Pool C R ε α Q W)
    (h₁ : List (Entry C R ε W)) (e : Entry C R ε W) (q : Q) (u : Pool C R ε α Q W)
    (k : Except ε (R e.obs.cmd) → Prog C R ε α) (o : O) : Prop where
  reach : Reach program exec ok s₀ u
  history : u.history = s₀.history ++ h₁
  thread : u.threads[e.tid]? = some { request := q, state := .stmt e.obs.cmd k }
  before : u.world = e.before
  admitted : ok u (.run e.tid o)
  answered : exec o e.obs.cmd e.before = (e.obs.answer, e.after)

theorem threads_keep (h : Reach program exec ok s₀ s) {i : Nat} {t : Thread C R ε α Q}
    (ht : s₀.threads[i]? = some t) : ∃ t', s.threads[i]? = some t' ∧ t'.request = t.request := by
  induction h with
  | start => exact ⟨t, ht, rfl⟩
  | next _ _ hstep ih =>
    obtain ⟨u, hu, hq⟩ := ih
    obtain ⟨t', ht', hq'⟩ := hstep.thread_keeps hu
    exact ⟨t', ht', hq'.trans hq⟩

/-- A run only appends to the history, and what it appends links the two worlds. -/
theorem grows (h : Reach program exec ok s₀ s) :
    ∃ h', s.history = s₀.history ++ h' ∧ Linked s₀.world h' s.world := by
  induction h with
  | start => exact ⟨[], by simp, rfl⟩
  | next _ _ hstep ih =>
    obtain ⟨h', hh, hl⟩ := ih
    cases hstep with
    | arrive q => exact ⟨h', hh, hl⟩
    | run o thread =>
      refine ⟨h' ++ [_], by simp only [Pool.ran, hh, List.append_assoc]; rfl, ?_⟩
      exact Linked.snoc hl
    | stop thread => exact ⟨h', hh, hl⟩

theorem linked_segment (h : Reach program exec ok s₀ s) {segment : List (Entry C R ε W)}
    (hseg : s.history = s₀.history ++ segment) : Linked s₀.world segment s.world := by
  obtain ⟨h', hh, hl⟩ := h.grows
  rwa [List.append_cancel_left (hseg.symm.trans hh)]

theorem tid_lt (h : Reach program exec ok s₀ s)
    (h0 : ∀ e ∈ s₀.history, e.tid < s₀.threads.length) :
    ∀ e ∈ s.history, e.tid < s.threads.length := by
  induction h with
  | start => exact h0
  | next _ _ hstep ih =>
    cases hstep with
    | arrive q => exact fun e he => by have := ih e he; simp; omega
    | run o thread =>
      intro e he
      rcases List.mem_append.mp he with he | he
      · simpa [Pool.ran] using ih e he
      · cases List.mem_singleton.mp he
        simpa [Pool.ran] using (List.getElem?_eq_some_iff.mp thread).1
    | stop thread => exact fun e he => by simpa using ih e he

/-- A thread that is over stays so, and executes nothing more. -/
theorem over_stays (h : Reach program exec ok s₀ s) {i : Nat} {t : Thread C R ε α Q}
    (ht : s₀.threads[i]? = some t) (hover : t.Over) :
    (∃ t', s.threads[i]? = some t' ∧ t'.Over) ∧ own i s.history = own i s₀.history := by
  have hi := (List.getElem?_eq_some_iff.mp ht).1
  induction h with
  | start => exact ⟨⟨t, ht, hover⟩, rfl⟩
  | @next s s' m hr _ hstep ih =>
    obtain ⟨⟨t', ht', hover'⟩, hown⟩ := ih
    have hlen : i < s.threads.length := (List.getElem?_eq_some_iff.mp ht').1
    cases hstep with
    | arrive q => exact ⟨⟨t', by simpa [List.getElem?_append_left hlen] using ht', hover'⟩, hown⟩
    | @run j q c k o thread =>
      have hij : j ≠ i := by
        rintro rfl
        cases Option.some.inj (ht'.symm.trans thread)
        rcases hover' with hs | hs
        · cases hs
        · cases hs
      exact ⟨⟨t', by simpa [Pool.ran, List.getElem?_set_ne hij] using ht', hover'⟩,
        by simpa [Pool.ran, hij] using hown⟩
    | @stop j u thread =>
      by_cases hij : j = i
      · subst hij
        exact ⟨⟨_, List.getElem?_set_self hlen, .inl rfl⟩, hown⟩
      · exact ⟨⟨t', by simpa [List.getElem?_set_ne hij] using ht', hover'⟩, hown⟩

theorem arrived (h : Reach program exec ok s₀ s) {i : Nat} {t : Thread C R ε α Q}
    (hi : s₀.threads.length ≤ i) (ht : s.threads[i]? = some t) :
    ∃ u, Reach program exec ok s₀ u ∧ ok u (.arrive t.request) := by
  induction h generalizing t with
  | start =>
    have := (List.getElem?_eq_some_iff.mp ht).1
    omega
  | @next s s' m hr hok hstep ih =>
    rcases hstep.thread_before ht with ⟨u, hu, hq⟩ | ⟨_, rfl⟩
    · rw [← hq]
      exact ih hu
    · exact ⟨s, hr, hok⟩

/-- Every entry of a run's history was made at some moment of that run. -/
theorem moment (h : Reach program exec ok s₀ s) {h₁ h₂ : List (Entry C R ε W)}
    {e : Entry C R ε W} (he : s.history = s₀.history ++ h₁ ++ e :: h₂) :
    ∃ q u k o, Moment program exec ok s₀ h₁ e q u k o ∧
      ∃ t, s.threads[e.tid]? = some t ∧ t.request = q := by
  induction h generalizing h₂ with
  | start =>
    have := congrArg List.length he
    simp at this
  | @next s s' m hr hm hstep ih =>
    have keep : ∀ h₂', s.history = s₀.history ++ h₁ ++ e :: h₂' → ∃ q u k o,
        Moment program exec ok s₀ h₁ e q u k o ∧
          ∃ t, s'.threads[e.tid]? = some t ∧ t.request = q := by
      intro h₂' hh
      obtain ⟨q, u, k, o, hu, t, ht, hq⟩ := ih hh
      obtain ⟨t', ht', hq'⟩ := (Reach.next .start hm hstep).threads_keep ht
      exact ⟨q, u, k, o, hu, t', ht', hq'.trans hq⟩
    cases hstep with
    | arrive q => exact keep h₂ he
    | @run i q c k o thread =>
      rcases List.eq_nil_or_concat h₂ with rfl | ⟨h₂', x, rfl⟩
      · obtain ⟨hh, hx⟩ := List.append_inj' he rfl
        cases hx
        have hi := (List.getElem?_eq_some_iff.mp thread).1
        exact ⟨q, s, k, o, ⟨hr, hh, thread, rfl, hm, rfl⟩,
          _, List.getElem?_set_self hi, rfl⟩
      · have hs : (s.ran i q c k (exec o c s.world)).history =
            (s₀.history ++ h₁ ++ e :: h₂') ++ [x] := by simpa [List.append_assoc] using he
        exact keep h₂' (List.append_inj' hs rfl).1
    | stop thread => exact keep h₂ he

end Reach

/-- What the requests promise, as long as the world answers as `answers` admits: the
statements each may issue after what it has seen, and how it may end. -/
structure Contract (C : Type) (R : C → Type) (ε α Q : Type) where
  answers : (c : C) → Except ε (R c) → Prop
  issues : Q → List (Obs C R ε) → C → Prop
  returns : Q → List (Obs C R ε) → Except ε α → Prop

/-- The programs and the world both keep to the contract. -/
structure Contract.Kept (K : Contract C R ε α Q) (program : Q → Prog C R ε α)
    (exec : O → (c : C) → W → Except ε (R c) × W) : Prop where
  answers : ∀ o c w, K.answers c (exec o c w).1
  obeys : ∀ q, (program q).Obeys K.answers (K.issues q) (K.returns q) []

namespace Reach

variable {K : Contract C R ε α Q} {ok : Pool C R ε α Q W → Move Q O → Prop} {w : W}
  {s : Pool C R ε α Q W}

/-- In every run of obedient programs, what is left of a thread obeys its contract
after what the thread has seen. -/
theorem obeys (kept : K.Kept program exec) (h : Reach program exec ok { world := w } s) {i : Nat}
    {t : Thread C R ε α Q} (ht : s.threads[i]? = some t) :
    t.state.Obeys K.answers (K.issues t.request) (K.returns t.request) (own i s.history) := by
  induction h generalizing i t with
  | start => simp at ht
  | @next s s' m hr _ hstep ih =>
    cases hstep with
    | arrive q =>
      rcases getElem?_concat_cases ht with ht | ⟨hi, rfl⟩
      · exact ih ht
      · have hown : own i s.history = [] := by
          refine List.eq_nil_iff_forall_not_mem.mpr fun o ho => ?_
          obtain ⟨e, he, htid, _⟩ := mem_own.mp ho
          have := hr.tid_lt (by simp) e he
          omega
        rw [hown]
        exact kept.obeys q
    | @run j q c k o thread =>
      rcases getElem?_set_cases ht with ⟨rfl, rfl⟩ | ⟨hij, ht⟩
      · simpa [Pool.ran] using (ih thread).2 _ (kept.answers o c s.world)
      · have hold := ih ht
        simpa [Pool.ran, Ne.symm hij] using hold
    | stop thread =>
      rcases getElem?_set_cases ht with ⟨rfl, rfl⟩ | ⟨_, ht⟩
      · have hold := ih thread
        exact hold
      · exact ih ht

/-- Every statement of a run was allowed by the contract of its request. -/
theorem issued (kept : K.Kept program exec) (h : Reach program exec ok { world := w } s)
    {h₁ h₂ : List (Entry C R ε W)} {e : Entry C R ε W} (he : s.history = h₁ ++ e :: h₂) :
    ∃ t, s.threads[e.tid]? = some t ∧ K.issues t.request (own e.tid h₁) e.obs.cmd ∧
      ∃ o, exec o e.obs.cmd e.before = (e.obs.answer, e.after) := by
  obtain ⟨q, u, k, o, hu, t, ht, rfl⟩ :=
    h.moment (show s.history = [] ++ h₁ ++ e :: h₂ from he)
  have hobeys := hu.reach.obeys kept hu.thread
  have hown : u.history = h₁ := by simpa using hu.history
  exact ⟨t, ht, hown ▸ hobeys.1, o, hu.answered⟩

theorem returned (kept : K.Kept program exec) (h : Reach program exec ok { world := w } s) {i : Nat}
    {t : Thread C R ε α Q} {r : Except ε α} (ht : s.threads[i]? = some t)
    (hr : t.result? = some r) : K.returns t.request (own i s.history) r := by
  have hobeys := h.obeys kept ht
  unfold Thread.result? at hr
  split at hr
  next hs => cases hr; rw [hs] at hobeys; exact hobeys
  next hs => cases hr; rw [hs] at hobeys; exact hobeys
  next => simp at hr

theorem linked (h : Reach program exec ok { world := w } s) : Linked w s.history s.world := by
  obtain ⟨h', hh, hl⟩ := h.grows
  simpa [hh] using hl

/-- The world that a run went on from is that before its next statement. -/
theorem worldAt_start {s₀ : Pool C R ε α Q W} (h : Reach program exec ok s₀ s) :
    worldAt s.history s.world s₀.history.length = s₀.world := by
  obtain ⟨h', hh, hl⟩ := h.grows
  rw [← hl.worldAt_zero, worldAt, worldAt, hh, List.getElem?_append_right (Nat.le_refl _),
    Nat.sub_self]

end Reach

end Steps

end Interleaved
