import TicketSystem.Lib.Pool

namespace Interleaved

variable {C : Type} {R : C → Type} {ε α β : Type}

namespace Prog

/-- As long as it is answered as `A` admits, the program issues `n` statements at most. -/
def Within (A : (c : C) → Except ε (R c) → Prop) : Nat → Prog C R ε α → Prop
  | _, .pure _ => True
  | _, .throw _ => True
  | 0, .stmt _ _ => False
  | n + 1, .stmt c k => ∀ r, A c r → (k r).Within A n

variable {A : (c : C) → Except ε (R c) → Prop} {m n : Nat}

theorem Within.mono {p : Prog C R ε α} (h : p.Within A m) (hle : m ≤ n) : p.Within A n := by
  induction p generalizing m n with
  | pure a => cases n <;> trivial
  | throw e => cases n <;> trivial
  | stmt c k ih =>
    cases m with
    | zero => exact h.elim
    | succ m =>
      obtain ⟨n, rfl⟩ := Nat.exists_eq_add_of_le' (Nat.le_trans (Nat.succ_pos m) hle)
      exact fun r hr => ih r (h r hr) (Nat.le_of_succ_le_succ hle)

theorem within_pure (n : Nat) (a : α) : (.pure a : Prog C R ε α).Within A n := by
  cases n <;> trivial

theorem within_throw (n : Nat) (e : ε) : (.throw e : Prog C R ε α).Within A n := by
  cases n <;> trivial

theorem within_perform (c : C) : (perform c : Prog C R ε (R c)).Within A 1 := by
  intro r _
  cases r <;> trivial

theorem Within.bind {p : Prog C R ε β} {f : β → Prog C R ε α} (hp : p.Within A m)
    (hf : ∀ b, (f b).Within A n) : (p.bind f).Within A (m + n) := by
  induction p generalizing m with
  | pure b => exact (hf b).mono (Nat.le_add_left n m)
  | throw e => exact within_throw _ e
  | stmt c k ih =>
    cases m with
    | zero => exact hp.elim
    | succ m =>
      rw [Nat.succ_add]
      exact fun r hr => ih r (hp r hr)

theorem Within.tryCatch {p : Prog C R ε α} {f : ε → Prog C R ε α} (hp : p.Within A m)
    (hf : ∀ e, (f e).Within A n) : (p.tryCatch f).Within A (m + n) := by
  induction p generalizing m with
  | pure a => exact within_pure _ a
  | throw e => exact (hf e).mono (Nat.le_add_left n m)
  | stmt c k ih =>
    cases m with
    | zero => exact hp.elim
    | succ m =>
      rw [Nat.succ_add]
      exact fun r hr => ih r (hp r hr)

/-- The rule for the first statement, where the rest depends on its answer. -/
theorem within_perform_bind {c : C} {f : R c → Prog C R ε α}
    (hf : ∀ a, A c (.ok a) → (f a).Within A n) : ((perform c).bind f).Within A (n + 1) := by
  intro r hr
  cases r with
  | ok a => exact hf a hr
  | error e => exact within_throw n e

/-- The program stays within what `B` gives it after what it has seen. -/
abbrev Thrifty (A : (c : C) → Except ε (R c) → Prop) (B : List (Obs C R ε) → Nat)
    (p : Prog C R ε α) (past : List (Obs C R ε)) : Prop :=
  p.Obeys A (fun past _ => past.length < B past) (fun past _ => past.length ≤ B past) past

theorem Within.thrifty {B : List (Obs C R ε) → Nat} (grows : ∀ past more, B past ≤ B (past ++ more))
    {p : Prog C R ε α} (h : p.Within A n) {past : List (Obs C R ε)}
    (enough : past.length + n ≤ B past) : p.Thrifty A B past := by
  induction p generalizing n past with
  | pure a => exact Nat.le_trans (Nat.le_add_right _ _) enough
  | throw e => exact Nat.le_trans (Nat.le_add_right _ _) enough
  | stmt c k ih =>
    cases n with
    | zero => exact h.elim
    | succ n =>
      refine ⟨by omega, fun r hr => ih r (h r hr) ?_⟩
      have hmore := grows past [⟨c, r⟩]
      rw [List.length_append, List.length_singleton]
      omega

end Prog

/-- What a contract has to say for its programs to be thrifty. -/
def budget {Q : Type} (A : (c : C) → Except ε (R c) → Prop) (B : Q → List (Obs C R ε) → Nat) :
    Contract C R ε α Q where
  answers := A
  issues q past _ := past.length < B q past
  returns q past _ := past.length ≤ B q past

/-- In every run a thread has issued no more than its budget, and all of it only when it has its
result: nothing that the others do makes it go on for longer. -/
theorem Reach.within_budget {Q W O : Type} {program : Q → Prog C R ε α}
    {exec : O → (c : C) → W → Except ε (R c) × W} {A : (c : C) → Except ε (R c) → Prop}
    {B : Q → List (Obs C R ε) → Nat} {ok : Pool C R ε α Q W → Move Q O → Prop} {w : W}
    {s : Pool C R ε α Q W} (kept : (budget A B).Kept program exec)
    (h : Reach program exec ok { world := w } s) {i : Nat} {t : Thread C R ε α Q}
    (ht : s.threads[i]? = some t) :
    (own i s.history).length ≤ B t.request (own i s.history) ∧
      (t.result? = none → (own i s.history).length < B t.request (own i s.history)) := by
  have hobeys := h.obeys kept ht
  unfold Thread.result?
  cases hs : t.state with
  | pure a =>
    rw [hs] at hobeys
    exact ⟨hobeys, nofun⟩
  | throw e =>
    rw [hs] at hobeys
    exact ⟨hobeys, nofun⟩
  | stmt c k =>
    rw [hs] at hobeys
    exact ⟨Nat.le_of_lt hobeys.1, fun _ => hobeys.1⟩

end Interleaved
