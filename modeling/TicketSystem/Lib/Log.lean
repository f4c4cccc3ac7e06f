import TicketSystem.Lib.Pool

namespace Interleaved

variable {C : Type} {R : C → Type} {ε α β τ : Type}

namespace Prog

/-- As long as the program is answered as `A` admits, what `f` records of its statements and what
it returns are as `S` says. -/
def Logs (A : (c : C) → Except ε (R c) → Prop) (f : Obs C R ε → Option τ) :
    Prog C R ε α → (List τ → Except ε α → Prop) → Prop
  | .pure a, S => S [] (.ok a)
  | .throw e, S => S [] (.error e)
  | .stmt c k, S => ∀ r, A c r → (k r).Logs A f fun l => S ((f ⟨c, r⟩).toList ++ l)

variable {A : (c : C) → Except ε (R c) → Prop} {f : Obs C R ε → Option τ}
  {S S' : List τ → Except ε α → Prop}

theorem Logs.mono {p : Prog C R ε α} (h : p.Logs A f S) (hS : ∀ l r, S l r → S' l r) :
    p.Logs A f S' := by
  induction p generalizing S S' with
  | pure a => exact hS _ _ h
  | throw e => exact hS _ _ h
  | stmt c k ih => exact fun r hr => ih r (h r hr) fun l => hS _

theorem Logs.bind {p : Prog C R ε β} {g : β → Prog C R ε α} {T : List τ → Except ε β → Prop}
    (hp : p.Logs A f T) (hg : ∀ l b, T l (.ok b) → (g b).Logs A f fun l' => S (l ++ l'))
    (he : ∀ l e, T l (.error e) → S l (.error e)) : (p.bind g).Logs A f S := by
  induction p generalizing S T with
  | pure b => exact hg [] b hp
  | throw e => exact he [] e hp
  | stmt c k ih =>
    intro r hr
    refine ih r (hp r hr) (fun l b hb => ?_) fun l e => he _ e
    simpa only [List.append_assoc] using hg _ b hb

theorem Logs.tryCatch {p : Prog C R ε α} {g : ε → Prog C R ε α} {T : List τ → Except ε α → Prop}
    (hp : p.Logs A f T) (hok : ∀ l a, T l (.ok a) → S l (.ok a))
    (hg : ∀ l e, T l (.error e) → (g e).Logs A f fun l' => S (l ++ l')) :
    (p.tryCatch g).Logs A f S := by
  induction p generalizing S T with
  | pure a => exact hok [] a hp
  | throw e => exact hg [] e hp
  | stmt c k ih =>
    intro r hr
    refine ih r (hp r hr) (fun l a => hok _ a) fun l e h => ?_
    simpa only [List.append_assoc] using hg _ e h

theorem logs_perform {c : C} {S : List τ → Except ε (R c) → Prop}
    (h : ∀ r, A c r → S (f ⟨c, r⟩).toList r) : (perform c).Logs A f S := by
  intro r hr
  have hS := h r hr
  rw [← List.append_nil (f ⟨c, r⟩).toList] at hS
  cases r with
  | ok a => exact hS
  | error e => exact hS

/-- One statement and what follows it. -/
theorem logs_perform_bind {c : C} {g : R c → Prog C R ε α}
    (hok : ∀ a, A c (.ok a) → (g a).Logs A f fun l => S ((f ⟨c, .ok a⟩).toList ++ l))
    (herror : ∀ e, A c (.error e) → S (f ⟨c, .error e⟩).toList (.error e)) :
    ((perform c).bind g).Logs A f S := by
  intro r hr
  cases r with
  | ok a => exact hok a hr
  | error e =>
    have hS := herror e hr
    rw [← List.append_nil (f ⟨c, .error e⟩).toList] at hS
    exact hS

/-- What `f` records of a program whose statements are answered by `answer`, and what it returns. -/
def logOf (f : Obs C R ε → Option τ) (answer : Nat → (c : C) → Except ε (R c)) :
    Prog C R ε α → List τ × Except ε α
  | .pure a => ([], .ok a)
  | .throw e => ([], .error e)
  | .stmt c k =>
    let rest := (k (answer 0 c)).logOf f fun n => answer (n + 1)
    ((f ⟨c, answer 0 c⟩).toList ++ rest.1, rest.2)

theorem Logs.logOf {p : Prog C R ε α} {answer : Nat → (c : C) → Except ε (R c)}
    (h : p.Logs A f S) (answers : ∀ n c, A c (answer n c)) :
    S (p.logOf f answer).1 (p.logOf f answer).2 := by
  induction p generalizing S answer with
  | pure a => exact h
  | throw e => exact h
  | stmt c k ih => exact ih _ (h _ (answers 0 c)) fun n => answers (n + 1)

theorem Logs.obeys {p : Prog C R ε α} (h : p.Logs A f S) (past : List (Obs C R ε)) :
    p.Obeys A (fun _ _ => True)
      (fun past' r => ∃ l, past'.filterMap f = past.filterMap f ++ l ∧ S l r) past := by
  induction p generalizing S past with
  | pure a => exact ⟨[], by simp, h⟩
  | throw e => exact ⟨[], by simp, h⟩
  | stmt c k ih =>
    refine ⟨trivial, fun r hr => (ih r (h r hr) _).mono (fun _ _ h => h) ?_⟩
    rintro past' a ⟨l, hl, hS⟩
    refine ⟨_, ?_, hS⟩
    rw [hl, List.filterMap_append, List.append_assoc]
    cases hf : f ⟨c, r⟩ <;> simp [hf]

end Prog

/-- What a contract has to say about what its requests log. -/
def logging {Q : Type} (A : (c : C) → Except ε (R c) → Prop) (f : Q → Obs C R ε → Option τ)
    (S : Q → List τ → Except ε α → Prop) : Contract C R ε α Q where
  answers := A
  issues _ _ _ := True
  returns q past r := S q (past.filterMap (f q)) r

theorem logging_kept {Q W O : Type} {program : Q → Prog C R ε α}
    {exec : O → (c : C) → W → Except ε (R c) × W} {A : (c : C) → Except ε (R c) → Prop}
    {f : Q → Obs C R ε → Option τ} {S : Q → List τ → Except ε α → Prop}
    (answers : ∀ o c w, A c (exec o c w).1) (logs : ∀ q, (program q).Logs A (f q) (S q)) :
    (logging A f S).Kept program exec where
  answers := answers
  obeys q := by
    refine ((logs q).obeys []).mono (fun _ _ h => h) ?_
    rintro past r ⟨l, hl, hS⟩
    have hlog : past.filterMap (f q) = l := by simpa using hl
    show S q (past.filterMap (f q)) r
    rw [hlog]
    exact hS

end Interleaved
