import TicketSystem.Lib.Sequential

namespace Interleaved

variable {C : Type} {R : C → Type} {ε α β W O : Type}

/-- How another party answers what is asked of it, in a world and after what was asked before. -/
abbrev Side (C : Type) (R : C → Type) (ε W : Type) :=
  W → List (Obs C R ε) → (c : C) → Except ε (R c)

/-- How an execution ended: `own` are the statements that were executed, `asides` those that were
asked of the other party. -/
structure Outcome (C : Type) (R : C → Type) (ε α W : Type) where
  result : Except ε α
  world : W
  own : List (Obs C R ε)
  asides : List (Obs C R ε)

/-- Execute a program with no other between its statements, where those that `aside` picks are asked
of another party: they change nothing in the world and draw nothing. -/
def Prog.beside (exec : O → (c : C) → W → Except ε (R c) × W) (aside : List (Obs C R ε) → C → Bool)
    (side : Side C R ε W) :
    Prog C R ε α → List (Obs C R ε) → List (Obs C R ε) → (Nat → O) → W → Outcome C R ε α W
  | .pure a, own, asides, _, w => ⟨.ok a, w, own, asides⟩
  | .throw e, own, asides, _, w => ⟨.error e, w, own, asides⟩
  | .stmt c k, own, asides, os, w =>
    if aside own c then
      (k (side w asides c)).beside exec aside side own (asides ++ [⟨c, side w asides c⟩]) os w
    else
      (k (exec (os 0) c w).1).beside exec aside side (own ++ [⟨c, (exec (os 0) c w).1⟩]) asides
        (fun n => os (n + 1)) (exec (os 0) c w).2

/-- The statements executed from one world to another. -/
inductive Executes (exec : O → (c : C) → W → Except ε (R c) × W) (w : W) :
    List (Obs C R ε) → W → Prop
  | nil : Executes exec w [] w
  | snoc {past : List (Obs C R ε)} {u : W} (h : Executes exec w past u) (o : O) (c : C) :
      Executes exec w (past ++ [⟨c, (exec o c u).1⟩]) (exec o c u).2

theorem Executes.last {exec : O → (c : C) → W → Except ε (R c) × W} {w v : W}
    {past : List (Obs C R ε)} {x : Obs C R ε} (h : Executes exec w (past ++ [x]) v) :
    ∃ o u, Executes exec w past u ∧ exec o x.cmd u = (x.answer, v) := by
  generalize hl : past ++ [x] = l at h
  cases h with
  | nil => simp at hl
  | snoc h o c =>
    obtain ⟨rfl, hx⟩ := List.append_inj' hl rfl
    cases hx
    exact ⟨o, _, h, rfl⟩

namespace Prog

/-- Whatever it is answered, the program speaks only to the other party and ends with `r`; what it
said is as `S` says. -/
def Ends (aside : C → Bool) (r : Except ε α) (S : List (Obs C R ε) → Prop) :
    Prog C R ε α → List (Obs C R ε) → Prop
  | .pure a, asides => r = .ok a ∧ S asides
  | .throw e, asides => r = .error e ∧ S asides
  | .stmt c k, asides => aside c = true ∧ ∀ x, (k x).Ends aside r S (asides ++ [⟨c, x⟩])

/-- Once the program speaks to the other party it is settled how it will end. `Q` tells the
statements executed, the result and what was asked of the other party. -/
def Closes (aside : List (Obs C R ε) → C → Bool)
    (Q : List (Obs C R ε) → Except ε α → List (Obs C R ε) → Prop) :
    Prog C R ε α → List (Obs C R ε) → Prop
  | .pure a, own => Q own (.ok a) []
  | .throw e, own => Q own (.error e) []
  | .stmt c k, own =>
    (aside own c = false ∧ ∀ x, (k x).Closes aside Q (own ++ [⟨c, x⟩])) ∨
      ∃ r, (stmt c k).Ends (aside own) r (Q own r) []

variable {exec : O → (c : C) → W → Except ε (R c) × W} {aside : List (Obs C R ε) → C → Bool}
  {side : Side C R ε W} {Q : List (Obs C R ε) → Except ε α → List (Obs C R ε) → Prop}
  {own asides : List (Obs C R ε)} {os : Nat → O} {w₀ w : W}

theorem Ends.beside {p : Prog C R ε α} {r : Except ε α} {S : List (Obs C R ε) → Prop}
    (h : p.Ends (aside own) r S asides) (os : Nat → O) (w : W) :
    ∃ said, p.beside exec aside side own asides os w = ⟨r, w, own, said⟩ ∧ S said := by
  induction p generalizing asides with
  | pure a => exact ⟨asides, by rw [h.1]; rfl, h.2⟩
  | throw e => exact ⟨asides, by rw [h.1]; rfl, h.2⟩
  | stmt c k ih =>
    simp only [Prog.beside, h.1, if_true]
    exact ih _ (h.2 _)

/-- The result, the world and the statements executed are the same however the other party
answers. -/
theorem Closes.beside {p : Prog C R ε α} (h : p.Closes aside Q own) (os : Nat → O)
    (executed : Executes exec w₀ own w) : ∃ r w' past, Executes exec w₀ past w' ∧
      ∀ side, ∃ said, p.beside exec aside side own [] os w = ⟨r, w', past, said⟩ ∧
        Q past r said := by
  induction p generalizing own os w with
  | pure a => exact ⟨_, _, _, executed, fun side => ⟨[], rfl, h⟩⟩
  | throw e => exact ⟨_, _, _, executed, fun side => ⟨[], rfl, h⟩⟩
  | stmt c k ih =>
    rcases h with ⟨hown, hk⟩ | ⟨r, hends⟩
    · simp only [Prog.beside, hown]
      exact ih _ (hk _) (fun n => os (n + 1)) (executed.snoc (os 0) c)
    · exact ⟨r, w, own, executed, fun side => hends.beside os w⟩

theorem Ends.bind {p : Prog C R ε β} {f : β → Prog C R ε α} {b : β} {r : Except ε α}
    {picks : C → Bool} {S T : List (Obs C R ε) → Prop} (h : p.Ends picks (.ok b) S asides)
    (hf : ∀ asides, S asides → (f b).Ends picks r T asides) : (p.bind f).Ends picks r T asides := by
  induction p generalizing asides with
  | pure a =>
    obtain ⟨hb, hs⟩ := h
    cases hb
    exact hf _ hs
  | throw e => cases h.1
  | stmt c k ih => exact ⟨h.1, fun x => ih x (h.2 x)⟩

theorem Ends.bind_error {p : Prog C R ε β} {f : β → Prog C R ε α} {e : ε} {picks : C → Bool}
    {S : List (Obs C R ε) → Prop} (h : p.Ends picks (.error e) S asides) :
    (p.bind f).Ends picks (.error e) S asides := by
  induction p generalizing asides with
  | pure a => cases h.1
  | throw e => exact ⟨congrArg _ (Except.error.inj h.1), h.2⟩
  | stmt c k ih => exact ⟨h.1, fun x => ih x (h.2 x)⟩

/-- Last words. -/
theorem Ends.closes {p : Prog C R ε α} {r : Except ε α} (h : p.Ends (aside own) r (Q own r) []) :
    p.Closes aside Q own := by
  cases p with
  | pure a =>
    obtain ⟨rfl, hq⟩ := h
    exact hq
  | throw e =>
    obtain ⟨rfl, hq⟩ := h
    exact hq
  | stmt c k => exact .inr ⟨r, h⟩

/-- A program that never speaks to the other party. -/
theorem Only.closes {p : Prog C R ε α} (h : p.Only fun c => ∀ own, aside own c = false)
    (hQ : ∀ own r, Q own r []) (own : List (Obs C R ε)) : p.Closes aside Q own := by
  induction p generalizing own with
  | pure a => exact hQ _ _
  | throw e => exact hQ _ _
  | stmt c k ih => exact .inl ⟨h.1 own, fun x => ih x (h.2 x) _⟩

theorem closes_perform_bind {c : C} {f : R c → Prog C R ε α} (hown : aside own c = false)
    (ha : ∀ a, (f a).Closes aside Q (own ++ [⟨c, .ok a⟩]))
    (he : ∀ e, Q (own ++ [⟨c, .error e⟩]) (.error e) []) :
    ((perform c).bind f).Closes aside Q own := by
  refine .inl ⟨hown, fun x => ?_⟩
  cases x with
  | ok a => exact ha a
  | error e => exact he e

/-- What is made of the value at the end. -/
theorem Closes.map {p : Prog C R ε β} {f : β → α}
    (h : p.Closes aside (fun own r said => Q own (r.map f) said) own) :
    (p.bind fun b => .pure (f b)).Closes aside Q own := by
  induction p generalizing own with
  | pure b => exact h
  | throw e => exact h
  | stmt c k ih =>
    rcases h with ⟨hown, hk⟩ | ⟨r, hends⟩
    · exact .inl ⟨hown, fun x => ih x (hk x)⟩
    · refine .inr ⟨r.map f, ?_⟩
      cases r with
      | ok b => exact hends.bind fun asides hq => ⟨rfl, hq⟩
      | error e => exact hends.bind_error

end Prog

end Interleaved
