import Mathlib.Logic.Function.Basic
import TicketSystem.Lib.Pool

namespace Interleaved

/-- Objects of type `χ` under the keys `κ`. An operation acts on the one object it names, which
may not be there yet; it is refused by `none`. -/
structure Objects (κ χ ω : Type) where
  target : ω → κ
  write : ω → Option χ → Option χ

namespace Objects

variable {κ χ ω : Type} [DecidableEq κ] (M : Objects κ χ ω)

def step (σ : κ → Option χ) (op : ω) : Option (κ → Option χ) :=
  (M.write op (σ (M.target op))).map fun x => Function.update σ (M.target op) (some x)

def run : List ω → (κ → Option χ) → Option (κ → Option χ)
  | [], σ => some σ
  | op :: ops, σ => (M.step σ op).bind (run ops)

/-- What operations make of one object. -/
def life : List ω → Option χ → Option (Option χ)
  | [], x => some x
  | op :: ops, x => (M.write op x).bind fun y => life ops (some y)

variable {M}

theorem step_eq_some {σ τ : κ → Option χ} {op : ω} : M.step σ op = some τ ↔
    ∃ x, M.write op (σ (M.target op)) = some x ∧ Function.update σ (M.target op) (some x) = τ := by
  simp [step]

/-- An object sees the operations that name it, and nothing of the others. -/
theorem life_of_run {ops : List ω} {σ τ : κ → Option χ} (h : M.run ops σ = some τ) (k : κ) :
    M.life (ops.filter fun op => M.target op = k) (σ k) = some (τ k) := by
  induction ops generalizing σ with
  | nil =>
    have hστ : σ = τ := Option.some.inj h
    rw [hστ]
    rfl
  | cons op ops ih =>
    obtain ⟨υ, hstep, hrun⟩ := Option.bind_eq_some_iff.mp h
    obtain ⟨x, hx, rfl⟩ := step_eq_some.mp hstep
    have hrest := ih hrun
    by_cases hk : M.target op = k
    · subst hk
      rw [Function.update_self] at hrest
      simpa [life, hx] using hrest
    · rw [Function.update_of_ne (Ne.symm hk)] at hrest
      simpa [hk] using hrest

/-- One step of a system is seen as an operation, or not at all. -/
def Shows (M : Objects κ χ ω) : Option ω → (κ → Option χ) → (κ → Option χ) → Prop
  | none, σ, τ => τ = σ
  | some op, σ, τ => M.step σ op = some τ

end Objects

variable {C : Type} {R : C → Type} {ε W κ χ ω : Type} [DecidableEq κ] {M : Objects κ χ ω}

/-- A history each of whose entries is seen as an operation, or not at all, is seen as the run of
these operations one after the other. -/
theorem Linked.linearized {view : W → κ → Option χ} {op? : Entry C R ε W → Option ω} {w w' : W}
    {h : List (Entry C R ε W)} (hl : Linked w h w')
    (hs : ∀ e ∈ h, M.Shows (op? e) (view e.before) (view e.after)) :
    M.run (h.filterMap op?) (view w) = some (view w') := by
  induction h generalizing w with
  | nil =>
    cases hl
    rfl
  | cons e h ih =>
    obtain ⟨rfl, hl⟩ := hl
    have he := hs e (by simp)
    have hrest := ih hl fun x hx => hs x (by simp [hx])
    cases hop : op? e with
    | none =>
      have hsame : view e.after = view e.before := by simpa [hop, Objects.Shows] using he
      rw [List.filterMap_cons_none hop, ← hsame]
      exact hrest
    | some op =>
      have hstep : M.step (view e.before) op = some (view e.after) := by
        simpa [hop, Objects.Shows] using he
      rw [List.filterMap_cons_some hop, Objects.run, hstep]
      exact hrest

/-- Whatever is executed after a moment is executed for a request that was not over then. -/
theorem Reach.later {α Q O : Type} {program : Q → Prog C R ε α}
    {exec : O → (c : C) → W → Except ε (R c) × W} {ok : Pool C R ε α Q W → Move Q O → Prop}
    {s₀ s : Pool C R ε α Q W} (h : Reach program exec ok s₀ s) : ∃ later,
      s.history = s₀.history ++ later ∧
        ∀ e ∈ later, ∀ t, s₀.threads[e.tid]? = some t → ¬ t.Over := by
  obtain ⟨later, hlater, _⟩ := h.grows
  refine ⟨later, hlater, fun e he t ht hover => ?_⟩
  have hown := (h.over_stays ht hover).2
  rw [hlater, own_append, List.append_right_eq_self] at hown
  have hmem : e.obs ∈ own e.tid later := mem_own.mpr ⟨e, he, rfl, rfl⟩
  rw [hown] at hmem
  cases hmem

end Interleaved
