import Mathlib.Data.List.Basic

namespace Reactive

variable {σ ε : Type} {next : σ → ε → Option σ} {ok ok' : σ → ε → Bool} {s₀ s s' : σ}

/-- The states a machine comes to by events that `ok` admits. -/
inductive Runs (next : σ → ε → Option σ) (ok : σ → ε → Bool) (s₀ : σ) : σ → Prop
  | start : Runs next ok s₀ s₀
  | next {s s' : σ} {e : ε} : Runs next ok s₀ s → ok s e = true → next s e = some s' →
      Runs next ok s₀ s'

/-- The state after a list of events, when each of them is admitted and can happen. -/
def replay (next : σ → ε → Option σ) (ok : σ → ε → Bool) : List ε → σ → Option σ
  | [], s => some s
  | e :: es, s => if ok s e then (next s e).bind (replay next ok es) else none

theorem replay_mono (hok : ∀ s e, ok s e = true → ok' s e = true) {es : List ε}
    (h : replay next ok es s = some s') : replay next ok' es s = some s' := by
  induction es generalizing s with
  | nil => exact h
  | cons e es ih =>
    simp only [replay] at h ⊢
    split at h
    next he =>
      obtain ⟨v, hv, h⟩ := Option.bind_eq_some_iff.mp h
      rw [if_pos (hok s e he), hv, Option.bind_some]
      exact ih h
    next => cases h

namespace Runs

theorem of_replay {es : List ε} (h : replay next ok es s = some s') (h₀ : Runs next ok s₀ s) :
    Runs next ok s₀ s' := by
  induction es generalizing s with
  | nil => cases Option.some.inj h; exact h₀
  | cons e es ih =>
    simp only [replay] at h
    split at h
    next hok =>
      obtain ⟨v, hv, h⟩ := Option.bind_eq_some_iff.mp h
      exact ih h (h₀.next hok hv)
    next => cases h

theorem mono (h : Runs next ok s₀ s) (hok : ∀ s e, ok s e = true → ok' s e = true) :
    Runs next ok' s₀ s := by
  induction h with
  | start => exact .start
  | next _ he hs ih => exact ih.next (hok _ _ he) hs

/-- What holds at the start and across every admitted event holds in every state reached. -/
theorem invariant {I : σ → Prop} (h : Runs next ok s₀ s) (h0 : I s₀)
    (step : ∀ s e s', I s → ok s e = true → next s e = some s' → I s') : I s := by
  induction h with
  | start => exact h0
  | next _ he hs ih => exact step _ _ _ ih he hs

/-- A property that every bad event spoils for good, and that holds when there is none, holds
exactly of the runs without bad events. -/
theorem iff_avoids {good : σ → ε → Bool} {Φ : σ → Prop} (h : Runs next ok s₀ s)
    (enough : ∀ s, Runs next good s₀ s → Φ s)
    (before : ∀ s e s', Runs next ok s₀ s → next s e = some s' → Φ s' → Φ s)
    (spoils : ∀ s e s', Runs next ok s₀ s → good s e = false → next s e = some s' → ¬ Φ s') :
    Φ s ↔ Runs next good s₀ s := by
  refine ⟨fun hΦ => ?_, enough s⟩
  induction h with
  | start => exact .start
  | @next s s' e hr _ hs ih =>
    have hgood : good s e = true := by
      by_contra hbad
      exact spoils s e s' hr (by simpa using hbad) hs hΦ
    exact (ih (before s e s' hr hs hΦ)).next hgood hs

end Runs

/-- Events that both predicates admit. -/
def both (ok good : σ → ε → Bool) (s : σ) (e : ε) : Bool := ok s e && good s e

/-- Where an event is good exactly when the property holds after it, as long as all events before
it were good, a run keeps the property throughout exactly when all its events are good. -/
theorem replay_iff {good : σ → ε → Bool} {Φ : σ → Prop} (start : Φ s₀)
    (step : ∀ s e s', Runs next (both ok good) s₀ s → ok s e = true → next s e = some s' →
      (Φ s' ↔ good s e = true)) {es : List ε} (run : replay next ok es s₀ = some s) :
    (∀ n s', replay next ok (es.take n) s₀ = some s' → Φ s') ↔
      replay next (both ok good) es s₀ = some s := by
  have from_good : ∀ es s₁, Runs next (both ok good) s₀ s₁ → Φ s₁ →
      replay next ok es s₁ = some s →
      ((∀ n s', replay next ok (es.take n) s₁ = some s' → Φ s') ↔
        replay next (both ok good) es s₁ = some s) := by
    intro es
    induction es with
    | nil =>
      intro s₁ _ hΦ run
      refine ⟨fun _ => run, fun _ n s' hs' => ?_⟩
      rw [List.take_nil] at hs'
      cases Option.some.inj hs'
      exact hΦ
    | cons e es ih =>
      intro s₁ hr hΦ run
      simp only [replay] at run
      split at run
      next hok =>
        obtain ⟨v, hv, run⟩ := Option.bind_eq_some_iff.mp run
        have hfirst : ∀ n, replay next ok ((e :: es).take (n + 1)) s₁ =
            replay next ok (es.take n) v := fun n => by
          simp [replay, hok, hv]
        have hiff := step s₁ e v hr hok hv
        constructor
        · intro hall
          have hgood := hiff.mp (hall 1 v (by rw [hfirst, List.take_zero]; rfl))
          have hboth : both ok good s₁ e = true := by simp [both, hok, hgood]
          simp only [replay, hboth, if_true, hv, Option.bind_some]
          exact (ih v (hr.next hboth hv) (hiff.mpr hgood) run).mp fun n s' hs' =>
            hall (n + 1) s' ((hfirst n).trans hs')
        · intro hgood n s' hs'
          simp only [replay] at hgood
          split at hgood
          next hboth =>
            simp only [hv, Option.bind_some] at hgood
            cases n with
            | zero =>
              rw [List.take_zero] at hs'
              cases Option.some.inj hs'
              exact hΦ
            | succ n =>
              have hΦv := hiff.mpr (Bool.and_eq_true_iff.mp hboth).2
              exact (ih v (hr.next hboth hv) hΦv run).mpr hgood n s' ((hfirst n).symm.trans hs')
          next => cases hgood
      next => cases run
  exact from_good es s₀ .start start run

end Reactive
