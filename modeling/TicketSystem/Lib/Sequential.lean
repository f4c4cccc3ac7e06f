import TicketSystem.Lib.Pool

namespace Interleaved

variable {C : Type} {R : C → Type} {ε α β Q W O : Type}
  {exec : O → (c : C) → W → Except ε (R c) × W}

/-- Execute a program with no other between its statements; statement `n` draws `os n`. -/
def Prog.alone (exec : O → (c : C) → W → Except ε (R c) × W) :
    Prog C R ε α → (Nat → O) → W → Except ε α × W
  | .pure a, _, w => (.ok a, w)
  | .throw e, _, w => (.error e, w)
  | .stmt c k, os, w =>
    (k (exec (os 0) c w).1).alone exec (fun n => os (n + 1)) (exec (os 0) c w).2

namespace Prog

variable {os : Nat → O} {w : W}

theorem alone_perform {c : C} {r : Except ε (R c)} {w' : W} (h : exec (os 0) c w = (r, w')) :
    (perform c : Prog C R ε (R c)).alone exec os w = (r, w') := by
  simp only [perform, alone, h]
  cases r <;> rfl

theorem alone_bind_ok {c : C} {f : R c → Prog C R ε α} {a : R c} {w' : W}
    (h : exec (os 0) c w = (.ok a, w')) :
    ((perform c).bind f).alone exec os w = (f a).alone exec (fun n => os (n + 1)) w' := by
  simp only [perform, Prog.bind, alone, h]

/-- A program that is followed by another, where the rest of the oracles is the other's. -/
theorem alone_bind (exec : O → (c : C) → W → Except ε (R c) × W) (p : Prog C R ε β)
    (f : β → Prog C R ε α) (os : Nat → O) (w : W) :
    ∃ n, (p.bind f).alone exec os w =
      match p.alone exec os w with
      | (.ok b, w') => (f b).alone exec (fun m => os (n + m)) w'
      | (.error e, w') => (.error e, w') := by
  induction p generalizing os w with
  | pure b => exact ⟨0, by simp [Prog.bind, alone]⟩
  | throw e => exact ⟨0, rfl⟩
  | stmt c k ih =>
    obtain ⟨n, hn⟩ := ih (exec (os 0) c w).1 (fun n => os (n + 1)) (exec (os 0) c w).2
    refine ⟨n + 1, ?_⟩
    have hshift : (fun m => os (n + m + 1)) = fun m => os (n + 1 + m) := by
      funext m
      congr 1
      omega
    simp only [Prog.bind, alone]
    rw [hn, hshift]

theorem alone_bind_of_ok {p : Prog C R ε β} {f : β → Prog C R ε α} {b : β} {w' : W}
    (h : p.alone exec os w = (.ok b, w')) :
    ∃ n, (p.bind f).alone exec os w = (f b).alone exec (fun m => os (n + m)) w' := by
  obtain ⟨n, hn⟩ := alone_bind exec p f os w
  rw [h] at hn
  exact ⟨n, hn⟩

theorem alone_bind_of_error {p : Prog C R ε β} {f : β → Prog C R ε α} {e : ε} {w' : W}
    (h : p.alone exec os w = (.error e, w')) : (p.bind f).alone exec os w = (.error e, w') := by
  obtain ⟨n, hn⟩ := alone_bind exec p f os w
  rw [h] at hn
  exact hn

/-- A program that succeeds has nothing to recover from. -/
theorem alone_tryCatch_of_ok {p : Prog C R ε α} {h : ε → Prog C R ε α} {a : α} {w' : W}
    (hp : p.alone exec os w = (.ok a, w')) : (p.tryCatch h).alone exec os w = (.ok a, w') := by
  induction p generalizing os w with
  | pure b => exact hp
  | throw e => cases hp
  | stmt c k ih => exact ih _ hp

/-- A program whose errors are all swallowed ends well. -/
theorem alone_swallow (exec : O → (c : C) → W → Except ε (R c) × W) (p : Prog C R ε Unit)
    (os : Nat → O) (w : W) :
    ∃ w', (p.tryCatch fun _ => .pure ()).alone exec os w = (.ok (), w') := by
  induction p generalizing os w with
  | pure a => exact ⟨w, rfl⟩
  | throw e => exact ⟨w, rfl⟩
  | stmt c k ih => exact ih (exec (os 0) c w).1 (fun n => os (n + 1)) (exec (os 0) c w).2

end Prog

/-- To execute a request alone is one way to run it: the pool reaches its result. -/
theorem Reach.alone {program : Q → Prog C R ε α} {ok : Pool C R ε α Q W → Move Q O → Prop}
    {s₀ s : Pool C R ε α Q W} {i : Nat} {q : Q} {p : Prog C R ε α} (os : Nat → O)
    (hok : ∀ u n, ok u (.run i (os n))) (h : Reach program exec ok s₀ s)
    (thread : s.threads[i]? = some { request := q, state := p }) :
    ∃ s' t, Reach program exec ok s₀ s' ∧ s'.world = (p.alone exec os s.world).2 ∧
      s'.threads[i]? = some t ∧ t.request = q ∧
      t.result? = some (p.alone exec os s.world).1 := by
  induction p generalizing s os with
  | pure a => exact ⟨s, _, h, rfl, thread, rfl, rfl⟩
  | throw e => exact ⟨s, _, h, rfl, thread, rfl, rfl⟩
  | stmt c k ih =>
    have hi := (List.getElem?_eq_some_iff.mp thread).1
    exact ih _ (fun n => os (n + 1)) (fun u n => hok u (n + 1))
      (h.next (hok s 0) (.run (os 0) thread)) (List.getElem?_set_self hi)

end Interleaved
