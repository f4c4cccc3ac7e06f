import Mathlib.Data.List.Count
import TicketSystem.Lib.Pool

namespace Interleaved

variable {C : Type} {R : C → Type} {ε α Q W O τ : Type}

theorem count_filterMap_set {ι κ : Type} [DecidableEq κ] (f : ι → Option κ) (m : κ)
    {l : List ι} {i : Nat} {a : ι} (h : l[i]? = some a) (b : ι) :
    ((l.set i b).filterMap f).count m + (f a).toList.count m =
      (l.filterMap f).count m + (f b).toList.count m := by
  induction l generalizing i with
  | nil => simp at h
  | cons x l ih =>
    cases i with
    | zero =>
      cases Option.some.inj h
      cases ha : f a <;> cases hb : f b <;> simp [ha, hb, List.count_cons]
      omega
    | succ i =>
      have hrest := ih (i := i) (by simpa using h)
      cases hx : f x <;> simp [hx, List.count_cons] <;> omega

/-- What the next statement of a program would record. -/
def Prog.due (due : C → Option τ) : Prog C R ε α → Option τ
  | .stmt c _ => due c
  | _ => none

/-- What the threads have still to record. -/
def Pool.owes (due : C → Option τ) (s : Pool C R ε α Q W) : List τ :=
  s.threads.filterMap fun t => t.state.due due

def recorded (done : Obs C R ε → Option τ) (h : List (Entry C R ε W)) : List τ :=
  h.filterMap fun e => done e.obs

theorem recorded_snoc (done : Obs C R ε → Option τ) (h : List (Entry C R ε W))
    (e : Entry C R ε W) : recorded done (h ++ [e]) = recorded done h ++ (done e.obs).toList := by
  rw [recorded, List.filterMap_append]
  cases hd : done e.obs <;> simp [recorded, hd]

section Owes

variable (due : C → Option τ) {s : Pool C R ε α Q W}

theorem Pool.owes_arrive {q : Q} {p : Prog C R ε α} (h : p.due due = none) :
    Pool.owes due { s with threads := s.threads ++ [{ request := q, state := p }] } =
      s.owes due := by
  simp [Pool.owes, List.filterMap_append, h]

variable [DecidableEq τ]

theorem Pool.owes_ran {i : Nat} {q : Q} {c : C} {k : Except ε (R c) → Prog C R ε α}
    (thread : s.threads[i]? = some { request := q, state := .stmt c k })
    (r : Except ε (R c) × W) (x : τ) :
    ((s.ran i q c k r).owes due).count x + (due c).toList.count x =
      (s.owes due).count x + ((k r.1).due due).toList.count x :=
  count_filterMap_set _ x thread { request := q, state := k r.1 }

theorem Pool.owes_stop {i : Nat} {t : Thread C R ε α Q} (thread : s.threads[i]? = some t) (x : τ) :
    (Pool.owes due { s with threads := s.threads.set i { t with stopped := true } }).count x =
      (s.owes due).count x := by
  have hset := count_filterMap_set (fun t : Thread C R ε α Q => t.state.due due) x thread
    { t with stopped := true }
  exact Nat.add_right_cancel hset

end Owes

/-- When every statement keeps the balance of what the world has recorded, what its thread has
still to record and what was done, the pool keeps it. -/
theorem Reach.balance [DecidableEq τ] {program : Q → Prog C R ε α}
    {exec : O → (c : C) → W → Except ε (R c) × W} {ok : Pool C R ε α Q W → Move Q O → Prop}
    {w : W} {s : Pool C R ε α Q W} (due : C → Option τ) (done : Obs C R ε → Option τ)
    (told : W → List τ) (arrives : ∀ q, (program q).due due = none)
    (runs : ∀ u i q c (k : Except ε (R c) → Prog C R ε α) o,
      Reach program exec ok { world := w } u → ok u (.run i o) →
      u.threads[i]? = some { request := q, state := .stmt c k } → ∀ x,
        (told (exec o c u.world).2).count x + ((k (exec o c u.world).1).due due).toList.count x =
          (told u.world).count x + (due c).toList.count x +
            (done ⟨c, (exec o c u.world).1⟩).toList.count x)
    (h : Reach program exec ok { world := w } s) (x : τ) :
    (told s.world).count x + (s.owes due).count x =
      (told w).count x + (recorded done s.history).count x := by
  induction h with
  | start => simp [Pool.owes, recorded]
  | @next s s' m hr hm hstep ih =>
    cases hstep with
    | arrive q => rw [Pool.owes_arrive due (arrives q)]; exact ih
    | stop thread => rw [Pool.owes_stop due thread]; exact ih
    | @run i q c k o thread =>
      have howed := Pool.owes_ran due thread (exec o c s.world) x
      have hbalance := runs s i q c k o hr hm thread x
      have hdone : (recorded done (s.ran i q c k (exec o c s.world)).history).count x =
          (recorded done s.history).count x + (done ⟨c, (exec o c s.world).1⟩).toList.count x := by
        rw [Pool.ran, recorded_snoc, List.count_append]
      rw [hdone]
      change (told (exec o c s.world).2).count x + _ = _
      omega

end Interleaved
