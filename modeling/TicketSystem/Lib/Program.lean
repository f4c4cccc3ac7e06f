import Mathlib.Data.List.Basic

namespace Interleaved

/-- A program over atomic statements. A statement `c` is answered by a value of
type `R c` or by an error, and the program goes on from that answer. -/
inductive Prog (C : Type) (R : C → Type) (ε α : Type) where
  | pure (a : α)
  | throw (e : ε)
  | stmt (c : C) (k : Except ε (R c) → Prog C R ε α)

structure Obs (C : Type) (R : C → Type) (ε : Type) where
  cmd : C
  answer : Except ε (R cmd)

variable {C : Type} {R : C → Type} {ε α β : Type}

namespace Prog

def bind : Prog C R ε α → (α → Prog C R ε β) → Prog C R ε β
  | .pure a, f => f a
  | .throw e, _ => .throw e
  | .stmt c k, f => .stmt c (fun r => (k r).bind f)

def tryCatch : Prog C R ε α → (ε → Prog C R ε α) → Prog C R ε α
  | .pure a, _ => .pure a
  | .throw e, h => h e
  | .stmt c k, h => .stmt c (fun r => (k r).tryCatch h)

instance : Monad (Prog C R ε) where
  pure := .pure
  bind := .bind

def perform (c : C) : Prog C R ε (R c) :=
  .stmt c (fun r => match r with
    | .ok a => .pure a
    | .error e => .throw e)

@[simp] theorem bind_eq (p : Prog C R ε α) (f : α → Prog C R ε β) : p >>= f = p.bind f := rfl

@[simp] theorem bind_throw (e : ε) (f : α → Prog C R ε β) :
    (Prog.throw e : Prog C R ε α).bind f = .throw e := rfl

theorem bind_assoc {γ : Type} (p : Prog C R ε α) (f : α → Prog C R ε β) (g : β → Prog C R ε γ) :
    (p.bind f).bind g = p.bind fun a => (f a).bind g := by
  induction p with
  | pure a => rfl
  | throw e => rfl
  | stmt c k ih => exact congrArg (Prog.stmt c) (funext fun r => ih r)

/-- Every error answer is raised at once: nothing in the program recovers from one. -/
def Strict : Prog C R ε α → Prop
  | .pure _ => True
  | .throw _ => True
  | .stmt _ k => (∀ e, k (.error e) = .throw e) ∧ ∀ a, (k (.ok a)).Strict

theorem strict_perform (c : C) : (perform c : Prog C R ε (R c)).Strict :=
  ⟨fun _ => rfl, fun _ => trivial⟩

theorem Strict.bind {p : Prog C R ε β} {f : β → Prog C R ε α} (hp : p.Strict)
    (hf : ∀ b, (f b).Strict) : (p.bind f).Strict := by
  induction p with
  | pure b => exact hf b
  | throw e => trivial
  | stmt c k ih => exact ⟨fun e => by simp only [hp.1 e, bind_throw], fun a => ih _ (hp.2 a)⟩

/-- Whatever it is answered, the program issues only what `P` allows. -/
def Only (P : C → Prop) : Prog C R ε α → Prop
  | .pure _ => True
  | .throw _ => True
  | .stmt c k => P c ∧ ∀ r, (k r).Only P

theorem Only.mono {P P' : C → Prop} {p : Prog C R ε α} (h : p.Only P) (hP : ∀ c, P c → P' c) :
    p.Only P' := by
  induction p with
  | pure a => trivial
  | throw e => trivial
  | stmt c k ih => exact ⟨hP c h.1, fun r => ih r (h.2 r)⟩

theorem only_perform {P : C → Prop} {c : C} (h : P c) : (perform c : Prog C R ε (R c)).Only P := by
  refine ⟨h, fun r => ?_⟩
  cases r <;> trivial

theorem Only.bind {P : C → Prop} {p : Prog C R ε β} {f : β → Prog C R ε α} (hp : p.Only P)
    (hf : ∀ b, (f b).Only P) : (p.bind f).Only P := by
  induction p with
  | pure b => exact hf b
  | throw e => trivial
  | stmt c k ih => exact ⟨hp.1, fun r => ih r (hp.2 r)⟩

theorem Only.tryCatch {P : C → Prop} {p : Prog C R ε α} {f : ε → Prog C R ε α} (hp : p.Only P)
    (hf : ∀ e, (f e).Only P) : (p.tryCatch f).Only P := by
  induction p with
  | pure a => trivial
  | throw e => exact hf e
  | stmt c k ih => exact ⟨hp.1, fun r => ih r (hp.2 r)⟩

/-- `p` obeys `P` and `Q` from the statements `past` on: as long as it is answered as
`A` admits, it issues only what `P` allows after what it has seen, and ends only as `Q` says. -/
def Obeys (A : (c : C) → Except ε (R c) → Prop) (P : List (Obs C R ε) → C → Prop)
    (Q : List (Obs C R ε) → Except ε α → Prop) : Prog C R ε α → List (Obs C R ε) → Prop
  | .pure a, past => Q past (.ok a)
  | .throw e, past => Q past (.error e)
  | .stmt c k, past => P past c ∧ ∀ r, A c r → (k r).Obeys A P Q (past ++ [⟨c, r⟩])

theorem Only.obeys {A : (c : C) → Except ε (R c) → Prop} {P : C → Prop} {p : Prog C R ε α}
    (h : p.Only P) (past : List (Obs C R ε)) :
    p.Obeys A (fun _ c => P c) (fun _ _ => True) past := by
  induction p generalizing past with
  | pure a => trivial
  | throw e => trivial
  | stmt c k ih => exact ⟨h.1, fun r _ => ih r (h.2 r) _⟩

theorem obeys_any {A : (c : C) → Except ε (R c) → Prop} (p : Prog C R ε α)
    (past : List (Obs C R ε)) : p.Obeys A (fun _ _ => True) (fun _ _ => True) past := by
  induction p generalizing past with
  | pure a => trivial
  | throw e => trivial
  | stmt c k ih => exact ⟨trivial, fun r _ => ih r _⟩

section Rules

variable {A : (c : C) → Except ε (R c) → Prop} {P P' : List (Obs C R ε) → C → Prop}
  {Q Q' : List (Obs C R ε) → Except ε α → Prop} {past : List (Obs C R ε)}

theorem Obeys.mono {p : Prog C R ε α} (h : p.Obeys A P Q past)
    (hP : ∀ past c, P past c → P' past c) (hQ : ∀ past r, Q past r → Q' past r) :
    p.Obeys A P' Q' past := by
  induction p generalizing past with
  | pure a => exact hQ _ _ h
  | throw e => exact hQ _ _ h
  | stmt c k ih => exact ⟨hP _ _ h.1, fun r hr => ih r (h.2 r hr)⟩

/-- What every allowed statement preserves, holds before each statement and at the end. -/
theorem Obeys.keeps {p : Prog C R ε α} {I : List (Obs C R ε) → Prop} (h : p.Obeys A P Q past)
    (hI : ∀ past c r, I past → P past c → A c r → I (past ++ [⟨c, r⟩])) (h0 : I past) :
    p.Obeys A (fun past c => P past c ∧ I past) (fun past r => Q past r ∧ I past) past := by
  induction p generalizing past with
  | pure a => exact ⟨h, h0⟩
  | throw e => exact ⟨h, h0⟩
  | stmt c k ih => exact ⟨⟨h.1, h0⟩, fun r hr => ih r (h.2 r hr) (hI _ _ _ h0 h.1 hr)⟩

theorem Obeys.bind {m : Prog C R ε β} {f : β → Prog C R ε α}
    {S : List (Obs C R ε) → Except ε β → Prop} (hm : m.Obeys A P S past)
    (hf : ∀ past b, S past (.ok b) → (f b).Obeys A P Q past)
    (he : ∀ past e, S past (.error e) → Q past (.error e)) : (m.bind f).Obeys A P Q past := by
  induction m generalizing past with
  | pure b => exact hf _ _ hm
  | throw e => exact he _ _ hm
  | stmt c k ih => exact ⟨hm.1, fun r hr => ih r (hm.2 r hr)⟩

theorem Obeys.tryCatch {p : Prog C R ε α} {h : ε → Prog C R ε α}
    {S : List (Obs C R ε) → Except ε α → Prop} (hp : p.Obeys A P S past)
    (ha : ∀ past a, S past (.ok a) → Q past (.ok a))
    (hh : ∀ past e, S past (.error e) → (h e).Obeys A P Q past) :
    (p.tryCatch h).Obeys A P Q past := by
  induction p generalizing past with
  | pure a => exact ha _ _ hp
  | throw e => exact hh _ _ hp
  | stmt c k ih => exact ⟨hp.1, fun r hr => ih r (hp.2 r hr)⟩

/-- One statement and what follows it: the rule that walks a straight-line program. -/
theorem obeys_perform_bind {c : C} {f : R c → Prog C R ε α} :
    ((perform c).bind f).Obeys A P Q past ↔
      P past c ∧ (∀ a, A c (.ok a) → (f a).Obeys A P Q (past ++ [⟨c, .ok a⟩])) ∧
        ∀ e, A c (.error e) → Q (past ++ [⟨c, .error e⟩]) (.error e) := by
  constructor
  · rintro ⟨hc, hr⟩
    exact ⟨hc, fun a => hr (.ok a), fun e => hr (.error e)⟩
  · rintro ⟨hc, ha, he⟩
    refine ⟨hc, fun r => ?_⟩
    cases r with
    | ok a => exact ha a
    | error e => exact he e

theorem obeys_perform {c : C} {Q : List (Obs C R ε) → Except ε (R c) → Prop} :
    (perform c).Obeys A P Q past ↔ P past c ∧ ∀ r, A c r → Q (past ++ [⟨c, r⟩]) r := by
  constructor
  · rintro ⟨hc, hr⟩
    refine ⟨hc, fun r => ?_⟩
    cases r with
    | ok a => exact hr (.ok a)
    | error e => exact hr (.error e)
  · rintro ⟨hc, hr⟩
    refine ⟨hc, fun r => ?_⟩
    cases r with
    | ok a => exact hr (.ok a)
    | error e => exact hr (.error e)

end Rules

end Prog

end Interleaved
