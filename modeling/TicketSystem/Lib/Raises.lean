import TicketSystem.Lib.Program

namespace Interleaved

variable {C : Type} {R : C → Type} {ε α β : Type}

/-- An error it may be, but then one of these. -/
def ErrsWithin (E : ε → Prop) (r : Except ε α) : Prop := ∀ e, r = .error e → E e

theorem errsWithin_ok {E : ε → Prop} {a : α} : ErrsWithin E (.ok a : Except ε α) := nofun

theorem errsWithin_error {E : ε → Prop} {e : ε} (h : E e) :
    ErrsWithin E (.error e : Except ε α) := by
  rintro _ ⟨⟩
  exact h

theorem ErrsWithin.mono {E E' : ε → Prop} {r : Except ε α} (h : ErrsWithin E r)
    (hE : ∀ e, E e → E' e) : ErrsWithin E' r :=
  fun e he => hE e (h e he)

namespace Prog

/-- The program fails as `E` says, when the statements of `G` do. -/
def Raises (G : C → Prop) (E : ε → Prop) (p : Prog C R ε α) : Prop :=
  ∀ past, p.Obeys (fun c r => G c → ErrsWithin E r) (fun _ _ => True) (fun _ => ErrsWithin E) past

variable {G : C → Prop} {E : ε → Prop}

theorem raises_pure (a : α) : (.pure a : Prog C R ε α).Raises G E := fun _ => errsWithin_ok

theorem raises_throw {e : ε} (h : E e) : (.throw e : Prog C R ε α).Raises G E :=
  fun _ => errsWithin_error h

theorem raises_perform {c : C} (hc : G c) : (perform c : Prog C R ε (R c)).Raises G E :=
  fun _ => obeys_perform.mpr ⟨trivial, fun _ hr => hr hc⟩

theorem raises_perform_bind {c : C} {f : R c → Prog C R ε α} (hc : G c)
    (hf : ∀ a, (f a).Raises G E) : ((perform c).bind f).Raises G E :=
  fun _ => obeys_perform_bind.mpr
    ⟨trivial, fun a _ => hf a _, fun e he => errsWithin_error (he hc e rfl)⟩

theorem Raises.bind {p : Prog C R ε β} {f : β → Prog C R ε α} (hp : p.Raises G E)
    (hf : ∀ b, (f b).Raises G E) : (p.bind f).Raises G E :=
  fun past => (hp past).bind (fun _ b _ => hf b _) fun _ e he => errsWithin_error (he e rfl)

theorem Raises.tryCatch {p : Prog C R ε α} {f : ε → Prog C R ε α} (hp : p.Raises G E)
    (hf : ∀ e, E e → (f e).Raises G E) : (p.tryCatch f).Raises G E :=
  fun past => (hp past).tryCatch (fun _ _ _ => errsWithin_ok) fun _ e he => hf e (he e rfl) _

end Prog

end Interleaved
