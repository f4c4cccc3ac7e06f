import Mathlib.Logic.Function.Basic
import TicketSystem.Lib.Pool

namespace Interleaved

variable {C : Type} {R : C → Type} {ε α β Q K W O : Type}

/-- What comes of a call before it is served: an answer, or the request it becomes. -/
inductive Entrance (β Q : Type) where
  | answers (b : β)
  | enters (q : Q)

/-- What stands between the callers and the services: what is done with a call first, and what is
made of the answer of the service. -/
structure Gate (C : Type) (R : C → Type) (ε α β K Q : Type) where
  front : K → Prog C R ε (Entrance β Q)
  reply : K → α → β

namespace Gate

variable (G : Gate C R ε α β K Q) (serve : Q → Prog C R ε α)

def served (k : K) (p : Prog C R ε α) : Prog C R ε β := p.bind fun a => .pure (G.reply k a)

def proceed (k : K) : Entrance β Q → Prog C R ε β
  | .answers b => .pure b
  | .enters q => G.served k (serve q)

def program (k : K) : Prog C R ε β := (G.front k).bind (G.proceed serve k)

end Gate

/-! ### Calls behind a gate, and the requests they become -/

/-- A history without statements of the front, which are as `D` says and change nothing; thread `i`
of the one is thread `seat i` of the other. -/
inductive Shadow (D : Entry C R ε W → Prop) (seat : Nat → Option Nat) :
    List (Entry C R ε W) → List (Entry C R ε W) → Prop
  | nil : Shadow D seat [] []
  | front {h h' : List (Entry C R ε W)} {e : Entry C R ε W} (past : Shadow D seat h h')
      (asked : D e) (still : e.after = e.before) : Shadow D seat (h ++ [e]) h'
  | inside {h h' : List (Entry C R ε W)} {e : Entry C R ε W} {j : Nat} (past : Shadow D seat h h')
      (seated : seat e.tid = some j) : Shadow D seat (h ++ [e]) (h' ++ [{ e with tid := j }])

theorem Shadow.mono {D D' : Entry C R ε W → Prop} {seat seat' : Nat → Option Nat}
    {h h' : List (Entry C R ε W)} (hs : Shadow D seat h h') (hD : ∀ e, D e → D' e)
    (hseat : ∀ i j, seat i = some j → seat' i = some j) : Shadow D' seat' h h' := by
  induction hs with
  | nil => exact .nil
  | front _ asked still ih => exact .front ih (hD _ asked) still
  | inside _ seated ih => exact .inside ih (hseat _ _ seated)

/-- The statement is one that `F` lets the thread issue that executed it. -/
def Contract.Asks (F : Contract C R ε β K) {γ : Type} (threads : List (Thread C R ε γ K))
    (e : Entry C R ε W) : Prop :=
  ∃ x past, threads[e.tid]? = some x ∧ F.issues x.request past e.obs.1

theorem Contract.Asks.arrive {F : Contract C R ε β K} {γ : Type} {threads : List (Thread C R ε γ K)}
    {e : Entry C R ε W} (h : F.Asks threads e) (x : Thread C R ε γ K) :
    F.Asks (threads ++ [x]) e := by
  obtain ⟨y, past, hy, hissues⟩ := h
  refine ⟨y, past, ?_, hissues⟩
  rw [List.getElem?_append_left (List.getElem?_eq_some_iff.mp hy).1]
  exact hy

/-- A thread keeps its request as it goes on. -/
theorem Contract.Asks.set {F : Contract C R ε β K} {γ : Type} {threads : List (Thread C R ε γ K)}
    {e : Entry C R ε W} (h : F.Asks threads e) {i : Nat} {x x' : Thread C R ε γ K}
    (hx : threads[i]? = some x) (hsame : x'.request = x.request) : F.Asks (threads.set i x') e := by
  obtain ⟨y, past, hy, hissues⟩ := h
  by_cases hi : i = e.tid
  · subst hi
    cases hx.symm.trans hy
    exact ⟨x', past, List.getElem?_set_self (List.getElem?_eq_some_iff.mp hy).1, hsame ▸ hissues⟩
  · exact ⟨y, past, (List.getElem?_set_ne hi).trans hy, hissues⟩

/-- Call `x` has become request `y`, as the front says after `past`; from then on the two go on
alike. -/
structure Gate.Becomes (G : Gate C R ε α β K Q) (F : Contract C R ε (Entrance β Q) K)
    (x : Thread C R ε β K) (y : Thread C R ε α Q) (past : List (Obs C R ε)) : Prop where
  state : x.state = G.served x.request y.state
  stopped : y.stopped = x.stopped
  admitted : F.returns x.request past (.ok (.enters y.request))

/-- The pool of calls `s` does what the pool of requests `t` does: the calls that have a seat are its
requests, the others are still at the front. Of the call that `late` names the request may be due. -/
structure Gate.Mirror (G : Gate C R ε α β K Q) (serve : Q → Prog C R ε α)
    (F : Contract C R ε (Entrance β Q) K) (late : Option Nat) (s : Pool C R ε β K W)
    (t : Pool C R ε α Q W) (seat : Nat → Option Nat) : Prop where
  world : t.world = s.world
  shadow : Shadow (F.Asks s.threads) seat s.history t.history
  front : ∀ i x, s.threads[i]? = some x → seat i = none → ∃ p : Prog C R ε (Entrance β Q),
    x.state = p.bind (G.proceed serve x.request) ∧
      p.Obeys F.answers (F.issues x.request) (F.returns x.request) (own i s.history) ∧
      ∀ q, p = .pure (.enters q) → late = some i ∧ x.stopped = false
  inside : ∀ i x j, s.threads[i]? = some x → seat i = some j → ∃ y past,
    t.threads[j]? = some y ∧ G.Becomes F x y past ∧ own i s.history = past ++ own j t.history
  seated : ∀ i j, seat i = some j → i < s.threads.length ∧ j < t.threads.length
  apart : ∀ i i' j, seat i = some j → seat i' = some j → i = i'
  filled : ∀ j, j < t.threads.length → ∃ i, seat i = some j

section Steps

variable {G : Gate C R ε α β K Q} {serve : Q → Prog C R ε α}
  {F : Contract C R ε (Entrance β Q) K} {exec : O → (c : C) → W → Except ε (R c) × W}
  {ok : Pool C R ε β K W → Move K O → Prop} {ok' : Pool C R ε α Q W → Move Q O → Prop}
  {w : W} {s : Pool C R ε β K W} {t : Pool C R ε α Q W} {seat : Nat → Option Nat}

theorem Gate.proceed_stmt {k : K} {p : Prog C R ε (Entrance β Q)} {c : C}
    {f : Except ε (R c) → Prog C R ε β} (h : p.bind (G.proceed serve k) = .stmt c f)
    (hp : ∀ q, p ≠ .pure (.enters q)) :
    ∃ g, p = .stmt c g ∧ f = fun r => (g r).bind (G.proceed serve k) := by
  cases p with
  | pure a =>
    cases a with
    | answers b => cases h
    | enters q => exact absurd rfl (hp q)
  | throw e => cases h
  | stmt c' g =>
    cases h
    exact ⟨g, rfl, rfl⟩

theorem Gate.served_stmt {k : K} {p : Prog C R ε α} {c : C} {f : Except ε (R c) → Prog C R ε β}
    (h : G.served k p = .stmt c f) : ∃ g, p = .stmt c g ∧ f = fun r => G.served k (g r) := by
  cases p with
  | pure a => cases h
  | throw e => cases h
  | stmt c' g =>
    cases h
    exact ⟨g, rfl, rfl⟩

/-- A thread that has not arrived has executed nothing. -/
theorem Reach.own_arriving {program : K → Prog C R ε β}
    (h : Reach program exec ok { world := w } s) : own s.threads.length s.history = [] := by
  refine List.eq_nil_iff_forall_not_mem.mpr fun o ho => ?_
  obtain ⟨e, he, htid, _⟩ := mem_own.mp ho
  have hlt := h.tid_lt (by simp) e he
  omega

/-- No request is due. -/
theorem Gate.Mirror.prompt {i : Nat} (hm : G.Mirror serve F (some i) s t seat)
    (hno : ∀ (x : Thread C R ε β K) (q : Q), s.threads[i]? = some x → seat i = none →
      x.state = G.served x.request (serve q) → x.stopped = false →
      F.returns x.request (own i s.history) (.ok (.enters q)) → False) :
    G.Mirror serve F none s t seat := by
  refine { hm with front := fun i' x hx hseat => ?_ }
  obtain ⟨p, hstate, hobeys, hlate⟩ := hm.front i' x hx hseat
  refine ⟨p, hstate, hobeys, fun q hq => ?_⟩
  obtain ⟨hi, hstopped⟩ := hlate q hq
  cases hi
  subst hq
  exact (hno x q hx hseat hstate hstopped hobeys).elim

/-- The request that is due arrives. -/
theorem Gate.Mirror.enter {i : Nat} {x : Thread C R ε β K} {q : Q}
    (hm : G.Mirror serve F (some i) s t seat) (hfresh : own t.threads.length t.history = [])
    (hx : s.threads[i]? = some x) (hseat : seat i = none)
    (hstate : x.state = G.served x.request (serve q)) (hstopped : x.stopped = false)
    (hreturns : F.returns x.request (own i s.history) (.ok (.enters q))) :
    G.Mirror serve F none s { t with threads := t.threads ++ [{ request := q, state := serve q }] }
      (Function.update seat i (some t.threads.length)) := by
  have hnew : ∀ j y, t.threads[j]? = some y →
      (t.threads ++ [{ request := q, state := serve q }])[j]? = some y := fun j y hy => by
    rw [List.getElem?_append_left (List.getElem?_eq_some_iff.mp hy).1]
    exact hy
  have hother : ∀ {i' j : Nat}, seat i' = some j → i' ≠ i := by
    rintro i' j hj rfl
    cases hseat.symm.trans hj
  have hcases : ∀ {i' j}, Function.update seat i (some t.threads.length) i' = some j →
      i' = i ∧ j = t.threads.length ∨ seat i' = some j := by
    intro i' j hj
    by_cases hi : i' = i
    · subst hi
      rw [Function.update_self] at hj
      exact .inl ⟨rfl, (Option.some.inj hj).symm⟩
    · rw [Function.update_of_ne hi] at hj
      exact .inr hj
  constructor
  · exact hm.world
  · exact hm.shadow.mono (fun _ => id) fun i' j hj => by rw [Function.update_of_ne (hother hj), hj]
  · intro i' x' hx' hnone
    have hi : i' ≠ i := by
      rintro rfl
      simp at hnone
    rw [Function.update_of_ne hi] at hnone
    obtain ⟨p, hstate', hobeys, hlate⟩ := hm.front i' x' hx' hnone
    exact ⟨p, hstate', hobeys, fun q' hq' => absurd (Option.some.inj (hlate q' hq').1).symm hi⟩
  · intro i' x' j hx' hj
    rcases hcases hj with ⟨rfl, rfl⟩ | hj
    · cases hx.symm.trans hx'
      refine ⟨_, own i' s.history, List.getElem?_concat_length, ⟨hstate, hstopped.symm, hreturns⟩, ?_⟩
      rw [hfresh, List.append_nil]
    · obtain ⟨y, past, hy, hbecomes, hown⟩ := hm.inside i' x' j hx' hj
      exact ⟨y, past, hnew j y hy, hbecomes, hown⟩
  · intro i' j hj
    rcases hcases hj with ⟨rfl, rfl⟩ | hj
    · exact ⟨(List.getElem?_eq_some_iff.mp hx).1, by simp⟩
    · obtain ⟨hlt, hlt'⟩ := hm.seated i' j hj
      exact ⟨hlt, by simp; omega⟩
  · intro i₁ i₂ j h₁ h₂
    rcases hcases h₁ with ⟨hi₁, hj⟩ | hold₁ <;> rcases hcases h₂ with ⟨hi₂, hj'⟩ | hold₂
    · rw [hi₁, hi₂]
    · exact absurd (hj ▸ (hm.seated i₂ j hold₂).2) (Nat.lt_irrefl _)
    · exact absurd (hj' ▸ (hm.seated i₁ j hold₁).2) (Nat.lt_irrefl _)
    · exact hm.apart i₁ i₂ j hold₁ hold₂
  · intro j hj
    simp only [List.length_append, List.length_singleton] at hj
    by_cases hlast : j = t.threads.length
    · exact ⟨i, by rw [Function.update_self, hlast]⟩
    · obtain ⟨i', hi'⟩ := hm.filled j (by omega)
      exact ⟨i', by rw [Function.update_of_ne (hother hi'), hi']⟩

theorem Gate.Mirror.settle {i : Nat} (hm : G.Mirror serve F (some i) s t seat)
    (h : Reach serve exec ok' { world := w } t) (harrive : ∀ u q, ok' u (.arrive q)) :
    ∃ t' seat', Reach serve exec ok' { world := w } t' ∧ G.Mirror serve F none s t' seat' := by
  by_cases hdue : ∃ x q, s.threads[i]? = some x ∧ seat i = none ∧
      x.state = G.served x.request (serve q) ∧ x.stopped = false ∧
      F.returns x.request (own i s.history) (.ok (.enters q))
  case pos =>
    obtain ⟨x, q, hx, hseat, hstate, hstopped, hreturns⟩ := hdue
    exact ⟨_, _, h.next (harrive t q) (.arrive q),
      hm.enter h.own_arriving hx hseat hstate hstopped hreturns⟩
  case neg =>
    exact ⟨t, seat, h, hm.prompt fun x q hx hseat hstate hstopped hreturns =>
      hdue ⟨x, q, hx, hseat, hstate, hstopped, hreturns⟩⟩

theorem Gate.Mirror.arrive (hm : G.Mirror serve F none s t seat)
    (hfresh : own s.threads.length s.history = []) {k : K}
    (hfront : (G.front k).Obeys F.answers (F.issues k) (F.returns k) []) :
    G.Mirror serve F (some s.threads.length)
      { s with threads := s.threads ++ [{ request := k, state := G.program serve k }] } t seat := by
  constructor
  · exact hm.world
  · exact hm.shadow.mono (fun _ asked => asked.arrive _) fun _ _ => id
  · intro i x hx hnone
    rcases getElem?_concat_cases hx with hx | ⟨rfl, rfl⟩
    · obtain ⟨p, hstate, hobeys, hlate⟩ := hm.front i x hx hnone
      exact ⟨p, hstate, hobeys, fun q hq => nomatch (hlate q hq).1⟩
    · exact ⟨G.front k, rfl, hfresh.symm ▸ hfront, fun q hq => ⟨rfl, rfl⟩⟩
  · intro i x j hx hj
    rcases getElem?_concat_cases hx with hx | ⟨rfl, rfl⟩
    · exact hm.inside i x j hx hj
    · exact absurd (hm.seated _ j hj).1 (Nat.lt_irrefl _)
  · intro i j hj
    obtain ⟨hlt, hlt'⟩ := hm.seated i j hj
    exact ⟨by simp; omega, hlt'⟩
  · exact hm.apart
  · exact hm.filled

/-- A statement of the front changes nothing, but the request may then be due. -/
theorem Gate.Mirror.run_front {i : Nat} {k : K} {c : C} {f : Except ε (R c) → Prog C R ε β} {o : O}
    (hm : G.Mirror serve F none s t seat)
    (hanswers : ∀ o c w, F.answers c (exec o c w).1)
    (hlooks : ∀ k past c, F.issues k past c → ∀ (o : O) w, (exec o c w).2 = w)
    (hx : s.threads[i]? = some { request := k, state := .stmt c f }) (hseat : seat i = none) :
    G.Mirror serve F (some i) (s.ran i k c f (exec o c s.world)) t seat := by
  obtain ⟨p, hstate, hobeys, hlate⟩ := hm.front i _ hx hseat
  have hstate : p.bind (G.proceed serve k) = .stmt c f := hstate.symm
  obtain ⟨g, rfl, rfl⟩ := G.proceed_stmt hstate fun q hq => nomatch (hlate q hq).1
  have hsame : (exec o c s.world).2 = s.world := hlooks k _ c hobeys.1 o s.world
  have hown : ∀ i', i' ≠ i → own i' (s.ran i k c (fun r => (g r).bind (G.proceed serve k))
      (exec o c s.world)).history = own i' s.history := fun i' hi => by
    simp [Pool.ran, Ne.symm hi]
  have kept : Shadow (F.Asks (s.ran i k c (fun r => (g r).bind (G.proceed serve k))
      (exec o c s.world)).threads) seat s.history t.history :=
    hm.shadow.mono (fun _ asked => asked.set hx rfl) fun _ _ => id
  constructor
  · exact hm.world.trans hsame.symm
  · exact .front kept ⟨_, _, List.getElem?_set_self (List.getElem?_eq_some_iff.mp hx).1, hobeys.1⟩
      hsame
  · intro i' x hx' hnone
    rcases getElem?_set_cases hx' with ⟨rfl, rfl⟩ | ⟨hi, hx'⟩
    · refine ⟨g (exec o c s.world).1, rfl, ?_, fun q hq => ⟨rfl, rfl⟩⟩
      simpa [Pool.ran] using hobeys.2 _ (hanswers o c s.world)
    · obtain ⟨p, hstate, hobeys, hlate⟩ := hm.front i' x hx' hnone
      exact ⟨p, hstate, hown i' hi ▸ hobeys, fun q hq => nomatch (hlate q hq).1⟩
  · intro i' x j hx' hj
    rcases getElem?_set_cases hx' with ⟨rfl, rfl⟩ | ⟨hi, hx'⟩
    · cases hseat.symm.trans hj
    · rw [hown i' hi]
      exact hm.inside i' x j hx' hj
  · intro i' j hj
    simpa [Pool.ran] using hm.seated i' j hj
  · exact hm.apart
  · exact hm.filled

/-- A statement of the service is one of the request. -/
theorem Gate.Mirror.run_inside {i j : Nat} {k : K} {c : C} {f : Except ε (R c) → Prog C R ε β}
    {o : O} (hm : G.Mirror serve F none s t seat)
    (hx : s.threads[i]? = some { request := k, state := .stmt c f }) (hseat : seat i = some j) :
    ∃ t', Step serve exec t (.run j o) t' ∧
      G.Mirror serve F none (s.ran i k c f (exec o c s.world)) t' seat := by
  obtain ⟨⟨q, state, stopped⟩, past, hy, hbecomes, hown⟩ := hm.inside i _ j hx hseat
  have hstate : G.served k state = .stmt c f := hbecomes.state.symm
  obtain ⟨g, rfl, rfl⟩ := G.served_stmt hstate
  cases hbecomes.stopped
  have hworld := hm.world
  refine ⟨_, .run o hy, ?_⟩
  rw [hworld]
  have hj : ∀ i', i' ≠ i → ∀ j', seat i' = some j' → j' ≠ j := by
    rintro i' hi j' hj' rfl
    exact hi (hm.apart i' i _ hj' hseat)
  have hlt := (hm.seated i j hseat).2
  constructor
  · rfl
  · simp only [Pool.ran, hworld]
    exact Shadow.inside (hm.shadow.mono (fun _ asked => asked.set hx rfl) fun _ _ => id) hseat
  · intro i' x hx' hnone
    rcases getElem?_set_cases hx' with ⟨rfl, rfl⟩ | ⟨hi, hx'⟩
    · cases hnone.symm.trans hseat
    · obtain ⟨p, hstate, hobeys, hlate⟩ := hm.front i' x hx' hnone
      refine ⟨p, hstate, ?_, hlate⟩
      simpa [Pool.ran, Ne.symm hi] using hobeys
  · intro i' x j' hx' hj'
    rcases getElem?_set_cases hx' with ⟨rfl, rfl⟩ | ⟨hi, hx'⟩
    · cases hseat.symm.trans hj'
      refine ⟨_, past, List.getElem?_set_self hlt, ⟨rfl, rfl, hbecomes.admitted⟩, ?_⟩
      simp [Pool.ran, hown]
    · obtain ⟨y, past', hy', hbecomes', hown'⟩ := hm.inside i' x j' hx' hj'
      have hne := hj i' hi j' hj'
      refine ⟨y, past', ?_, hbecomes', ?_⟩
      · rw [← hy']
        exact List.getElem?_set_ne (Ne.symm hne)
      · simpa [Pool.ran, Ne.symm hi, Ne.symm hne] using hown'
  · intro i' j' hj'
    simpa [Pool.ran] using hm.seated i' j' hj'
  · exact hm.apart
  · intro j' hj'
    exact hm.filled j' (by simpa [Pool.ran] using hj')

theorem Gate.Mirror.stop {i : Nat} {x : Thread C R ε β K} (hm : G.Mirror serve F none s t seat)
    (hx : s.threads[i]? = some x) : ∃ t', (t' = t ∨ ∃ j, Step serve exec t (.stop j) t') ∧
      G.Mirror serve F none
        { s with threads := s.threads.set i { x with stopped := true } } t' seat := by
  have hseated : ∀ (u : Pool C R ε α Q W), u.threads.length = t.threads.length →
      ∀ i' j, seat i' = some j → i' < (s.threads.set i { x with stopped := true }).length ∧
        j < u.threads.length := by
    intro u hu i' j hj
    simpa [hu] using hm.seated i' j hj
  have hfront : ∀ i' y, (s.threads.set i { x with stopped := true })[i']? = some y →
      seat i' = none → ∃ p : Prog C R ε (Entrance β Q), y.state = p.bind (G.proceed serve y.request) ∧
        p.Obeys F.answers (F.issues y.request) (F.returns y.request) (own i' s.history) ∧
        ∀ q, p = .pure (.enters q) → none = some i' ∧ y.stopped = false := by
    intro i' y hy hnone
    rcases getElem?_set_cases hy with ⟨rfl, rfl⟩ | ⟨_, hy⟩
    · obtain ⟨p, hstate, hobeys, hlate⟩ := hm.front i' x hx hnone
      exact ⟨p, hstate, hobeys, fun q hq => nomatch (hlate q hq).1⟩
    · exact hm.front i' y hy hnone
  have hshadow : Shadow (F.Asks (s.threads.set i { x with stopped := true })) seat s.history
      t.history := hm.shadow.mono (fun _ asked => asked.set hx rfl) fun _ _ => id
  cases hseat : seat i with
  | none =>
    refine ⟨t, .inl rfl, hm.world, hshadow, hfront, fun i' y j hy hj => ?_, hseated t rfl,
      hm.apart, hm.filled⟩
    rcases getElem?_set_cases hy with ⟨rfl, rfl⟩ | ⟨_, hy⟩
    · cases hseat.symm.trans hj
    · exact hm.inside i' y j hy hj
  | some j =>
    obtain ⟨y, past, hy, hbecomes, hown⟩ := hm.inside i x j hx hseat
    refine ⟨_, .inr ⟨j, .stop hy⟩, hm.world, hshadow, hfront, fun i' x' j' hx' hj' => ?_,
      hseated _ (by simp), hm.apart, fun j' hj' => hm.filled j' (by simpa using hj')⟩
    rcases getElem?_set_cases hx' with ⟨rfl, rfl⟩ | ⟨hi, hx'⟩
    · cases hseat.symm.trans hj'
      exact ⟨_, past, List.getElem?_set_self (hm.seated i' j hseat).2,
        ⟨hbecomes.state, rfl, hbecomes.admitted⟩, hown⟩
    · obtain ⟨y', past', hy', hbecomes', hown'⟩ := hm.inside i' x' j' hx' hj'
      have hne : j ≠ j' := by
        rintro rfl
        exact hi (hm.apart i' i _ hj' hseat)
      exact ⟨y', past', by rw [← hy']; exact List.getElem?_set_ne hne, hbecomes', hown'⟩

/-- Whatever a run of calls does, a run of the requests that they become does too. -/
theorem Gate.mirrored (kept : F.Kept G.front exec)
    (hlooks : ∀ k past c, F.issues k past c → ∀ (o : O) w, (exec o c w).2 = w)
    (harrive : ∀ u q, ok' u (.arrive q)) (hstop : ∀ u j, ok' u (.stop j))
    (hrun : ∀ s t i j o, t.world = s.world → ok s (.run i o) → ok' t (.run j o))
    (h : Reach (G.program serve) exec ok { world := w } s) :
    ∃ t seat, Reach serve exec ok' { world := w } t ∧ G.Mirror serve F none s t seat := by
  induction h with
  | start =>
    exact ⟨{ world := w }, fun _ => none, .start, rfl, .nil, by simp, by simp, by simp, by simp,
      by simp⟩
  | next hr hok hstep ih =>
    obtain ⟨t, seat, ht, hm⟩ := ih
    cases hstep with
    | arrive k => exact (hm.arrive hr.own_arriving (kept.obeys k)).settle ht harrive
    | @run i k c f o thread =>
      cases hseat : seat i with
      | none => exact (hm.run_front kept.answers hlooks thread hseat).settle ht harrive
      | some j =>
        obtain ⟨t', hstep', hm'⟩ := hm.run_inside thread hseat
        exact ⟨t', seat, ht.next (hrun _ t i j o hm.world hok) hstep', hm'⟩
    | stop thread =>
      obtain ⟨t', hstep', hm'⟩ := hm.stop thread
      rcases hstep' with rfl | ⟨j, hstep'⟩
      · exact ⟨t', seat, ht, hm'⟩
      · exact ⟨t', seat, ht.next (hstop t j) hstep', hm'⟩

/-- Behind every request is a call, which the front let in. -/
theorem Gate.Mirror.origin (hm : G.Mirror serve F none s t seat) {j : Nat}
    {y : Thread C R ε α Q} (hy : t.threads[j]? = some y) : ∃ i x past, s.threads[i]? = some x ∧
      G.Becomes F x y past ∧ own i s.history = past ++ own j t.history := by
  obtain ⟨i, hseat⟩ := hm.filled j (List.getElem?_eq_some_iff.mp hy).1
  have hi := (hm.seated i j hseat).1
  obtain ⟨y', past, hy', hbecomes, hown⟩ := hm.inside i _ j (List.getElem?_eq_getElem hi) hseat
  cases hy.symm.trans hy'
  exact ⟨i, _, past, List.getElem?_eq_getElem hi, hbecomes, hown⟩

/-- A call is answered by the front, or by the service it was let in to. -/
theorem Gate.Mirror.answered (hm : G.Mirror serve F none s t seat) {i : Nat}
    {x : Thread C R ε β K} {b : β} (hx : s.threads[i]? = some x) (hr : x.result? = some (.ok b)) :
    ∃ past, past <+: own i s.history ∧ (F.returns x.request past (.ok (.answers b)) ∨
      ∃ j y a, seat i = some j ∧ t.threads[j]? = some y ∧ y.result? = some (.ok a) ∧
        b = G.reply x.request a ∧ F.returns x.request past (.ok (.enters y.request))) := by
  have hpure : x.state = .pure b := by
    unfold Thread.result? at hr
    split at hr
    next hs => cases hr; exact hs
    next => cases hr
    next => cases hr
  cases hseat : seat i with
  | none =>
    obtain ⟨p, hstate, hobeys, hlate⟩ := hm.front i x hx hseat
    rw [hpure] at hstate
    cases p with
    | pure entrance =>
      cases entrance with
      | answers b' => cases hstate; exact ⟨_, List.prefix_rfl, .inl hobeys⟩
      | enters q => exact nomatch (hlate q rfl).1
    | throw e => cases hstate
    | stmt c k => cases hstate
  | some j =>
    obtain ⟨⟨q, state, stopped⟩, past, hy, hbecomes, hown⟩ := hm.inside i x j hx hseat
    have hstate := hpure.symm.trans hbecomes.state
    cases state with
    | pure a =>
      cases hstate
      exact ⟨past, hown ▸ List.prefix_append _ _, .inr ⟨j, _, a, rfl, hy, rfl, rfl, hbecomes.admitted⟩⟩
    | throw e => cases hstate
    | stmt c k => cases hstate

end Steps

end Interleaved
