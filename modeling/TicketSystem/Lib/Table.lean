import Mathlib.Data.List.Pairwise
import Mathlib.Data.List.Basic

namespace Relational

/-- Stored rows, oldest first. `clash a b` says that a unique index forbids
storing `a` and `b` together, so a violating table cannot be built. -/
structure Table (ρ : Type) (clash : ρ → ρ → Prop) where
  rows : List ρ
  unique : rows.Pairwise (fun a b => ¬ clash a b)

namespace Table

variable {ρ κ : Type} {clash : ρ → ρ → Prop}

theorem ext_rows {t t' : Table ρ clash} (h : t.rows = t'.rows) : t = t' := by
  cases t
  cases t'
  cases h
  rfl

def empty : Table ρ clash := ⟨[], List.Pairwise.nil⟩

def insert? [DecidableRel clash] (t : Table ρ clash) (r : ρ) : Option (Table ρ clash) :=
  if h : ∀ x ∈ t.rows, ¬ clash x r then
    some ⟨t.rows ++ [r], List.pairwise_append.mpr
      ⟨t.unique, List.pairwise_singleton _ _, by simpa using h⟩⟩
  else none

theorem insert?_rows [DecidableRel clash] {t t' : Table ρ clash} {r : ρ}
    (h : t.insert? r = some t') : t'.rows = t.rows ++ [r] := by
  unfold insert? at h
  split at h
  next => cases Option.some.inj h; rfl
  next => simp at h

theorem insert?_eq_none [DecidableRel clash] {t : Table ρ clash} {r : ρ} :
    t.insert? r = none ↔ ∃ x ∈ t.rows, clash x r := by
  unfold insert?
  split
  next h => simpa using h
  next h => simpa using h

theorem exists_insert? [DecidableRel clash] {t : Table ρ clash} {r : ρ}
    (h : ∀ x ∈ t.rows, ¬ clash x r) : ∃ t', t.insert? r = some t' := by
  cases hi : t.insert? r with
  | some t' => exact ⟨t', rfl⟩
  | none =>
    obtain ⟨x, hx, hc⟩ := insert?_eq_none.mp hi
    exact absurd hc (h x hx)

theorem not_clash_of_insert? [DecidableRel clash] {t t' : Table ρ clash} {r x : ρ}
    (h : t.insert? r = some t') (hx : x ∈ t.rows) : ¬ clash x r := by
  intro hc
  cases h.symm.trans (insert?_eq_none.mpr ⟨x, hx, hc⟩)

/-- Rewriting a row in place, for writes that no unique index can see. -/
structure Rewrite (clash : ρ → ρ → Prop) where
  run : ρ → ρ
  left : ∀ a b, clash (run a) b ↔ clash a b
  right : ∀ a b, clash a (run b) ↔ clash a b

def Rewrite.at (f : Rewrite clash) (p : ρ → Bool) (r : ρ) : ρ := if p r then f.run r else r

theorem Rewrite.at_clash (f : Rewrite clash) (p : ρ → Bool) (a b : ρ) :
    clash (f.at p a) (f.at p b) ↔ clash a b := by
  unfold Rewrite.at
  split <;> split <;> simp only [f.left, f.right]

/-- One atomic conditional update: the rows that satisfy `p` now are rewritten. -/
def updateMany (t : Table ρ clash) (p : ρ → Bool) (f : Rewrite clash) : Table ρ clash :=
  ⟨t.rows.map (f.at p), by
    rw [List.pairwise_map]
    exact t.unique.imp fun h => fun hc => h ((f.at_clash p _ _).mp hc)⟩

@[simp] theorem updateMany_rows (t : Table ρ clash) (p : ρ → Bool) (f : Rewrite clash) :
    (t.updateMany p f).rows = t.rows.map (f.at p) := rfl

def filter (t : Table ρ clash) (p : ρ → Bool) : Table ρ clash :=
  ⟨t.rows.filter p, t.unique.filter p⟩

def count (t : Table ρ clash) (p : ρ → Bool) : Nat := t.rows.countP p

def find? (t : Table ρ clash) (p : ρ → Bool) : Option ρ := t.rows.find? p

theorem find?_mem {t : Table ρ clash} {p : ρ → Bool} {r : ρ} (h : t.find? p = some r) :
    r ∈ t.rows := List.mem_of_find?_eq_some h

theorem find?_holds {t : Table ρ clash} {p : ρ → Bool} {r : ρ} (h : t.find? p = some r) :
    p r = true := List.find?_some h

theorem eq_of_clash [Std.Symm clash] {t : Table ρ clash} {a b : ρ}
    (ha : a ∈ t.rows) (hb : b ∈ t.rows) (h : clash a b) : a = b := by
  have : Std.Symm (fun x y => ¬ clash x y) := ⟨fun x y hxy hyx => hxy (symm hyx)⟩
  by_contra hne
  exact t.unique.forall ha hb hne h

section Key

variable [DecidableEq κ] (key : ρ → κ)

def lookup (t : Table ρ clash) (k : κ) : Option ρ := t.find? (fun r => key r == k)

variable {key}

theorem lookup_key {t : Table ρ clash} {k : κ} {r : ρ} (h : t.lookup key k = some r) :
    key r = k := by simpa using find?_holds h

theorem lookup_mem {t : Table ρ clash} {k : κ} {r : ρ} (h : t.lookup key k = some r) :
    r ∈ t.rows := find?_mem h

theorem lookup_eq_none {t : Table ρ clash} {k : κ} :
    t.lookup key k = none ↔ ∀ r ∈ t.rows, key r ≠ k := by
  simp [lookup, find?]

theorem lookup_of_mem [Std.Symm clash]
    (hkey : ∀ a b, key a = key b → clash a b) {t : Table ρ clash} {r : ρ} (h : r ∈ t.rows) :
    t.lookup key (key r) = some r := by
  cases hl : t.lookup key (key r) with
  | none => exact absurd rfl (lookup_eq_none.mp hl r h)
  | some x =>
    have hx := eq_of_clash (lookup_mem hl) h (hkey x r (lookup_key hl))
    rw [hx]

omit [DecidableEq κ] in
theorem nodup_keys (hkey : ∀ a b, key a = key b → clash a b) (t : Table ρ clash) :
    (t.rows.map key).Nodup :=
  List.pairwise_map.mpr (t.unique.imp fun h hk => h (hkey _ _ hk))

theorem lookup_insert? [DecidableRel clash] {t t' : Table ρ clash} {r : ρ}
    (h : t.insert? r = some t') (k : κ) :
    t'.lookup key k = (t.lookup key k).or (if key r = k then some r else none) := by
  simp only [lookup, find?, insert?_rows h, List.find?_append, List.find?_singleton, beq_iff_eq]

theorem lookup_prefix {t t' : Table ρ clash} (h : t.rows <+: t'.rows) {k : κ} {r : ρ}
    (hr : t.lookup key k = some r) : t'.lookup key k = some r := by
  obtain ⟨l, hl⟩ := h
  simp only [lookup, find?] at hr ⊢
  rw [← hl, List.find?_append, hr]
  rfl

theorem lookup_updateMany (t : Table ρ clash) (p : ρ → Bool) (f : Rewrite clash)
    (hf : ∀ r, key (f.run r) = key r) (k : κ) :
    (t.updateMany p f).lookup key k = (t.lookup key k).map (f.at p) := by
  have hat : ∀ r, key (f.at p r) = key r := by
    intro r
    unfold Rewrite.at
    split
    next => exact hf r
    next => rfl
  simp only [lookup, find?, updateMany_rows, List.find?_map, Function.comp_def, hat]

/-- With a key no two rows share, a guard that names the key matches at most one row. -/
theorem count_of_key (hkey : ∀ a b, key a = key b → clash a b) (t : Table ρ clash)
    {p : ρ → Bool} {k : κ} (hp : ∀ r, p r = true → key r = k) :
    t.count p = ((t.lookup key k).any p).toNat := by
  obtain ⟨rows, unique⟩ := t
  change rows.countP p = ((rows.find? (fun r => key r == k)).any p).toNat
  induction rows with
  | nil => rfl
  | cons r rows ih =>
    obtain ⟨hr, hrest⟩ := List.pairwise_cons.mp unique
    by_cases hk : key r = k
    · have hnone : rows.countP p = 0 := by
        rw [List.countP_eq_zero]
        intro x hx hpx
        exact hr x hx (hkey r x (hk.trans (hp x hpx).symm))
      rw [List.find?_cons_of_pos (by simpa using hk), List.countP_cons, hnone]
      cases hpr : p r <;> simp [hpr]
    · have hpr : ¬ p r = true := fun hpr => hk (hp r hpr)
      rw [List.countP_cons_of_neg hpr, List.find?_cons_of_neg (by simpa using hk)]
      exact ih hrest

end Key

end Table

end Relational
