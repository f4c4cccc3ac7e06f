import Mathlib.Data.List.Basic

namespace Relational

variable {ρ : Type}

/-- The rows a query starts at: all of them, or those at or after the row its cursor names,
which need not match the query. -/
def seek (le : ρ → ρ → Bool) (rows : List ρ) (cursor : Option (ρ → Bool)) (sorted : List ρ) :
    List ρ :=
  match cursor with
  | none => sorted
  | some names =>
    match rows.find? names with
    | none => []
    | some row => sorted.filter (le row)

/-- The rows that match, in the order `le`, from the cursor on, without the first `skip`, and
`take` of them at most. -/
def findMany (le : ρ → ρ → Bool) (p : ρ → Bool) (cursor : Option (ρ → Bool)) (skip take : Nat)
    (rows : List ρ) : List ρ :=
  ((seek le rows cursor ((rows.filter p).mergeSort le)).drop skip).take take

/-- An order in which rows can be sorted. -/
structure Sorts (le : ρ → ρ → Bool) : Prop where
  trans : ∀ a b c, le a b = true → le b c = true → le a c = true
  total : ∀ a b, (le a b || le b a) = true

section Pages

variable {le : ρ → ρ → Bool} {p : ρ → Bool} {rows rows' : List ρ}

/-- Matching rows that no two share a place in the order are sorted in one way. -/
theorem sorted_eq_of_perm (sorts : Sorts le) (hp : (rows.filter p).Perm (rows'.filter p))
    (anti : ∀ a ∈ rows.filter p, ∀ b ∈ rows.filter p, le a b = true → le b a = true → a = b) :
    (rows.filter p).mergeSort le = (rows'.filter p).mergeSort le := by
  have hperm : ((rows.filter p).mergeSort le).Perm ((rows'.filter p).mergeSort le) :=
    ((List.mergeSort_perm _ _).trans hp).trans (List.mergeSort_perm _ _).symm
  have hanti : ∀ a b, a ∈ (rows.filter p).mergeSort le → b ∈ (rows'.filter p).mergeSort le →
      le a b = true → le b a = true → a = b := fun a b ha hb =>
    anti a (List.mem_mergeSort.mp ha) b (hp.mem_iff.mpr (List.mem_mergeSort.mp hb))
  exact hperm.eq_of_pairwise hanti (List.pairwise_mergeSort sorts.trans sorts.total _)
    (List.pairwise_mergeSort sorts.trans sorts.total _)

theorem findMany_congr (sorts : Sorts le) (hp : (rows.filter p).Perm (rows'.filter p))
    (anti : ∀ a ∈ rows.filter p, ∀ b ∈ rows.filter p, le a b = true → le b a = true → a = b)
    {cursor : Option (ρ → Bool)} (hc : ∀ names, cursor = some names →
      rows.find? names = rows'.find? names) (skip take : Nat) :
    findMany le p cursor skip take rows = findMany le p cursor skip take rows' := by
  have hsorted := sorted_eq_of_perm sorts hp anti
  cases cursor with
  | none => simp only [findMany, seek, hsorted]
  | some names => simp only [findMany, seek, hsorted, hc names rfl]

/-- Matching rows that are stored in order need no sorting. -/
theorem findMany_of_sorted (hsorted : (rows.filter p).Pairwise fun a b => le a b = true)
    (cursor : Option (ρ → Bool)) (skip take : Nat) :
    findMany le p cursor skip take rows =
      ((seek le rows cursor (rows.filter p)).drop skip).take take := by
  rw [findMany, List.mergeSort_of_pairwise hsorted]

theorem findMany_missing {names : ρ → Bool} (hc : rows.find? names = none) (skip take : Nat) :
    findMany le p (some names) skip take rows = [] := by
  simp [findMany, seek, hc]

/-- After the first of at most one matching row there is none. -/
theorem findMany_short {names : ρ → Bool} (hshort : rows.countP p < 2) (take : Nat) :
    findMany le p (some names) 1 take rows = [] := by
  have hsorted : ((rows.filter p).mergeSort le).length < 2 := by
    rw [List.length_mergeSort, ← List.countP_eq_length_filter]
    exact hshort
  have hseek : (seek le rows (some names) ((rows.filter p).mergeSort le)).length < 2 := by
    unfold seek
    dsimp only
    split
    next => simp
    next => exact Nat.lt_of_le_of_lt (List.length_filter_le _ _) hsorted
  have hdrop : (seek le rows (some names) ((rows.filter p).mergeSort le)).drop 1 = [] :=
    List.drop_eq_nil_of_le (by omega)
  rw [findMany, hdrop, List.take_nil]

/-- From a cursor row before all matching ones, all but the first of them follow. -/
theorem findMany_before {names : ρ → Bool} (row : ρ) (hc : rows.find? names = some row)
    (hbefore : ∀ x ∈ rows, p x = true → le row x = true) (skip take : Nat) :
    (findMany le p (some names) skip take rows).length = min take (rows.countP p - skip) := by
  have hall : ((rows.filter p).mergeSort le).filter (le row) = (rows.filter p).mergeSort le := by
    refine List.filter_eq_self.mpr fun x hx => ?_
    obtain ⟨hx, hp⟩ := List.mem_filter.mp (List.mem_mergeSort.mp hx)
    exact hbefore x hx hp
  simp only [findMany, seek, hc, hall, List.length_take, List.length_drop, List.length_mergeSort,
    List.countP_eq_length_filter]

/-- A cursor that names none of the rows gives an empty page; beside a row that it names, before
the matching ones, it gives the others. -/
theorem findMany_tells {names : ρ → Bool} (row : ρ) (hrow : names row = true)
    (hp : p row = false) (hno : rows.find? names = none)
    (hbefore : ∀ x ∈ rows, p x = true → le row x = true) (hmany : 2 ≤ rows.countP p) {take : Nat}
    (htake : 1 ≤ take) : (findMany le p (some names) 1 take rows).length ≠
      (findMany le p (some names) 1 take (rows ++ [row])).length := by
  have hfind : (rows ++ [row]).find? names = some row := by
    simp [List.find?_append, hno, hrow]
  have hcount : (rows ++ [row]).countP p = rows.countP p := by simp [hp]
  have hafter : ∀ x ∈ rows ++ [row], p x = true → le row x = true := by
    intro x hx hpx
    rcases List.mem_append.mp hx with hx | hx
    · exact hbefore x hx hpx
    · cases List.mem_singleton.mp hx
      cases hp.symm.trans hpx
  rw [findMany_missing hno, findMany_before row hfind hafter, hcount, List.length_nil]
  omega

end Pages

end Relational
