import TicketSystem.Lib.Walk

namespace Relational

section Follow

variable {ε π κ ι : Type} {items : π → List ι} {next : π → Option κ}
  {ask : Option κ → Except ε π} {take : Nat} {l : List ι}

/-- Ask for a page, and then for the one after each cursor that is given, as often as `fuel` at
most. -/
def follow (next : π → Option κ) (ask : Option κ → Except ε π) :
    Nat → Option κ → Option (Except ε (List π))
  | 0, _ => none
  | fuel + 1, cursor =>
    match ask cursor with
    | .error e => some (.error e)
    | .ok page =>
      match next page with
      | none => some (.ok [page])
      | some c => (follow next ask fuel (some c)).map fun r => r.map (page :: ·)

/-- The pages are the list, in pieces of `take` at most, and only the last names no next one. -/
structure PagesOf (items : π → List ι) (next : π → Option κ) (take : Nat) (l : List ι)
    (pages : List π) : Prop where
  whole : pages.flatMap items = l
  short : ∀ page ∈ pages, (items page).length ≤ take
  last : ∀ i page, pages[i]? = some page → (next page = none ↔ i + 1 = pages.length)

theorem PagesOf.single {page : π} (hshort : (items page).length ≤ take)
    (hnext : next page = none) : PagesOf items next take (items page) [page] where
  whole := by simp
  short := by simpa using hshort
  last i p hp := by
    cases i with
    | zero => cases hp; simp [hnext]
    | succ i => simp at hp

theorem PagesOf.cons {page : π} {pages : List π} (h : PagesOf items next take l pages)
    (hne : pages ≠ []) (hshort : (items page).length ≤ take) (hnext : next page ≠ none) :
    PagesOf items next take (items page ++ l) (page :: pages) where
  whole := by rw [List.flatMap_cons, h.whole]
  short := List.forall_mem_cons.mpr ⟨hshort, h.short⟩
  last i p hp := by
    cases i with
    | zero =>
      cases hp
      have hlength : pages.length ≠ 0 := by simpa using hne
      simp only [hnext, List.length_cons, false_iff]
      omega
    | succ i =>
      rw [h.last i p (by simpa using hp), List.length_cons]
      omega

/-- The page at a place of the list holds what follows, and names its last item when it is
full. -/
def Paginates (items : π → List ι) (next : π → Option κ) (ask : Option κ → Except ε π) (id : ι → κ)
    (take : Nat) (l : List ι) : Prop :=
  ∀ j ≤ l.length, ∃ page, ask ((l.take j).getLast?.map id) = .ok page ∧
    items page = (l.drop j).take take ∧
    next page = if (items page).length = take then (items page).getLast?.map id else none

theorem follow_from {id : ι → κ} (htake : 0 < take) (hask : Paginates items next ask id take l)
    (j : Nat) (hj : j ≤ l.length) : ∃ pages, pages ≠ [] ∧
      PagesOf items next take (l.drop j) pages ∧ ∀ n, l.length - j < n →
        follow next ask n ((l.take j).getLast?.map id) = some (.ok pages) := by
  -- on what is left of the list
  induction hk : l.length - j using Nat.strong_induction_on generalizing j with
  | _ k ih =>
    obtain ⟨page, hpage, hitems, hnext⟩ := hask j hj
    have hlength : (items page).length = min take (l.length - j) := by
      rw [hitems, List.length_take, List.length_drop]
    by_cases hfull : (items page).length = take
    · rw [if_pos hfull] at hnext
      have hlong : j + take ≤ l.length := by omega
      have hne : items page ≠ [] := List.ne_nil_of_length_pos (by omega)
      have hsplit : l.take (j + take) = l.take j ++ items page := by rw [List.take_add, hitems]
      have hlast : (l.take (j + take)).getLast? = (items page).getLast? := by
        rw [hsplit, List.getLast?_append_of_ne_nil _ hne]
      obtain ⟨pages, hpages, hof, hfollow⟩ := ih (l.length - (j + take)) (by omega) (j + take)
        hlong rfl
      have hcursor : next page = some (id ((items page).getLast hne)) := by
        rw [hnext, List.getLast?_eq_some_getLast hne, Option.map_some]
      refine ⟨page :: pages, by simp, ?_, fun n hn => ?_⟩
      · have hdrop : l.drop j = items page ++ l.drop (j + take) := by
          rw [hitems, ← List.drop_drop, List.take_append_drop]
        rw [hdrop]
        exact hof.cons hpages hfull.le (by simp [hcursor])
      · obtain ⟨n, rfl⟩ := Nat.exists_eq_succ_of_ne_zero (Nat.ne_zero_of_lt hn)
        have hrest := hfollow n (by omega)
        rw [hlast, ← hnext, hcursor] at hrest
        simp only [follow, hpage, hcursor, hrest, Option.map_some]
        rfl
    · rw [if_neg hfull] at hnext
      have hall : items page = l.drop j := by
        rw [hitems, List.take_of_length_le]
        rw [List.length_drop]
        omega
      refine ⟨[page], by simp, ?_, fun n hn => ?_⟩
      · rw [← hall]
        exact .single (by omega) hnext
      · obtain ⟨n, rfl⟩ := Nat.exists_eq_succ_of_ne_zero (Nat.ne_zero_of_lt hn)
        simp only [follow, hpage, hnext]

/-- Asked for often enough, all pages come. -/
theorem follow_pages {id : ι → κ} (htake : 0 < take) (hask : Paginates items next ask id take l) :
    ∃ pages, PagesOf items next take l pages ∧
      ∀ n, l.length < n → follow next ask n none = some (.ok pages) := by
  obtain ⟨pages, _, hof, hfollow⟩ := follow_from htake hask 0 (Nat.zero_le _)
  exact ⟨pages, by simpa using hof, fun n hn => by simpa using hfollow n (by omega)⟩

theorem follow_error {cursor : Option κ} {e : ε} (h : ask cursor = .error e) {n : Nat}
    (hn : 0 < n) : follow next ask n cursor = some (.error e) := by
  obtain ⟨n, rfl⟩ := Nat.exists_eq_succ_of_ne_zero (Nat.ne_zero_of_lt hn)
  simp only [follow, h]

end Follow

/-! ### Pages of a table that does not change -/

section Table

variable {ρ κ ι : Type} [LinearOrder κ] [DecidableEq ι] {key : ρ → κ} {id : ρ → ι}
  {le : ρ → ρ → Bool} {p : ρ → Bool} {rows : List ρ}

/-- In a sorted list, what is not before an item is what comes from its place on. -/
theorem filter_from {l : List ρ} (hle : ∀ a b, le a b = true ↔ key a ≤ key b)
    (hsorted : l.Pairwise fun a b => key a < key b) {i : Nat} {r : ρ} (hi : l[i]? = some r) :
    l.filter (le r) = l.drop i := by
  obtain ⟨hlt, hget⟩ := List.getElem?_eq_some_iff.mp hi
  have hsplit : l = l.take i ++ r :: l.drop (i + 1) := by
    rw [← hget, List.getElem_cons_drop, List.take_append_drop]
  have hpair := hsorted
  rw [hsplit, List.pairwise_append, List.pairwise_cons] at hpair
  obtain ⟨_, ⟨hafter, _⟩, hbefore⟩ := hpair
  have hfirst : (l.take i).filter (le r) = [] := by
    refine List.filter_eq_nil_iff.mpr fun x hx hr => ?_
    exact absurd ((hle r x).mp hr) (hbefore x hx r List.mem_cons_self).not_ge
  have hrest : (r :: l.drop (i + 1)).filter (le r) = r :: l.drop (i + 1) := by
    refine List.filter_eq_self.mpr fun x hx => (hle r x).mpr ?_
    rcases List.mem_cons.mp hx with rfl | hx
    · exact le_rfl
    · exact (hafter x hx).le
  calc l.filter (le r) = (l.take i ++ r :: l.drop (i + 1)).filter (le r) := by rw [← hsplit]
    _ = r :: l.drop (i + 1) := by rw [List.filter_append, hfirst, hrest, List.nil_append]
    _ = l.drop i := by rw [← hget, List.getElem_cons_drop]

/-- The page after the first `j` matching rows holds the next ones. -/
theorem findMany_drop (hle : ∀ a b, le a b = true ↔ key a ≤ key b)
    (hkey : ∀ a b, key a = key b → id a = id b) (unique : (rows.map id).Nodup) {j : Nat}
    {cursor : Option ι}
    (hcursor : cursor = (((rows.filter p).mergeSort le).take j).getLast?.map id)
    (hj : j ≤ ((rows.filter p).mergeSort le).length) (take : Nat) :
    findMany le p (cursor.map fun c r => id r == c) (if cursor.isSome then 1 else 0) take rows =
      (((rows.filter p).mergeSort le).drop j).take take := by
  have hids : ((rows.filter p).map id).Nodup := unique.sublist (List.filter_sublist.map id)
  have hkeys : ((rows.filter p).map key).Nodup :=
    List.pairwise_map.mpr ((List.pairwise_map.mp hids).imp fun hne hk => hne (hkey _ _ hk))
  have hsorted := sorted_by_key hle hkeys
  cases j with
  | zero =>
    rw [List.take_zero, List.getLast?_nil, Option.map_none] at hcursor
    subst hcursor
    rfl
  | succ i =>
    obtain ⟨r, hr⟩ : ∃ r, ((rows.filter p).mergeSort le)[i]? = some r :=
      ⟨_, List.getElem?_eq_getElem (by omega)⟩
    have hlast : (((rows.filter p).mergeSort le).take (i + 1)).getLast? = some r := by
      rw [List.getLast?_take, if_neg (Nat.succ_ne_zero i), Nat.add_sub_cancel, hr, Option.some_or]
    have hmem : r ∈ rows :=
      (List.mem_filter.mp (List.mem_mergeSort.mp (List.mem_of_getElem? hr))).1
    have hfind := find_named unique hmem
    rw [hlast, Option.map_some] at hcursor
    subst hcursor
    simp only [findMany, seek, Option.map_some, Option.isSome_some, if_true, hfind,
      filter_from hle hsorted hr, List.drop_drop]

end Table

end Relational
