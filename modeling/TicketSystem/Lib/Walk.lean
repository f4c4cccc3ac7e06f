import Mathlib.Data.List.Chain
import Mathlib.Data.List.Nodup
import Mathlib.Data.List.Perm.Subperm
import Mathlib.Order.WithBot
import TicketSystem.Lib.Page

namespace Relational

variable {ρ κ ι : Type}

/-- Among rows with distinct keys, one has a key or none does. -/
theorem countP_eq_count [DecidableEq κ] (key : ρ → κ) (rows : List ρ) (k : κ) :
    rows.countP (fun x => key x == k) = (rows.map key).count k := by
  rw [List.count, List.countP_map]
  rfl

theorem countP_key [DecidableEq κ] {key : ρ → κ} {rows : List ρ} (hnodup : (rows.map key).Nodup)
    (k : κ) : rows.countP (fun x => key x == k) = 1 ↔ ∃ x ∈ rows, key x = k := by
  rw [countP_eq_count, hnodup.count]
  simp

section Turns

variable [LinearOrder κ] (key : ρ → κ)

/-- One page of a walk: the place it starts after, the rows that matched then, and those it
shows. -/
structure Turn (ρ κ : Type) where
  after : WithBot κ
  matched : List ρ
  items : List ρ

/-- The row of the cursor matches no more, and the first one after it is skipped in its place. -/
def Turn.Skips (t : Turn ρ κ) (r : ρ) : Prop :=
  (∃ c : κ, t.after = c ∧ ∀ x ∈ t.matched, key x ≠ c) ∧ r ∈ t.matched ∧ t.after < key r ∧
    ∀ x ∈ t.matched, t.after < key x → key r ≤ key x

/-- The page goes on from where it starts until past `k`. -/
def Turn.Passes (take : Nat) (t : Turn ρ κ) (k : κ) : Prop :=
  t.after < k ∧ (t.items.length = take → ∀ x, t.items.getLast? = some x → k ≤ key x)

/-- The page shows, in order, the first `take` rows after its start, but for a skipped one. -/
structure IsPage (take : Nat) (t : Turn ρ κ) : Prop where
  mem : ∀ r ∈ t.items, r ∈ t.matched ∧ t.after < key r
  sorted : t.items.Pairwise fun a b => key a < key b
  unskipped : ∀ r ∈ t.items, ¬ t.Skips key r
  shown : ∀ r ∈ t.matched, t.after < key r → ¬ t.Skips key r →
    r ∈ t.items ∨ t.items.length = take ∧ ∀ x ∈ t.items, key x < key r

/-- A full page is followed by one that starts after its last row. -/
def Turn.Follows (take : Nat) (t t' : Turn ρ κ) : Prop :=
  t.items.length = take ∧ ∃ r, t.items.getLast? = some r ∧ t'.after = key r

structure IsWalk (take : Nat) (ts : List (Turn ρ κ)) : Prop where
  pages : ∀ t ∈ ts, IsPage key take t
  chained : ts.IsChain (Turn.Follows key take)

variable {key} {take : Nat}

theorem isPage_take {after : WithBot κ} {matched sorted : List ρ}
    (hsorted : sorted.Pairwise fun a b => key a < key b)
    (hmem : ∀ r, r ∈ sorted ↔ r ∈ matched ∧ after < key r ∧
      ¬ Turn.Skips key ⟨after, matched, sorted.take take⟩ r) :
    IsPage key take ⟨after, matched, sorted.take take⟩ where
  mem r hr := by
    obtain ⟨hm, ha, _⟩ := (hmem r).mp (List.mem_of_mem_take hr)
    exact ⟨hm, ha⟩
  sorted := hsorted.sublist (List.take_sublist _ _)
  unskipped r hr := ((hmem r).mp (List.mem_of_mem_take hr)).2.2
  shown r hm ha hs := by
    have hr : r ∈ sorted.take take ++ sorted.drop take := by
      rw [List.take_append_drop]
      exact (hmem r).mpr ⟨hm, ha, hs⟩
    rcases List.mem_append.mp hr with hr | hr
    · exact .inl hr
    · have hlong : take < sorted.length := by
        by_contra hno
        rw [List.drop_eq_nil_of_le (by omega)] at hr
        cases hr
      have hsplit : (sorted.take take ++ sorted.drop take).Pairwise fun a b => key a < key b := by
        rwa [List.take_append_drop]
      refine .inr ⟨by simp only [List.length_take]; omega, fun x hx => ?_⟩
      exact (List.pairwise_append.mp hsplit).2.2 x hx r hr

/-- In order, what follows the first of the rows at or after `c` is what comes after `c`, unless
that first one does so itself. -/
theorem sorted_drop_one {c : κ} {after : List ρ} (hsorted : after.Pairwise fun a b => key a < key b)
    (hle : ∀ r ∈ after, c ≤ key r) (r : ρ) :
    r ∈ after.drop 1 ↔ r ∈ after ∧ c < key r ∧
      ¬ ((∀ x ∈ after, key x ≠ c) ∧ ∀ x ∈ after, c < key x → key r ≤ key x) := by
  cases after with
  | nil => simp
  | cons a rest =>
    obtain ⟨hfirst, _⟩ := List.pairwise_cons.mp hsorted
    have hca := hle a List.mem_cons_self
    constructor
    · intro hr
      have har := hfirst r hr
      refine ⟨List.mem_cons_of_mem _ hr, lt_of_le_of_lt hca har, fun ⟨hno, hleast⟩ => ?_⟩
      have hlt : c < key a := lt_of_le_of_ne hca fun h => hno a List.mem_cons_self h.symm
      exact absurd (hleast a List.mem_cons_self hlt) (not_le.mpr har)
    · rintro ⟨hr, hcr, hskip⟩
      rcases List.mem_cons.mp hr with rfl | hr
      · refine absurd ⟨fun x hx => ?_, fun x hx _ => ?_⟩ hskip
        · rcases List.mem_cons.mp hx with rfl | hx
          · exact hcr.ne'
          · exact (hcr.trans (hfirst x hx)).ne'
        · rcases List.mem_cons.mp hx with rfl | hx
          · exact le_refl _
          · exact (hfirst x hx).le
      · exact hr

section Queries

variable {le : ρ → ρ → Bool} {p : ρ → Bool} {rows : List ρ}

theorem sorted_by_key (hle : ∀ a b, le a b = true ↔ key a ≤ key b)
    (unique : ((rows.filter p).map key).Nodup) :
    ((rows.filter p).mergeSort le).Pairwise fun a b => key a < key b := by
  have sorts : Sorts le :=
    ⟨fun a b c hab hbc => (hle a c).mpr (((hle a b).mp hab).trans ((hle b c).mp hbc)),
      fun a b => by simpa [Bool.or_eq_true, hle] using le_total (key a) (key b)⟩
  have hsorted := List.pairwise_mergeSort sorts.trans sorts.total (rows.filter p)
  have hnodup : (((rows.filter p).mergeSort le).map key).Nodup :=
    ((List.mergeSort_perm _ _).map key).nodup_iff.mpr unique
  refine (hsorted.and (List.pairwise_map.mp hnodup)).imp fun h => ?_
  exact lt_of_le_of_ne ((hle _ _).mp h.1) h.2

theorem findMany_first (hle : ∀ a b, le a b = true ↔ key a ≤ key b)
    (unique : ((rows.filter p).map key).Nodup) :
    IsPage key take ⟨⊥, rows.filter p, findMany le p none 0 take rows⟩ := by
  refine isPage_take (sorted_by_key hle unique) fun r => ?_
  have hno : ¬ Turn.Skips key ⟨⊥, rows.filter p, findMany le p none 0 take rows⟩ r := by
    rintro ⟨⟨c, hc, _⟩, _⟩
    exact WithBot.bot_ne_coe hc
  rw [List.drop_zero, seek, List.mem_mergeSort]
  exact ⟨fun hr => ⟨hr, WithBot.bot_lt_coe _, hno⟩, fun h => h.1⟩

theorem findMany_after (hle : ∀ a b, le a b = true ↔ key a ≤ key b)
    (unique : ((rows.filter p).map key).Nodup) {names : ρ → Bool} {c : ρ}
    (hc : rows.find? names = some c) :
    IsPage key take ⟨key c, rows.filter p, findMany le p (some names) 1 take rows⟩ := by
  have hfound : findMany le p (some names) 1 take rows =
      ((((rows.filter p).mergeSort le).filter (le c)).drop 1).take take := by
    simp only [findMany, seek, hc]
  have hsorted := (sorted_by_key hle unique).filter (le c)
  have hmem : ∀ x, x ∈ ((rows.filter p).mergeSort le).filter (le c) ↔
      x ∈ rows.filter p ∧ key c ≤ key x := by
    intro x
    rw [List.mem_filter, List.mem_mergeSort, hle]
  rw [hfound]
  refine isPage_take (hsorted.sublist (List.drop_sublist _ _)) fun r => ?_
  rw [sorted_drop_one hsorted (fun x hx => ((hmem x).mp hx).2)]
  simp only [hmem, Turn.Skips, WithBot.coe_lt_coe, WithBot.coe_inj]
  constructor
  · rintro ⟨⟨hr, _⟩, hcr, hskip⟩
    refine ⟨hr, hcr, ?_⟩
    rintro ⟨⟨d, hd, hno⟩, _, _, hleast⟩
    refine hskip ⟨fun x hx hk => ?_, fun x hx => ?_⟩
    · exact hno x hx.1 (hk.trans hd)
    · exact hleast x hx.1
  · rintro ⟨hr, hcr, hskip⟩
    refine ⟨⟨hr, hcr.le⟩, hcr, ?_⟩
    rintro ⟨hno, hleast⟩
    refine hskip ⟨⟨key c, rfl, fun x hx hk => ?_⟩, hr, hcr, fun x hx hlt => ?_⟩
    · exact hno x ⟨hx, hk.ge⟩ hk
    · exact hleast x ⟨hx, hlt.le⟩ hlt

end Queries

theorem IsPage.le_last {t : Turn ρ κ} (h : IsPage key take t) {r x : ρ}
    (hlast : t.items.getLast? = some r) (hx : x ∈ t.items) : key x ≤ key r := by
  obtain ⟨l, hl⟩ := List.getLast?_eq_some_iff.mp hlast
  have hsorted := h.sorted
  rw [hl] at hx hsorted
  rcases List.mem_append.mp hx with hx | hx
  · exact ((List.pairwise_append.mp hsorted).2.2 x hx r (List.mem_singleton_self r)).le
  · rw [List.mem_singleton.mp hx]

/-- A later page starts where an earlier one has ended. -/
structure Turn.Before (key : ρ → κ) (take : Nat) (t t' : Turn ρ κ) : Prop where
  after : t.after < t'.after
  items : ∀ x ∈ t.items, (key x : WithBot κ) ≤ t'.after
  passed : ∀ k : κ, t.Passes key take k → (k : WithBot κ) ≤ t'.after
  passes : ∀ k : κ, t'.after < k → ¬ t.Passes key take k

theorem Turn.Follows.before {t t' : Turn ρ κ} (page : IsPage key take t)
    (h : t.Follows key take t') : t.Before key take t' := by
  obtain ⟨hfull, r, hlast, hafter⟩ := h
  have hmem := (page.mem r (List.mem_of_getLast? hlast)).2
  refine ⟨hafter ▸ hmem, fun x hx => ?_, fun k hk => ?_, fun k hk hpass => ?_⟩
  · exact hafter ▸ WithBot.coe_le_coe.mpr (page.le_last hlast hx)
  · exact hafter ▸ WithBot.coe_le_coe.mpr (hk.2 hfull r hlast)
  · rw [hafter] at hk
    exact absurd (hpass.2 hfull r hlast) (not_le.mpr (WithBot.coe_lt_coe.mp hk))

theorem Turn.Before.trans {t u v : Turn ρ κ} (h : t.Before key take u)
    (h' : u.Before key take v) : t.Before key take v where
  after := h.after.trans h'.after
  items x hx := (h.items x hx).trans h'.after.le
  passed k hk := (h.passed k hk).trans h'.after.le
  passes k hk := h.passes k (h'.after.trans hk)

namespace IsWalk

variable {t t' : Turn ρ κ} {ts : List (Turn ρ κ)}

theorem tail (h : IsWalk key take (t :: ts)) : IsWalk key take ts :=
  ⟨fun u hu => h.pages u (List.mem_cons_of_mem _ hu), h.chained.tail⟩

theorem before (h : IsWalk key take ts) : ts.Pairwise (Turn.Before key take) := by
  induction ts with
  | nil => exact .nil
  | cons t ts ih =>
    refine List.pairwise_cons.mpr ⟨fun u hu => ?_, ih h.tail⟩
    cases ts with
    | nil => cases hu
    | cons v ts =>
      have hv := (List.isChain_cons_cons.mp h.chained).1.before (h.pages t List.mem_cons_self)
      rcases List.mem_cons.mp hu with rfl | hu
      · exact hv
      · exact hv.trans ((List.pairwise_cons.mp (ih h.tail)).1 u hu)

/-- The pages of a walk, one after the other, are in strict order. -/
theorem sorted (h : IsWalk key take ts) :
    (ts.flatMap Turn.items).Pairwise fun a b => key a < key b := by
  refine List.pairwise_flatMap.mpr ⟨fun t ht => (h.pages t ht).sorted, ?_⟩
  refine h.before.imp_of_mem fun {t u} _ hu hbefore x hx y hy => ?_
  have hy := ((h.pages u hu).mem y hy).2
  exact WithBot.coe_lt_coe.mp ((hbefore.items x hx).trans_lt hy)

theorem nodup (h : IsWalk key take ts) : ((ts.flatMap Turn.items).map key).Nodup :=
  List.pairwise_map.mpr (h.sorted.imp fun hab => hab.ne)

/-- All pages are full, if the last one is. -/
theorem full (h : IsWalk key take ts)
    (hlast : ∀ t, ts.getLast? = some t → t.items.length = take) :
    (ts.flatMap Turn.items).length = ts.length * take := by
  induction ts with
  | nil => simp
  | cons t ts ih =>
    have hfirst : t.items.length = take := by
      cases ts with
      | nil => exact hlast t rfl
      | cons v ts => exact (List.isChain_cons_cons.mp h.chained).1.1
    have hrest := ih h.tail fun u hu => hlast u (by
      cases ts with
      | nil => cases hu
      | cons v ts => exact hu)
    rw [List.flatMap_cons, List.length_append, hfirst, hrest, List.length_cons, Nat.add_mul]
    omega

/-- A walk that has ended has passed every place from its start on. -/
theorem passes (h : IsWalk key take ts) {k : κ} (hstart : ∃ t, ts.head? = some t ∧ t.after < k)
    (hend : ∀ t, ts.getLast? = some t → t.items.length ≠ take) : ∃ t ∈ ts, t.Passes key take k := by
  induction ts with
  | nil => simp at hstart
  | cons t ts ih =>
    obtain ⟨u, hu, hk⟩ := hstart
    cases Option.some.inj hu
    by_cases hpass : t.Passes key take k
    · exact ⟨t, List.mem_cons_self, hpass⟩
    · cases ts with
      | nil => exact absurd ⟨hk, fun hfull => absurd hfull (hend t rfl)⟩ hpass
      | cons v ts =>
        obtain ⟨hfull, r, hlast, hafter⟩ := (List.isChain_cons_cons.mp h.chained).1
        have hbeyond : key r < k := by
          by_contra hno
          refine hpass ⟨hk, fun _ x hx => ?_⟩
          cases hlast.symm.trans hx
          exact not_lt.mp hno
        obtain ⟨u, hu, hp⟩ := ih h.tail
          ⟨v, rfl, hafter ▸ WithBot.coe_lt_coe.mpr hbeyond⟩ fun u hu => hend u hu
        exact ⟨u, List.mem_cons_of_mem _ hu, hp⟩

theorem passes_unique (h : IsWalk key take ts) {k : κ} (ht : t ∈ ts) (ht' : t' ∈ ts)
    (hp : t.Passes key take k) (hp' : t'.Passes key take k) : t = t' := by
  by_contra hne
  have hall : ts.Pairwise fun u v => ¬ (u.Passes key take k ∧ v.Passes key take k) := by
    refine h.before.imp fun hb => ?_
    rintro ⟨hu, hv⟩
    exact hb.passes k hv.1 hu
  have : Std.Symm fun u v : Turn ρ κ => ¬ (u.Passes key take k ∧ v.Passes key take k) :=
    ⟨fun _ _ hno hboth => hno hboth.symm⟩
  exact hall.forall ht ht' hne ⟨hp, hp'⟩

end IsWalk

theorem Turn.Skips.of_key {t : Turn ρ κ} {x y : ρ} (h : t.Skips key x) (hy : y ∈ t.matched)
    (hk : key y = key x) : t.Skips key y := by
  obtain ⟨hcursor, _, hafter, hleast⟩ := h
  exact ⟨hcursor, hy, hk ▸ hafter, hk ▸ hleast⟩

theorem IsPage.passes_item {t : Turn ρ κ} (h : IsPage key take t) {x : ρ} (hx : x ∈ t.items) :
    t.Passes key take (key x) :=
  ⟨(h.mem x hx).2, fun _ _ hlast => h.le_last hlast hx⟩

theorem IsPage.passes_skipped {t : Turn ρ κ} (h : IsPage key take t) {x : ρ}
    (hx : t.Skips key x) : t.Passes key take (key x) := by
  obtain ⟨_, _, hafter, hleast⟩ := hx
  refine ⟨hafter, fun _ r hr => ?_⟩
  obtain ⟨hm, ha⟩ := h.mem r (List.mem_of_getLast? hr)
  exact hleast r hm ha

/-- On the page that passes its place, a row is shown if it matches and is not skipped. -/
theorem IsPage.shows {t : Turn ρ κ} (h : IsPage key take t) (htake : 0 < take) {x : ρ}
    (hpass : t.Passes key take (key x)) (hx : x ∈ t.matched) (hno : ¬ t.Skips key x) :
    x ∈ t.items := by
  rcases h.shown x hx hpass.1 hno with hitem | ⟨hfull, hbefore⟩
  · exact hitem
  · obtain ⟨r, hr⟩ := List.exists_mem_of_length_pos (hfull ▸ htake : 0 < t.items.length)
    have hne : t.items ≠ [] := List.ne_nil_of_mem hr
    have hlast := hpass.2 hfull _ (List.getLast?_eq_some_getLast hne)
    exact absurd (hbefore _ (List.getLast_mem hne)) (not_lt.mpr hlast)

namespace IsWalk

variable {t : Turn ρ κ} {ts : List (Turn ρ κ)} {k : κ}

/-- Whether a place is shown is decided on the one page that passes it. -/
theorem shown_iff (h : IsWalk key take ts) (htake : 0 < take) (ht : t ∈ ts)
    (hpass : t.Passes key take k) : (∃ x ∈ ts.flatMap Turn.items, key x = k) ↔
      ∃ x ∈ t.matched, key x = k ∧ ¬ t.Skips key x := by
  constructor
  · rintro ⟨x, hx, rfl⟩
    obtain ⟨u, hu, hx⟩ := List.mem_flatMap.mp hx
    have page := h.pages u hu
    cases h.passes_unique ht hu hpass (page.passes_item hx)
    exact ⟨x, (page.mem x hx).1, rfl, page.unskipped x hx⟩
  · rintro ⟨x, hx, rfl, hno⟩
    exact ⟨x, List.mem_flatMap.mpr ⟨t, ht, (h.pages t ht).shows htake hpass hx hno⟩, rfl⟩

/-- A place that matches on every page is shown exactly when no page skips it. -/
theorem kept_shown_iff (h : IsWalk key take ts) (htake : 0 < take)
    (hstart : ∃ t, ts.head? = some t ∧ t.after < k)
    (hend : ∀ t, ts.getLast? = some t → t.items.length ≠ take)
    (hkept : ∀ t ∈ ts, ∃ x ∈ t.matched, key x = k) :
    (∃ x ∈ ts.flatMap Turn.items, key x = k) ↔ ∀ t ∈ ts, ∀ x, t.Skips key x → key x ≠ k := by
  obtain ⟨t, ht, hpass⟩ := h.passes hstart hend
  rw [h.shown_iff htake ht hpass]
  constructor
  · rintro ⟨x, hx, rfl, hno⟩ u hu y hy hk
    have hsame := h.passes_unique ht hu hpass (hk ▸ (h.pages u hu).passes_skipped hy)
    subst hsame
    exact hno (hy.of_key hx hk.symm)
  · intro hno
    obtain ⟨x, hx, hk⟩ := hkept t ht
    exact ⟨x, hx, hk, fun hskip => hno t ht x hskip hk⟩

end IsWalk

end Turns

/-! ### Pages of a table that changes -/

section Tables

variable [LinearOrder κ] [DecidableEq ι]

/-- A page of the rows a table has then, after the one a cursor names. -/
structure Query (ρ ι : Type) where
  rows : List ρ
  matching : ρ → Bool
  cursor : Option ι
  items : List ρ

variable (key : ρ → κ) (id : ρ → ι)

def Query.named (q : Query ρ ι) : Option ρ := q.cursor.bind fun c => q.rows.find? fun r => id r == c

def Query.turn (q : Query ρ ι) : Turn ρ κ where
  after := (q.named id).elim ⊥ fun r => key r
  matched := q.rows.filter q.matching
  items := q.items

/-- The query was answered as the database answers it, from a table of distinct rows. -/
structure Query.Answered (le : ρ → ρ → Bool) (take : Nat) (q : Query ρ ι) : Prop where
  items : q.items = findMany le q.matching (q.cursor.map fun c r => id r == c)
    (if q.cursor.isSome then 1 else 0) take q.rows
  unique : (q.rows.map id).Nodup

/-- The next query has the last row of a full page for its cursor; rows stay in the table, in
their place. -/
structure Query.Next (take : Nat) (q q' : Query ρ ι) : Prop where
  full : q.items.length = take
  cursor : ∃ r, q.items.getLast? = some r ∧ q'.cursor = some (id r)
  keeps : ∀ r ∈ q.rows, ∃ r' ∈ q'.rows, id r' = id r ∧ key r' = key r

variable {key id} {le : ρ → ρ → Bool} {take : Nat}

theorem find_named {rows : List ρ} (unique : (rows.map id).Nodup) {r : ρ} (hr : r ∈ rows) :
    rows.find? (fun x => id x == id r) = some r := by
  cases hf : rows.find? (fun x => id x == id r) with
  | none => exact absurd (beq_self_eq_true (id r)) (List.find?_eq_none.mp hf r hr)
  | some x =>
    have hid : id x = id r := by simpa using List.find?_some hf
    rw [List.inj_on_of_nodup_map unique (List.mem_of_find?_eq_some hf) hr hid]

theorem Query.Answered.isPage {q : Query ρ ι} (hle : ∀ a b, le a b = true ↔ key a ≤ key b)
    (hkey : ∀ a b, key a = key b → id a = id b) (h : q.Answered id le take)
    (hcursor : q.cursor ≠ none → q.named id ≠ none) : IsPage key take (q.turn key id) := by
  have unique : ((q.rows.filter q.matching).map key).Nodup := by
    have hids : ((q.rows.filter q.matching).map id).Nodup :=
      h.unique.sublist (List.filter_sublist.map id)
    exact List.pairwise_map.mpr ((List.pairwise_map.mp hids).imp fun hne hk => hne (hkey _ _ hk))
  cases hc : q.cursor with
  | none =>
    have hturn : q.turn key id = ⟨⊥, q.rows.filter q.matching,
        findMany le q.matching none 0 take q.rows⟩ := by
      simp [Query.turn, Query.named, hc, h.items]
    exact hturn ▸ findMany_first hle unique
  | some c =>
    obtain ⟨r, hr⟩ := Option.ne_none_iff_exists'.mp (hcursor (by simp [hc]))
    have hfind : q.rows.find? (fun x => id x == c) = some r := by
      simpa [Query.named, hc] using hr
    have hturn : q.turn key id = ⟨key r, q.rows.filter q.matching,
        findMany le q.matching (some fun x => id x == c) 1 take q.rows⟩ := by
      simp [Query.turn, hr, hc, h.items]
    exact hturn ▸ findMany_after hle unique hfind

omit [LinearOrder κ] in
/-- A last row that stays is there for the next page, which goes on after it. -/
theorem Query.Next.named {q q' : Query ρ ι} (answered' : q'.Answered id le take)
    (mem : ∀ r ∈ q.items, r ∈ q.rows) (h : q.Next key id take q') :
    ∃ r r', q.items.getLast? = some r ∧ q'.named id = some r' ∧ key r' = key r := by
  obtain ⟨r, hlast, hcursor⟩ := h.cursor
  obtain ⟨r', hr', hid, hk⟩ := h.keeps r (mem r (List.mem_of_getLast? hlast))
  refine ⟨r, r', hlast, ?_, hk⟩
  rw [Query.named, hcursor, Option.bind_some, ← hid]
  exact find_named answered'.unique hr'

theorem Query.Answered.mem {q : Query ρ ι} (h : q.Answered id le take) :
    ∀ r ∈ q.items, r ∈ q.rows ∧ q.matching r = true := by
  intro r hr
  rw [h.items, findMany] at hr
  have hseek := List.mem_of_mem_drop (List.mem_of_mem_take hr)
  have hsorted : r ∈ (q.rows.filter q.matching).mergeSort le := by
    unfold seek at hseek
    split at hseek
    next => exact hseek
    next =>
      split at hseek
      next => cases hseek
      next => exact (List.mem_filter.mp hseek).1
  exact List.mem_filter.mp (List.mem_mergeSort.mp hsorted)

/-- The pages of such queries, the first without a cursor, are a walk. -/
theorem isWalk_of_queries (hle : ∀ a b, le a b = true ↔ key a ≤ key b)
    (hkey : ∀ a b, key a = key b → id a = id b) {qs : List (Query ρ ι)}
    (hanswered : ∀ q ∈ qs, q.Answered id le take) (hnext : qs.IsChain (Query.Next key id take))
    (hstart : ∀ q, qs.head? = some q → q.cursor ≠ none → q.named id ≠ none) :
    IsWalk key take (qs.map (Query.turn key id)) := by
  induction qs with
  | nil => exact ⟨by simp, .nil⟩
  | cons q qs ih =>
    have answered := hanswered q List.mem_cons_self
    have page := answered.isPage hle hkey (hstart q rfl)
    cases qs with
    | nil => exact ⟨by simpa using page, .singleton _⟩
    | cons q' qs =>
      obtain ⟨hn, hrest⟩ := List.isChain_cons_cons.mp hnext
      obtain ⟨r, r', hlast, hnamed, hk⟩ :=
        hn.named (hanswered q' (by simp)) fun r hr => (answered.mem r hr).1
      have hwalk := ih (fun x hx => hanswered x (List.mem_cons_of_mem _ hx)) hrest
        (by rintro x ⟨⟩ _; simp [hnamed])
      refine ⟨List.forall_mem_cons.mpr ⟨page, hwalk.pages⟩, ?_⟩
      refine List.isChain_cons_cons.mpr ⟨⟨hn.full, r, hlast, ?_⟩, hwalk.chained⟩
      simp only [Query.turn, hnamed, Option.elim_some, hk]

end Tables

end Relational
