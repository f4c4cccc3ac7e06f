import TicketSystem.QueueWalk
import TicketSystem.SlaPage

namespace TicketSystem

open Relational Interleaved

variable {ι : Type}

namespace Listing

variable {ρ κ : Type} [LinearOrder κ] {L : Listing ι ρ κ} {take : Nat} {p : World → ρ → Bool}

/-- The page starts before the row. -/
def StartsBefore (L : Listing ι ρ κ) (u : World) (f : Fetch ι) (r : ρ) : Prop :=
  ∀ x ∈ L.rows u, f.cursor = some (L.id x) → L.key x < L.key r

/-- The row comes after all that the page holds, and its next cursor tells of more. -/
def Leaves (L : Listing ι ρ κ) (u : World) (f : Fetch ι) (r : ρ) : Prop :=
  ∃ x ∈ L.rows u, f.page.nextCursor = some (L.id x) ∧ L.key x < L.key r

/-- Of the pages of a walk, the last one that starts before the row passes it. -/
structure Passes (L : Listing ι ρ κ) (s : Server) (fs : List (Fetch ι)) (f : Fetch ι) (r : ρ) :
    Prop where
  mem : f ∈ fs
  starts : L.StartsBefore (s.worldAt f.index) f r
  later : ∀ g ∈ fs, f.index < g.index → ¬ L.StartsBefore (s.worldAt g.index) g r

theorem Passes.of_key {s : Server} {fs : List (Fetch ι)} {f : Fetch ι} {r r' : ρ}
    (h : L.Passes s fs f r) (hk : L.key r' = L.key r) : L.Passes s fs f r' where
  mem := h.mem
  starts x hx hc := hk ▸ h.starts x hx hc
  later g hg hlater hs := h.later g hg hlater fun x hx hc => hk ▸ hs x hx hc

theorem turn_after {u : World} {q : ρ → Bool} {f : Fetch ι} {x : ρ} (hx : x ∈ L.rows u)
    (hc : f.cursor = some (L.id x)) : (L.turn u q f).after = L.key x := by
  have hfind : (L.rows u).find? (fun r => L.id r == L.id x) = some x := find_named (L.unique u) hx
  simp [turn, Query.turn, Query.named, query, hc, hfind]

section Walking

variable {s : Server} {asks : Option Uuid → Request → Prop} {answer : Page ι → Response}
  {fs : List (Fetch ι)} (walk : s.Walk asks answer fs)
  (keeps : ∀ i j, i ≤ j → L.Keeps (s.worldAt i) (s.worldAt j))
  (reads : ∀ f ∈ fs, L.Reads take (s.worldAt f.index) (p (s.worldAt f.index)) f)

include walk keeps reads

/-- The row a cursor names is there when its page is fetched. -/
theorem cursor_row {f : Fetch ι} (hf : f ∈ fs) {c : Uuid} (hc : f.cursor = some c) :
    ∃ x ∈ L.rows (s.worldAt f.index), L.id x = c := by
  obtain ⟨g, hg, hindex, y, hy, hid⟩ := cursor_held walk reads hf hc
  have hmem := ((reads g hg).answered.mem _ (List.mem_map_of_mem hy)).1
  obtain ⟨x, hx, hx', _⟩ := keeps _ _ hindex.le _ hmem
  exact ⟨x, hx, hx'.trans hid⟩

theorem startsBefore_iff {f : Fetch ι} (hf : f ∈ fs) {r : ρ} :
    L.StartsBefore (s.worldAt f.index) f r ↔
      (L.turn (s.worldAt f.index) (p (s.worldAt f.index)) f).after < L.key r := by
  cases hc : f.cursor with
  | none =>
    rw [turn_first hc]
    exact ⟨fun _ => WithBot.bot_lt_coe _, fun _ x _ hx => by cases hc.symm.trans hx⟩
  | some c =>
    obtain ⟨x, hx, rfl⟩ := cursor_row walk keeps reads hf hc
    rw [turn_after hx hc, WithBot.coe_lt_coe]
    refine ⟨fun h => h x hx hc, fun h y hy hy' => ?_⟩
    rwa [eq_of_id hy hx (Option.some.inj (hy'.symm.trans hc))]

omit keeps reads in
/-- Some page of a walk passes a row: its first page starts before every one. -/
theorem passes_exists (hne : fs ≠ []) (r : ρ) : ∃ f, L.Passes s fs f r := by
  classical
  let before (f : Fetch ι) : Bool := decide (L.StartsBefore (s.worldAt f.index) f r)
  obtain ⟨first, hfirst⟩ : ∃ f, fs.head? = some f := by
    cases fs with
    | nil => exact absurd rfl hne
    | cons f fs => exact ⟨f, rfl⟩
  have hmem : first ∈ fs.filter before := by
    refine List.mem_filter.mpr ⟨List.mem_of_head? hfirst, decide_eq_true fun x _ hx => ?_⟩
    cases (walk.first first hfirst).symm.trans hx
  have hlast := List.getLast?_eq_some_getLast (List.ne_nil_of_mem hmem)
  generalize (fs.filter before).getLast (List.ne_nil_of_mem hmem) = f at hlast
  obtain ⟨hf, hstarts⟩ := List.mem_filter.mp (List.mem_of_getLast? hlast)
  refine ⟨f, hf, of_decide_eq_true hstarts, fun g hg hlater hgs => ?_⟩
  have hsorted := walk.ordered.filter before
  obtain ⟨l, hl⟩ := List.getLast?_eq_some_iff.mp hlast
  have hgm : g ∈ fs.filter before := List.mem_filter.mpr ⟨hg, decide_eq_true hgs⟩
  rw [hl] at hsorted hgm
  rcases List.mem_append.mp hgm with hgm | hgm
  · have := (List.pairwise_append.mp hsorted).2.2 g hgm f (List.mem_singleton_self f)
    omega
  · rw [List.mem_singleton.mp hgm] at hlater
    omega

theorem item_passes {f : Fetch ι} (hf : f ∈ fs) {x : ι} (hx : x ∈ f.page.items) :
    L.Passes s fs f (L.row x) := by
  have pages := isWalk walk keeps reads
  have hitem : L.row x ∈ (L.turn (s.worldAt f.index) (p (s.worldAt f.index)) f).items :=
    List.mem_map_of_mem hx
  refine ⟨hf, (startsBefore_iff walk keeps reads hf).mpr
    ((pages.pages _ (List.mem_map_of_mem hf)).mem _ hitem).2, fun g hg hlater hgs => ?_⟩
  have hbefore : (L.turns s p fs).Pairwise (Turn.Before L.key take) := pages.before
  have hpair := (List.pairwise_map.mp hbefore).and walk.ordered
  obtain ⟨l, r, rfl⟩ := List.append_of_mem hf
  have hgr : g ∈ r := by
    rcases List.mem_append.mp hg with hgl | hgr
    · have := (List.pairwise_append.mp hpair).2.2 g hgl f List.mem_cons_self
      omega
    · rcases List.mem_cons.mp hgr with rfl | hgr
      · omega
      · exact hgr
  have hfg := (List.pairwise_cons.mp (List.pairwise_append.mp hpair).2.1).1 g hgr
  have hstart := (startsBefore_iff walk keeps reads hg).mp hgs
  exact absurd (hfg.1.items _ hitem) (not_le.mpr hstart)

omit keeps reads in
theorem passes_unique {f g : Fetch ι} {r : ρ} (hf : L.Passes s fs f r) (hg : L.Passes s fs g r) :
    f = g := by
  by_contra hne
  have hsymm : Std.Symm fun f g : Fetch ι => f.index ≠ g.index := ⟨fun _ _ h => h.symm⟩
  have hpair : fs.Pairwise fun f g => f.index ≠ g.index := walk.ordered.imp fun h => h.ne
  rcases Nat.lt_or_gt_of_ne (hpair.forall hf.mem hg.mem hne) with hlt | hlt
  · exact hf.later g hg.mem hlt hg.starts
  · exact hg.later f hf.mem hlt hf.starts

omit reads in
/-- A row that the page passing it leaves comes after the last page. -/
theorem last_of_leaves {f : Fetch ι} {r : ρ} (hp : L.Passes s fs f r)
    (hleaves : L.Leaves (s.worldAt f.index) f r) : fs.getLast? = some f := by
  obtain ⟨x, hx, hc, hlt⟩ := hleaves
  obtain ⟨l, rest, rfl⟩ := List.append_of_mem hp.mem
  cases rest with
  | nil => simp
  | cons g rest =>
    have hg : g ∈ l ++ f :: g :: rest := by simp
    obtain ⟨hindex, _, hcursor⟩ :=
      (List.isChain_cons_cons.mp (List.isChain_split.mp walk.chained).2).1
    refine absurd (fun y hy hyc => ?_) (hp.later g hg hindex)
    have hid : L.id x = L.id y := Option.some.inj ((hc.symm.trans hcursor.symm).trans hyc)
    exact same_key keeps hx hy hid ▸ hlt

/-- Whether a walk gathers a row is decided by the page that passes it. -/
theorem passed_iff (htake : 0 < take) {f : Fetch ι} {r : ρ} (hp : L.Passes s fs f r)
    (hr : r ∈ L.rows (s.worldAt f.index)) :
    (∃ x ∈ gathered fs, L.id (L.row x) = L.id r) ↔ p (s.worldAt f.index) r = true ∧
      ¬ L.Skips (s.worldAt f.index) (p (s.worldAt f.index)) f.cursor r ∧
        ¬ L.Leaves (s.worldAt f.index) f r := by
  have pages := isWalk walk keeps reads
  have page := pages.pages _ (List.mem_map_of_mem hp.mem)
  have hnext := (reads f hp.mem).next
  constructor
  · rintro ⟨x, hx, hid⟩
    obtain ⟨g, hg, hx⟩ := List.mem_flatMap.mp hx
    have hgx := item_passes walk keeps reads hg hx
    have hgmem := ((reads g hg).answered.mem _ (List.mem_map_of_mem hx)).1
    have hkey := same_key keeps hgmem hr hid
    cases passes_unique walk hp (hgx.of_key hkey.symm)
    have hxr : L.row x = r := eq_of_id hgmem hr hid
    have hitem : r ∈ (L.turn (s.worldAt f.index) (p (s.worldAt f.index)) f).items :=
      hxr ▸ List.mem_map_of_mem hx
    refine ⟨(List.mem_filter.mp (page.mem r hitem).1).2,
      fun hskip => page.unskipped r hitem (skips_iff.mpr hskip), ?_⟩
    rintro ⟨y, hy, hc, hlt⟩
    obtain ⟨_, z, hz, hzid⟩ := (reads f hp.mem).of_next hc
    have hzmem := ((reads f hp.mem).answered.mem _
      (List.mem_map_of_mem (List.mem_of_getLast? hz))).1
    cases eq_of_id hzmem hy hzid
    have hlast : (L.turn (s.worldAt f.index) (p (s.worldAt f.index)) f).items.getLast? =
        some (L.row z) := by
      simp [turn, Query.turn, query, List.getLast?_map, hz]
    exact absurd (page.le_last hlast hitem) (not_le.mpr hlt)
  · rintro ⟨hm, hskip, hleaves⟩
    have hafter := (startsBefore_iff walk keeps reads hp.mem).mp hp.starts
    rcases page.shown r (List.mem_filter.mpr ⟨hr, hm⟩) hafter
      (fun h => hskip (skips_iff.mp h)) with hitem | ⟨hfull, hall⟩
    · obtain ⟨x, hx, rfl⟩ := List.mem_map.mp hitem
      exact ⟨x, List.mem_flatMap.mpr ⟨f, hp.mem, hx⟩, rfl⟩
    · refine absurd ?_ hleaves
      have hlen : f.page.items.length = take := by
        simpa [turn, Query.turn, query] using hfull
      have hne : f.page.items ≠ [] := by
        rintro hnil
        simp [hnil] at hlen
        omega
      have hz := List.getLast_mem hne
      have hzitem : L.row (f.page.items.getLast hne) ∈
          (L.turn (s.worldAt f.index) (p (s.worldAt f.index)) f).items := List.mem_map_of_mem hz
      refine ⟨_, ((reads f hp.mem).answered.mem _ hzitem).1, ?_, hall _ hzitem⟩
      rw [hnext, if_pos hlen, List.getLast?_eq_some_getLast hne, Option.map_some]

end Walking

end Listing

/-! ### The board -/

/-- The answers of the loop, as they come. -/
def FetchAllByStatus.settles (walk : FetchAllByStatus) (pages : List (Page Ticket)) :
    Option FetchAllByStatus :=
  pages.foldlM (fun walk page => walk.settle (.ok page)) walk

/-- What the loop asks for, but for the cursor. -/
def statusQuery (status : TicketStatus) : ListTicketsQuery where
  status := some status
  limit := some PAGE_LIMIT
  assigneeIdLength := ListTicketsQuery.assigneeId_left_out
  severityRange := ListTicketsQuery.severity_left_out
  qLength := ListTicketsQuery.q_left_out
  limitRange := by rintro _ ⟨⟩; decide

def boardWhere (user : User) (status : TicketStatus) : TicketListWhere where
  reporterId := if user.role = .reportante then some user.id else none
  status := some status

theorem listWhere_statusQuery (user : User) (status : TicketStatus) :
    listWhere (statusQuery status) user = .ok (boardWhere user status) := rfl

/-- A call of `fetchAllByStatus` of the run, the pages it was answered and what it returned. -/
structure Server.FetchesAll (s : Server) (user : User) (status : TicketStatus)
    (fs : List (Fetch Ticket)) (all : List Ticket) : Prop where
  walk : s.Walk (asksList (statusQuery status) user) .page fs
  done : FetchAllByStatus.settles (.asks {}) (fs.map Fetch.page) = some (.done all)

/-- The ticket is unresolved, and one that the user is shown. -/
def World.unresolvedFor (w : World) (user : User) (id : Uuid) : Bool :=
  (w.ticket? id).any fun t =>
    t.status != .resuelto && (user.role != .reportante || t.reporterId == user.id)

/-- Every ticket that is unresolved from before the first page until after the last one is in the
result once, and no ticket is in it twice. -/
structure Server.CoversBoard (s : Server) (user : User) (as bs : List (Fetch Ticket))
    (items : List Ticket) : Prop where
  once : ∀ id, s.Throughout (as.map Fetch.index ++ bs.map Fetch.index)
      (fun u => u.unresolvedFor user id = true) → items.countP (fun t => t.id == id) = 1
  nodup : (items.map Ticket.id).Nodup

/-- The walk of one status, whose pages and those of the other one are `all`, loses no ticket that
is unresolved throughout: none comes first after a cursor whose own ticket has left the status by
then, and none of the status comes after the last page when the walk stops at its limit. -/
structure Server.SparesStatus (s : Server) (user : User) (all : List Nat) (status : TicketStatus)
    (fs : List (Fetch Ticket)) : Prop where
  skipped : ∀ g ∈ fs, ∀ t, queueListing.Skips (s.worldAt g.index)
    ((boardWhere user status).admits (s.worldAt g.index)) g.cursor t →
      ¬ s.Throughout all (fun u => u.unresolvedFor user t.id = true)
  left : ∀ g, fs.getLast? = some g → ∀ t ∈ (s.worldAt g.index).tickets.rows,
    t.status = status → queueListing.Leaves (s.worldAt g.index) g t →
      ¬ s.Throughout all (fun u => u.unresolvedFor user t.id = true)

/-- Besides, no ticket is started between the two fetches that pass its place. -/
structure Server.SparesBoard (s : Server) (user : User) (as bs : List (Fetch Ticket)) : Prop where
  abierto : s.SparesStatus user (as.map Fetch.index ++ bs.map Fetch.index) .abierto as
  enProgreso : s.SparesStatus user (as.map Fetch.index ++ bs.map Fetch.index) .enProgreso bs
  unmoved : ∀ f g t t', queueListing.Passes s as f t → queueListing.Passes s bs g t →
    (s.worldAt f.index).ticket? t.id = some t → (s.worldAt g.index).ticket? t.id = some t' →
      t.status = .resuelto ∨ t'.status = .resuelto ∨ t.status = t'.status

theorem FetchAllByStatus.settles_done {pages : List (Page Ticket)} {all : List Ticket}
    {f : FetchAll} (h : FetchAllByStatus.settles (.asks f) pages = some (.done all)) :
    all = f.all ++ pages.flatMap Page.items ∧ pages ≠ [] := by
  induction pages generalizing f with
  | nil => cases h
  | cons page pages ih =>
    simp only [settles, List.foldlM_cons, settle, Option.bind_eq_bind, Option.bind_some] at h
    refine ⟨?_, List.cons_ne_nil _ _⟩
    split at h
    next =>
      rw [(ih h).1, FetchAll.receive, List.flatMap_cons, List.append_assoc]
    next =>
      cases pages with
      | nil =>
        cases h
        simp [FetchAll.receive]
      | cons page' pages =>
        simp at h

section Runs

variable {ok : Server → Action → Bool} {w : World} {s : Server} {user : User}
  {status : TicketStatus} {fs as bs : List (Fetch Ticket)} {all inAs inBs : List Ticket}

theorem Server.FetchesAll.gathered (h : s.FetchesAll user status fs all) :
    all = gathered fs ∧ fs ≠ [] := by
  obtain ⟨hall, hne⟩ := FetchAllByStatus.settles_done h.done
  refine ⟨?_, fun hnil => hne (by rw [hnil]; rfl)⟩
  rw [hall, List.flatMap_map]
  rfl

theorem boardWhere_admits {u : World} {t : Ticket} :
    (boardWhere user status).admits u t = true ↔
      t.status = status ∧ (user.role = .reportante → t.reporterId = user.id) := by
  by_cases hrole : user.role = .reportante <;>
    simp [TicketListWhere.admits, TicketListWhere.matches, boardWhere, hrole, and_comm]

theorem unresolvedFor_iff {u : World} {id : Uuid} : u.unresolvedFor user id = true ↔
    ∃ t, u.ticket? id = some t ∧ t.status ≠ .resuelto ∧
      (user.role = .reportante → t.reporterId = user.id) := by
  simp only [World.unresolvedFor, Option.any_eq_true, Bool.and_eq_true, Bool.or_eq_true,
    bne_iff_ne, beq_iff_eq, ne_eq, or_iff_not_imp_left, not_not]

theorem Run.status_gathered (h : Run ok { world := w } s) {indices : List Nat}
    (hfs : s.FetchesAll user status fs all) (spares : s.SparesStatus user indices status fs)
    {f : Fetch Ticket} {t : Ticket} (hp : queueListing.Passes s fs f t)
    (ht : t ∈ (s.worldAt f.index).tickets.rows)
    (hkept : s.Throughout indices (fun u => u.unresolvedFor user t.id = true))
    (hsees : user.role = .reportante → t.reporterId = user.id) :
    (∃ x ∈ all, x.id = t.id) ↔ t.status = status := by
  have reads : ∀ g ∈ fs, queueListing.Reads (statusQuery status).take (s.worldAt g.index)
      ((boardWhere user status).admits (s.worldAt g.index)) g :=
    fun g hg => h.reads_queue (listWhere_statusQuery user status) (hfs.walk.fetched g hg)
  have hiff := Listing.passed_iff hfs.walk h.queue_keeps reads (statusQuery status).take_pos hp ht
  rw [hfs.gathered.1]
  refine hiff.trans ⟨fun hm => (boardWhere_admits.mp hm.1).1, fun hstatus => ?_⟩
  refine ⟨boardWhere_admits.mpr ⟨hstatus, hsees⟩,
    fun hskip => spares.skipped f hp.mem t hskip hkept, fun hleaves => ?_⟩
  exact spares.left f (Listing.last_of_leaves hfs.walk h.queue_keeps hp hleaves) t ht hstatus
    hleaves hkept

theorem Run.status_item (h : Run ok { world := w } s) (hfs : s.FetchesAll user status fs all)
    {x : Ticket} (hx : x ∈ all) : ∃ f, queueListing.Passes s fs f x ∧
      (s.worldAt f.index).ticket? x.id = some x ∧ x.status = status := by
  have reads : ∀ g ∈ fs, queueListing.Reads (statusQuery status).take (s.worldAt g.index)
      ((boardWhere user status).admits (s.worldAt g.index)) g :=
    fun g hg => h.reads_queue (listWhere_statusQuery user status) (hfs.walk.fetched g hg)
  rw [hfs.gathered.1] at hx
  obtain ⟨f, hf, hx⟩ := List.mem_flatMap.mp hx
  obtain ⟨hmem, hm⟩ := (reads f hf).answered.mem _ (List.mem_map_of_mem hx)
  exact ⟨f, Listing.item_passes hfs.walk h.queue_keeps reads hf hx, World.ticket?_of_mem hmem,
    (boardWhere_admits.mp hm).1⟩

theorem Run.status_nodup (h : Run ok { world := w } s) (hfs : s.FetchesAll user status fs all) :
    (all.map Ticket.id).Nodup := by
  rw [hfs.gathered.1]
  exact Listing.gathered_nodup hfs.walk h.queue_keeps fun g hg =>
    h.reads_queue (listWhere_statusQuery user status) (hfs.walk.fetched g hg)

/-- Where no ticket moves on between the two walks, none is gathered by both. -/
theorem Run.status_apart (h : Run ok { world := w } s) (ha : s.FetchesAll user .abierto as inAs)
    (hb : s.FetchesAll user .enProgreso bs inBs) (spares : s.SparesBoard user as bs) {x y : Ticket}
    (hx : x ∈ inAs) (hy : y ∈ inBs) : y.id ≠ x.id := by
  intro hid
  obtain ⟨f, hf, hxf, hxs⟩ := h.status_item ha hx
  obtain ⟨g, hg, hyg, hys⟩ := h.status_item hb hy
  have hkey := Listing.same_key (L := queueListing) h.queue_keeps (World.ticket?_mem hyg)
    (World.ticket?_mem hxf) hid
  rcases spares.unmoved f g x y hf (hg.of_key hkey.symm) hxf (hid ▸ hyg) with hs | hs | hs
  · cases hxs.symm.trans hs
  · cases hys.symm.trans hs
  · cases (hxs.symm.trans hs).trans hys

theorem board_covered (h : Run ok { world := w } s) (ha : s.FetchesAll user .abierto as inAs)
    (hb : s.FetchesAll user .enProgreso bs inBs) (spares : s.SparesBoard user as bs)
    {items : List Ticket}
    (hitems : FetchUnresolvedTickets.outcome ⟨.done inAs, .done inBs⟩ = some (.ok items)) :
    s.CoversBoard user as bs items := by
  cases hitems
  have hnodup : ((inAs ++ inBs).map Ticket.id).Nodup := by
    rw [List.map_append]
    refine (h.status_nodup ha).append (h.status_nodup hb) fun id hxs hys => ?_
    obtain ⟨x, hx, hxid⟩ := List.mem_map.mp hxs
    obtain ⟨y, hy, hyid⟩ := List.mem_map.mp hys
    exact h.status_apart ha hb spares hx hy (hyid.trans hxid.symm)
  refine ⟨fun id hkept => (countP_key hnodup id).mpr ?_, hnodup⟩
  -- a ticket that matches the row at the first fetch is there, in its place, at the others
  obtain ⟨first, hfirst⟩ := List.exists_mem_of_ne_nil as ha.gathered.2
  obtain ⟨r, hr, _⟩ := unresolvedFor_iff.mp
    (hkept.at (List.mem_append_left _ (List.mem_map_of_mem hfirst)))
  obtain ⟨f, hf⟩ := Listing.passes_exists (L := queueListing) ha.walk ha.gathered.2 r
  obtain ⟨g, hg⟩ := Listing.passes_exists (L := queueListing) hb.walk hb.gathered.2 r
  obtain ⟨t, ht, hopen, hsees⟩ := unresolvedFor_iff.mp
    (hkept.at (List.mem_append_left _ (List.mem_map_of_mem hf.mem)))
  obtain ⟨t', ht', hopen', hsees'⟩ := unresolvedFor_iff.mp
    (hkept.at (List.mem_append_right _ (List.mem_map_of_mem hg.mem)))
  have hid := World.ticket?_id ht
  have hid' := World.ticket?_id ht'
  have hkey : ∀ {n u}, (s.worldAt n).ticket? id = some u → u.place = r.place := fun hu =>
    Listing.same_key (L := queueListing) h.queue_keeps (World.ticket?_mem hu)
      (World.ticket?_mem hr) ((World.ticket?_id hu).trans (World.ticket?_id hr).symm)
  have hft := hf.of_key (hkey ht)
  have hgt' := hg.of_key (hkey ht')
  have hinA := h.status_gathered ha spares.abierto hft (World.ticket?_mem ht) (hid ▸ hkept) hsees
  have hinB := h.status_gathered hb spares.enProgreso hgt' (World.ticket?_mem ht')
    (hid' ▸ hkept) hsees'
  rw [hid] at hinA
  rw [hid'] at hinB
  rcases spares.unmoved f g t t' hft (hg.of_key (hkey ht)) (hid.symm ▸ ht) (hid.symm ▸ ht')
    with hs | hs | hs
  · exact absurd hs hopen
  · exact absurd hs hopen'
  · cases hstatus : t.status with
    | abierto =>
      obtain ⟨x, hx, hxid⟩ := hinA.mpr hstatus
      exact ⟨x, List.mem_append_left _ hx, hxid⟩
    | enProgreso =>
      obtain ⟨x, hx, hxid⟩ := hinB.mpr (hs ▸ hstatus)
      exact ⟨x, List.mem_append_right _ hx, hxid⟩
    | resuelto => exact absurd hstatus hopen

end Runs

namespace Sample

/-- 101 open tickets and two that are started, in the order of the queue. -/
def crowdRow (n : Nat) : Ticket where
  id := 200 + n
  ticketNumber := ticketNumber (n + 1)
  type := .incidente
  title := "No arranca el servicio"
  description := "El servicio de pagos responde 500 desde las nueve"
  severity := 2
  impact := 2
  priority := .alta
  status := if n = 40 ∨ n = 80 then .enProgreso else .abierto
  reporterId := 1
  slaDueAt := none
  idempotencyKey := none
  createdAt := n

theorem crowd_unique : ((List.range 103).map crowdRow).Pairwise fun a b => ¬ a.clash b :=
  numbered_unique 103 (by decide) (fun _ _ hid => Nat.add_left_cancel hid) (fun _ => rfl)
    fun _ => rfl

def crowd : World :=
  { world with ticketNumberSeq := 103, tickets := ⟨(List.range 103).map crowdRow, crowd_unique⟩ }

/-- A full page of open tickets, the rest of them after the ticket 250 is assigned, and a page of
those that are started. -/
def boardAsked : List Action :=
  [.arrive (.list (statusQuery .abierto) agente),
    .arrive (.list (statusQuery .enProgreso) agente)] ++ steps 0 0 1 ++
    [.arrive (.assign 250 ⟨agente.id, 0⟩ agente)] ++ steps 2 10 7 ++
    [.arrive (.list { statusQuery .abierto with cursor := some (Uuid.text 301) } agente)] ++
    steps 3 20 1 ++ steps 1 30 1

theorem boardAsked_plays :
    (Pool.replay serve Cmd.exec (fun _ _ => true) boardAsked { world := crowd }).isSome := by
  decide +kernel

def boardFetched : Server :=
  (Pool.replay serve Cmd.exec (fun _ _ => true) boardAsked { world := crowd }).get boardAsked_plays

def openFetches : List (Fetch Ticket) :=
  [⟨0, none, pageOf boardFetched 0⟩, ⟨8, some 301, pageOf boardFetched 3⟩]

def startedFetch : Fetch Ticket := ⟨9, none, pageOf boardFetched 1⟩

/-- The ticket 102 is assigned and started between the two first pages. -/
def boardStarted : Server :=
  (play (fun _ _ => true) (created ++ [.arrive (.list (statusQuery .abierto) agente),
    .arrive (.list (statusQuery .enProgreso) agente)] ++ steps 1 10 1 ++
    [.arrive (.assign 102 ⟨agente.id, 0⟩ agente)] ++ steps 3 30 7 ++
    [.arrive (.changeState 102 (start 1) agente)] ++ steps 4 40 4 ++ steps 2 20 1)).get
      (by decide +kernel)

theorem fetchesAll_single {s : Server} {user : User} {status : TicketStatus} {f : Fetch Ticket}
    (hf : s.Fetched (asksList (statusQuery status) user) .page f) (hfirst : f.cursor = none)
    (hend : f.page.nextCursor = none) : s.FetchesAll user status [f] f.page.items where
  walk := ⟨by simpa using hf, by simpa using hfirst, .singleton f⟩
  done := by
    simp [FetchAllByStatus.settles, FetchAllByStatus.settle, FetchAll.receive, FetchAll.goesOn,
      hend]

theorem boardFetched_pages :
    ((pageOf boardFetched 0).items.length = 100 ∧ (pageOf boardFetched 0).nextCursor = some 301) ∧
    (pageOf boardFetched 3).nextCursor = none ∧ (pageOf boardFetched 1).nextCursor = none := by
  have hopen := pageOf_ids (i := 0) 0 100 (boardWhere agente .abierto) none
    ((((List.range 103).filter fun n => n ≠ 40 ∧ n ≠ 80).take 100).map (200 + ·)) rfl
    (s := boardFetched) (by decide +kernel) (by decide +kernel)
  have hlength : (pageOf boardFetched 0).items.length = 100 := by
    rw [← List.length_map (f := Ticket.id), hopen.1]
    decide +kernel
  refine ⟨⟨hlength, hopen.2.trans (by decide +kernel)⟩, ?_, ?_⟩
  · exact (pageOf_ids 8 100 (boardWhere agente .abierto) (some 301) [302] rfl (by decide +kernel)
      (by decide +kernel)).2
  · exact (pageOf_ids 9 100 (boardWhere agente .enProgreso) none [240, 280] rfl
      (by decide +kernel) (by decide +kernel)).2

theorem boardFetched_open : boardFetched.FetchesAll agente .abierto openFetches
    ((pageOf boardFetched 0).items ++ (pageOf boardFetched 3).items) where
  walk := by
    refine ⟨fun f hf => ?_, by rintro f ⟨⟩; rfl, ?_⟩
    · simp only [openFetches, List.mem_cons, List.not_mem_nil, or_false] at hf
      rcases hf with rfl | rfl
      · exact ⟨boardFetched.history[0], boardFetched.threads[0], rfl, rfl, rfl, ⟨none, rfl, rfl⟩,
          rfl⟩
      · exact ⟨boardFetched.history[8], boardFetched.threads[3], rfl, rfl, rfl,
          ⟨some (Uuid.text 301), by decide +kernel, rfl⟩, rfl⟩
    · simp [openFetches, Fetch.Next, boardFetched_pages.1.2]
  done := by
    obtain ⟨⟨hlength, hnext⟩, hend, _⟩ := boardFetched_pages
    simp [openFetches, FetchAllByStatus.settles, FetchAllByStatus.settle, FetchAll.receive,
      FetchAll.goesOn, hlength, hnext, hend, MAX_TICKETS]

theorem boardFetched_started : boardFetched.FetchesAll agente .enProgreso [startedFetch]
    (pageOf boardFetched 1).items :=
  fetchesAll_single ⟨boardFetched.history[9], boardFetched.threads[1], rfl, rfl, rfl,
    ⟨none, rfl, rfl⟩, rfl⟩ rfl boardFetched_pages.2.2

/-- No ticket changes its status. -/
theorem boardFetched_status {n : Nat} (hn : n < 10) {t : Ticket}
    (ht : t ∈ (boardFetched.worldAt n).tickets.rows) :
    t.status = if t.id = 240 ∨ t.id = 280 then .enProgreso else .abierto := by
  have hall : ∀ n < 10, ∀ t ∈ (boardFetched.worldAt n).tickets.rows,
      t.status = if t.id = 240 ∨ t.id = 280 then .enProgreso else .abierto := by
    decide +kernel
  exact hall n hn t ht

theorem boardStarted_pages :
    ((pageOf boardStarted 1).items.map Ticket.id = [102] ∧
      (pageOf boardStarted 1).nextCursor = none) ∧
    ((pageOf boardStarted 2).items.map Ticket.id = [102] ∧
      (pageOf boardStarted 2).nextCursor = none) :=
  ⟨pageOf_ids 3 100 (boardWhere agente .abierto) none [102] rfl (by decide +kernel)
    (by decide +kernel),
    pageOf_ids 15 100 (boardWhere agente .enProgreso) none [102] rfl (by decide +kernel)
      (by decide +kernel)⟩

end Sample

open Sample in
theorem board_covered_once : boardFetched.CoversBoard agente openFetches [startedFetch]
    ((pageOf boardFetched 0).items ++ (pageOf boardFetched 3).items ++
      (pageOf boardFetched 1).items) := by
  have hrun : Run (fun _ _ => true) { world := crowd } boardFetched :=
    .of_replay (Option.some_get _).symm
  have hindex : ∀ f ∈ openFetches, f.index < 10 := by simp [openFetches]
  refine board_covered hrun boardFetched_open boardFetched_started
    ⟨⟨fun g hg t hskip => ?_, fun g hg t _ _ hleaves => ?_⟩,
      ⟨fun g hg t hskip => ?_, fun g hg t _ _ hleaves => ?_⟩, fun f g t t' hf hg ht ht' => ?_⟩ rfl
  · -- The row of the cursor is as open as it was.
    obtain ⟨x, hx, hc, hno, _⟩ := hskip
    have hid : x.id = 301 := by
      simp only [openFetches, List.mem_cons, List.not_mem_nil, or_false] at hg
      rcases hg with rfl | rfl
      · cases hc
      · exact (Option.some.inj hc).symm
    have hopen : x.status = .abierto := by
      rw [boardFetched_status (hindex g hg) hx, hid]
      rfl
    have hyes : (boardWhere agente .abierto).admits (boardFetched.worldAt g.index) x = true :=
      boardWhere_admits.mpr ⟨hopen, fun hrole => by cases hrole⟩
    cases hno.symm.trans hyes
  · obtain ⟨_, _, hc, _⟩ := hleaves
    cases Option.some.inj hg
    cases boardFetched_pages.2.1.symm.trans hc
  · obtain ⟨_, _, hc, _⟩ := hskip
    cases List.mem_singleton.mp hg
    cases hc
  · obtain ⟨_, _, hc, _⟩ := hleaves
    cases Option.some.inj hg
    cases boardFetched_pages.2.2.symm.trans hc
  · cases List.mem_singleton.mp hg.mem
    have hs := boardFetched_status (hindex f hf.mem) (World.ticket?_mem ht)
    have hs' := boardFetched_status (by decide) (World.ticket?_mem ht')
    rw [World.ticket?_id ht', ← hs] at hs'
    exact .inr (.inr hs'.symm)

open Sample in
/-- The ticket is started between the two fetches: it is on the board twice. -/
theorem board_ticket_twice : ¬ ∀ (s : Server) (as bs : List (Fetch Ticket))
    (inAs inBs items : List Ticket), Run (fun _ _ => true) { world := world } s →
      s.FetchesAll agente .abierto as inAs → s.FetchesAll agente .enProgreso bs inBs →
      FetchUnresolvedTickets.outcome ⟨.done inAs, .done inBs⟩ = some (.ok items) →
      (∀ n status, (s.worldAt n).tickets.rows.countP (fun t => t.status = status) ≤ MAX_TICKETS) →
      s.CoversBoard agente as bs items := by
  intro hall
  have hrun : Run (fun _ _ => true) { world := world } boardStarted :=
    play_run (by decide +kernel)
  obtain ⟨⟨hids₁, hend₁⟩, hids₂, hend₂⟩ := boardStarted_pages
  have hone : ∀ n < 17, (boardStarted.worldAt n).tickets.rows.length ≤ MAX_TICKETS := by
    decide +kernel
  have hfew : ∀ n status, (boardStarted.worldAt n).tickets.rows.countP
      (fun t => t.status = status) ≤ MAX_TICKETS := by
    intro n status
    refine List.countP_le_length.trans ?_
    rcases Nat.lt_or_ge n 17 with hn | hn
    · exact hone n hn
    · have hlen : boardStarted.history.length = 16 := by decide +kernel
      rw [worldAt_of_length_le (by omega), ← worldAt_of_length_le (n := 16) (by omega)]
      exact hone 16 (by decide)
  have hcovers := hall boardStarted [⟨3, none, pageOf boardStarted 1⟩]
    [⟨15, none, pageOf boardStarted 2⟩] _ _ _ hrun
    (fetchesAll_single ⟨boardStarted.history[3], boardStarted.threads[1], rfl, rfl, rfl,
      ⟨none, rfl, rfl⟩, rfl⟩ rfl hend₁)
    (fetchesAll_single ⟨boardStarted.history[15], boardStarted.threads[2], rfl, rfl, rfl,
      ⟨none, rfl, rfl⟩, rfl⟩ rfl hend₂) rfl hfew
  have hnodup := hcovers.nodup
  rw [List.map_append, hids₁, hids₂] at hnodup
  simp at hnodup

end TicketSystem
