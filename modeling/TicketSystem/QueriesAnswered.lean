import TicketSystem.FullWalk
import TicketSystem.HistoryWalk

namespace TicketSystem

open Relational Interleaved

section Answered

variable {w : World} {user : User} {os : Nat → Oracle}

/-- The user is shown the ticket. -/
def World.Shows (w : World) (user : User) (id : Uuid) : Prop :=
  ∃ t, w.ticket? id = some t ∧ requireOwnTicket t user = .ok ()

theorem cursorArg_ok_iff {s : Option String} : (∃ c, cursorArg s = .ok c) ↔ NamesId s := by
  by_cases h : NamesId s
  · obtain ⟨c, hc, _⟩ := cursorArg_ok h
    exact ⟨fun _ => h, fun _ => ⟨c, hc⟩⟩
  · simp [cursorArg_error h, h]

theorem list_answered_iff (hf : ∀ n, (os n).fault = none) (query : ListTicketsQuery) :
    (∃ page, ((list query user).alone Cmd.exec os w).1 = .ok page) ↔
      query.Answerable ∧ NamesId query.cursor := by
  by_cases h : query.Answerable
  · obtain ⟨f, hwhere, _⟩ := listWhere_ok user h.toFiltersSound
    have hq := (storable_q hwhere).mpr h.q
    rw [list_alone hf, ← cursorArg_ok_iff, hwhere]
    cases hcursor : cursorArg query.cursor with
    | error e => simp [bind, Except.bind]
    | ok c => simp [bind, Except.bind, h, hq]
  · obtain ⟨e, he⟩ := list_refused w user hf h
    simp [he, h]

theorem events_answered_iff (hf : ∀ n, (os n).fault = none) {id : Uuid}
    (hshows : w.Shows user id) (query : ListEventsQuery) :
    (∃ page, ((events id query user).alone Cmd.exec os w).1 = .ok page) ↔
      NamesId query.cursor := by
  obtain ⟨t, ht, hvisible⟩ := hshows
  rw [events_visible hf query ht hvisible, ← cursorArg_ok_iff]
  cases hcursor : cursorArg query.cursor with
  | error e => simp [bind, Except.bind]
  | ok c => simp [bind, Except.bind]

theorem streamCsv_answered_iff (hf : ∀ n, (os n).fault = none) (query : ReportQuery) :
    (∃ n batches, follow Page.nextCursor (askBatch w query os) n none = some (.ok batches)) ↔
      query.FiltersSound := by
  constructor
  · rintro ⟨n, batches, h⟩
    by_contra hno
    obtain ⟨e, hfollow⟩ := askBatch_refused hno
    cases n with
    | zero => cases h
    | succ n => cases h.symm.trans (hfollow (n + 1) n.succ_pos)
  · intro hsound
    obtain ⟨batches, hfollow, _⟩ := askBatch_follows hf hsound
    exact ⟨_, batches, hfollow _ (Nat.lt_succ_self _)⟩

end Answered

/-- A query that passed its validation is answered when the validation was enough: its texts name
ids, its dates are dates and nothing with U+0000 is sought. -/
theorem queries_answered_iff (w : World) (user : User) (os : Nat → Oracle)
    (hf : ∀ n, (os n).fault = none) :
    (∀ query : ListTicketsQuery, (∃ page, ((list query user).alone Cmd.exec os w).1 = .ok page) ↔
      query.Answerable ∧ NamesId query.cursor) ∧
    (∀ id, w.Shows user id → ∀ query : ListEventsQuery,
      (∃ page, ((events id query user).alone Cmd.exec os w).1 = .ok page) ↔
        NamesId query.cursor) ∧
    (∀ query : ReportQuery, (∃ n batches,
      follow Page.nextCursor (askBatch w query os) n none = some (.ok batches)) ↔
        query.FiltersSound) :=
  ⟨list_answered_iff hf, fun _ hshows => events_answered_iff hf hshows, streamCsv_answered_iff hf⟩

namespace Sample

def oneResolved : World := { world with tickets := ⟨[resolvedTicket 0], by simp⟩ }

end Sample

theorem queries_answered_sample :
    (∃ page, ((list Sample.mine Sample.agente).alone Cmd.exec (fun n => { uuid := n })
      Sample.oneResolved).1 = .ok page) ∧
    (∃ page, ((events 1000 Sample.inTwos Sample.agente).alone Cmd.exec (fun n => { uuid := n })
      Sample.oneResolved).1 = .ok page) ∧
    (∃ n batches, follow Page.nextCursor (askBatch Sample.oneResolved Sample.ofAgente
      fun n => { uuid := n }) n none = some (.ok batches)) := by
  obtain ⟨hlist, hevents, hreport⟩ := queries_answered_iff Sample.oneResolved Sample.agente
    (fun n => { uuid := n }) fun _ => rfl
  have hshows : Sample.oneResolved.Shows Sample.agente 1000 :=
    ⟨Sample.resolvedTicket 0, by decide +kernel, by decide +kernel⟩
  exact ⟨(hlist Sample.mine).mpr ⟨Sample.mine_answerable, nofun⟩,
    (hevents 1000 hshows Sample.inTwos).mpr nofun,
    (hreport Sample.ofAgente).mpr Sample.ofAgente_sound⟩

/-- An assignee that is no id is accepted, and refused by the database. -/
theorem assignee_not_uuid : ((list Sample.ofAbc Sample.agente).alone Cmd.exec
    (fun n => { uuid := n }) Sample.world).1 = .error (.prisma .P2023) := by
  have hf : ∀ n, ({ uuid := n } : Oracle).fault = none := fun _ => rfl
  have hassignee : listAssignee (some "abc") Sample.agente = .error (.prisma .P2023) := by
    decide +kernel
  rw [list_alone hf, listWhere]
  simp only [Sample.ofAbc, dateArg, hassignee]
  rfl

end TicketSystem
