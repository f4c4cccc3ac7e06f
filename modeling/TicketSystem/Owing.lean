import TicketSystem.Lib.Ledger
import TicketSystem.Mutations

namespace TicketSystem

open Relational Interleaved

variable {τ : Type}

/-- What the last thing a request did leaves it to record. -/
def owed (left : Seen → Option τ) (past : List Seen) : Option τ := past.getLast?.bind left

theorem owed_snoc (left : Seen → Option τ) (past : List Seen) (o : Seen) :
    owed left (past ++ [o]) = left o := by
  simp [owed]

theorem Intent.settled {q : Request} {past : List Seen} {g : TicketWhere} {d : TicketUpdate}
    {ev : TicketEventCreate} (h : Intent q past g d ev) : Settled past := by
  cases h with
  | assign _ calm => exact settled_of_calm calm
  | changeState _ calm => exact settled_of_calm calm
  | escalateOne => exact settled_nil
  | sweep settled => exact settled

/-- A committed update leaves `left` to be recorded, and the insert of its event, for which
`due` is the same, records it. -/
structure Owing (due : Cmd → Option τ) (left : Seen → Option τ) : Prop where
  event {c : Cmd} (h : due c ≠ none) : ∃ d, c = .one (.ticketEventCreate d)
  update {o : Seen} (h : Seen.update? o = none) : left o = none
  noted {q : Request} {d : TicketEventCreate} (h : Notes q d) :
    due (.one (.ticketEventCreate d)) = none
  repaid {q : Request} {past : List Seen} {g : TicketWhere} {d : TicketUpdate}
    {ev : TicketEventCreate} (h : Intent q past g d ev) {o : Seen}
    (ho : Seen.update? o = some (g, d)) : due (.one (.ticketEventCreate ev)) = left o

namespace Owing

variable {due : Cmd → Option τ} {left : Seen → Option τ}

theorem settled (D : Owing due left) {past : List Seen} (h : Settled past) :
    owed left past = none := by
  unfold owed
  cases hl : past.getLast? with
  | none => rfl
  | some o => exact D.update (h o hl)

theorem other (D : Owing due left) {c : Cmd} (h : ∀ d, c ≠ .one (.ticketEventCreate d)) :
    due c = none := by
  by_contra hc
  obtain ⟨d, rfl⟩ := D.event hc
  exact h d rfl

/-- What a command records is what its request owes. -/
theorem issued (D : Owing due left) {q : Request} {past : List Seen} {c : Cmd}
    (h : Issues q past c) : due c = owed left past := by
  cases h with
  | reads reads settled =>
    rw [D.settled settled]
    exact D.other (by rintro d rfl; cases reads)
  | update intent => exact (D.other (by simp)).trans (D.settled intent.settled).symm
  | event intent committed => rw [owed_snoc, D.repaid intent committed]
  | readBack _ _ settled => exact (D.other (by simp)).trans (D.settled (settled_snoc.mpr settled)).symm
  | note notes calm => exact (D.noted notes).trans (D.settled (settled_of_calm calm)).symm
  | upload calm => exact (D.other (by simp)).trans (D.settled (settled_of_calm calm)).symm
  | register calm => exact (D.other (by simp)).trans (D.settled (settled_of_calm calm)).symm
  | create calm => exact (D.other (by simp)).trans (D.settled (settled_of_calm calm)).symm

theorem arrival (D : Owing due left) (q : Request) : (serve q).due due = none := by
  have hobeys := serve_kept.obeys q
  cases hs : serve q with
  | pure a => rfl
  | throw e => rfl
  | stmt c k =>
    rw [hs] at hobeys
    exact D.issued hobeys.1

section Runs

variable {ok : Server → Action → Bool} {w : World} {s : Server}

/-- In every run a request is about to record exactly what the last thing it did left. -/
theorem thread (D : Owing due left) (h : Run ok { world := w } s) {i : Nat} {t : Task}
    (ht : s.threads[i]? = some t) : t.state.due due = owed left (own i s.history) := by
  have hobeys := h.obeys serve_kept ht
  obtain ⟨q, state, stopped⟩ := t
  cases state with
  | pure a => exact (D.settled hobeys.settled).symm
  | throw e => exact (D.settled hobeys.settled).symm
  | stmt c k => exact D.issued hobeys.1

theorem ran (D : Owing due left) (h : Run ok { world := w } s) {i : Nat} {q : Request} {c : Cmd}
    {k : Except Err c.Res → Service Response} {o : Oracle} (hok : ok s (.run i o) = true)
    (thread : s.threads[i]? = some { request := q, state := .stmt c k }) :
    (k (Cmd.exec o c s.world).1).due due = left ⟨c, (Cmd.exec o c s.world).1⟩ := by
  have hnext : Run ok { world := w } (s.ran i q c k (Cmd.exec o c s.world)) :=
    h.next hok (.run o thread)
  have hi := (List.getElem?_eq_some_iff.mp thread).1
  have hafter := D.thread hnext (List.getElem?_set_self hi)
  have hown : own i (s.ran i q c k (Cmd.exec o c s.world)).history =
      own i s.history ++ [⟨c, (Cmd.exec o c s.world).1⟩] := by simp [Pool.ran]
  rw [hown, owed_snoc] at hafter
  exact hafter

end Runs

/-- When nothing fails, what is due is recorded by the statement that records it. -/
theorem recorded (D : Owing due left) {c : Cmd} {o : Oracle} {w : World} (hun : o.Unused w)
    (hf : o.fault = none) (hc : due c ≠ none) : ¬ Seen.Calm ⟨c, (Cmd.exec o c w).1⟩ := by
  obtain ⟨d, rfl⟩ := D.event hc
  intro calm
  have hevent := calm.event
  rw [eventCreate_succeeds (d := d) hf hun.2.1] at hevent
  cases hevent

end Owing

end TicketSystem
