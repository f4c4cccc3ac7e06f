import TicketSystem.CommentsShown
import TicketSystem.Lib.Client

namespace TicketSystem

open Relational Interleaved

section Walks

variable {ι : Type} {s s' : Server} {m : Action} {asks asks' : Option Uuid → Request → Prop}
  {answer : Page ι → Response} {f : Fetch ι} {fs : List (Fetch ι)}

theorem Server.Fetched.step (hf : s.Fetched asks answer f) (step : Step serve Cmd.exec s m s') :
    s'.Fetched asks answer f := by
  obtain ⟨e, t, he, hpages, ht, hasks, hr⟩ := hf
  obtain ⟨t', ht', hq, hr'⟩ := step.result_stays ht hr
  exact ⟨e, t', step.history_keeps he, hpages, ht', hq.symm ▸ hasks, hr'⟩

theorem Server.Fetched.index_lt (hf : s.Fetched asks answer f) : f.index < s.history.length := by
  obtain ⟨_, _, he, _⟩ := hf
  exact (List.getElem?_eq_some_iff.mp he).1

theorem Server.walk_nil : s.Walk asks answer [] := ⟨nofun, nofun, .nil⟩

theorem Server.Walk.step (walk : s.Walk asks answer fs) (step : Step serve Cmd.exec s m s') :
    s'.Walk asks answer fs :=
  ⟨fun f hf => (walk.fetched f hf).step step, walk.first, walk.chained⟩

/-- Another client asks the same. -/
theorem Server.Walk.as (walk : s.Walk asks answer fs)
    (fetched : ∀ f ∈ fs, s.Fetched asks' answer f) : s.Walk asks' answer fs :=
  ⟨fetched, walk.first, walk.chained⟩

theorem Server.Walk.snoc (walk : s.Walk asks answer fs) (hf : s.Fetched asks answer f)
    (first : fs = [] → f.cursor = none) (next : ∀ g, fs.getLast? = some g → g.Next f) :
    s.Walk asks answer (fs ++ [f]) where
  fetched g hg := by
    rcases List.mem_append.mp hg with hg | hg
    · exact walk.fetched g hg
    · exact List.mem_singleton.mp hg ▸ hf
  first g hg := by
    cases fs with
    | nil => cases hg; exact first rfl
    | cons x xs => exact walk.first g hg
  chained := by
    refine List.isChain_append.mpr ⟨walk.chained, .singleton f, fun g hg x hx => ?_⟩
    cases hx
    exact next g hg

/-- A cursor that was asked for was given with a page before. -/
theorem Server.Walk.cursor_given (walk : s.Walk asks answer fs) {g : Fetch ι} (hg : g ∈ fs)
    {c : Uuid} (hc : g.cursor = some c) : ∃ f ∈ fs, f.page.nextCursor = some c := by
  obtain ⟨l, r, rfl⟩ := List.append_of_mem hg
  rcases List.eq_nil_or_concat l with rfl | ⟨l, f, rfl⟩
  · cases hc.symm.trans (walk.first g rfl)
  · have hchain := walk.chained
    simp only [List.concat_eq_append, List.append_assoc, List.singleton_append] at hchain
    obtain ⟨_, _, hcursor⟩ := (List.isChain_cons_cons.mp (List.isChain_split.mp hchain).2).1
    exact ⟨f, by simp, hcursor.symm.trans hc⟩

theorem gathered_snoc (fs : List (Fetch ι)) (f : Fetch ι) :
    gathered (fs ++ [f]) = gathered fs ++ f.page.items := by
  simp [gathered]

end Walks

/-- The page of a call that was answered was read after the call was sent. -/
theorem Run.answered_page {ok : Server → Action → Bool} {w : World} {s : Server} {κ : Type}
    {c : Sent κ} {request : κ → Request} {v : Response} (h : Run ok { world := w } s)
    (tracked : c.Tracked request s) (answered : c.AnsweredBy s v)
    (pages : (request c.call).pages = true) : ∃ (i : Nat) (e : Executed) (t : Task),
      s.history[i]? = some e ∧ e.obs.cmd.pages = true ∧ s.threads[e.tid]? = some t ∧
        t.request = request c.call ∧ t.result? = some (.ok v) ∧ c.since ≤ i ∧
          Paged (request c.call) e.obs v := by
  obtain ⟨n, t, hn, ht, hr⟩ := answered
  obtain ⟨t', ht', hq⟩ := tracked.serves n hn
  cases ht.symm.trans ht'
  obtain ⟨first, o, hown, _, paged⟩ := h.returned serve_paging ht hr (hq ▸ pages) v rfl
  obtain ⟨e, he, htid, hobs⟩ := mem_own.mp (hown ▸ List.mem_concat_self)
  obtain ⟨i, hi⟩ := List.getElem?_of_mem he
  rw [hq, ← hobs] at paged
  have hlater := tracked.after n hn i e hi htid
  exact ⟨i, e, t, hi, paged_cmd paged, htid.symm ▸ ht, hq, hr, hlater, paged⟩

end TicketSystem
