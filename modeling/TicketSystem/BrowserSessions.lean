import TicketSystem.Browser

namespace TicketSystem

open Relational Interleaved

theorem readSession_text {x : StoredSession} (htruthy : x.user.truthy = true) :
    readSession (some x.text) = some x := by
  have hparse : JsonText.parse x.text.toList = some x.value := by
    rw [StoredSession.text, String.toList_ofList]
    exact JsonText.parse_stringify _
  have hne : x.text ≠ "" := by
    intro hempty
    rw [hempty] at hparse
    cases hparse
  have hfilter : (some x.text).filter (· ≠ "") = some x.text := by simp [hne]
  have huser : (x.value.get? "user").filter JsonText.Value.truthy = some x.user := by
    rw [show x.value.get? "user" = some x.user from rfl, Option.filter_some, if_pos htruthy]
  simp only [readSession, hfilter, Option.bind_eq_bind, Option.bind_some, hparse, huser]
  rfl

theorem readSession_stored (r : SessionResult) : readSession (some r.stored.text) = some r.stored :=
  readSession_text rfl

/-- The redirects end after two. -/
theorem Route.redirect?_land (session : Option StoredSession) (route : Route) :
    (route.land session).redirect? session = none := by
  have hpath : ∀ path, ((Route.guarded path).redirected session).redirect? session = none := by
    intro path
    cases session with
    | none => rfl
    | some x =>
      by_cases hhome : path = .home
      · rw [hhome]
        rfl
      by_cases hroles : path.roles.all x.hasRole = true
      · have hstays : (Route.guarded path).redirect? (some x) = none := by
          simp [Route.redirect?, hhome, hroles]
        rw [Route.redirected, hstays]
        exact hstays
      · have hleaves : (Route.guarded path).redirect? (some x) = some (.guarded .tickets) := by
          simp [Route.redirect?, hhome, hroles]
        rw [Route.redirected, hleaves]
        rfl
  cases route with
  | callback => rfl
  | unknown => exact hpath .tickets
  | guarded path =>
    have h := hpath path
    rw [Route.land, Route.redirected, h]
    exact h
  | login origin =>
    cases session with
    | none => rfl
    | some x => exact hpath (origin.getD .tickets)

theorem Route.land_guarded (x : StoredSession) (path : GuardedPath) :
    (Route.guarded path).land (some x) = .guarded path ↔
      path ≠ .home ∧ path.roles.all x.hasRole = true := by
  by_cases hhome : path = .home
  · rw [hhome]
    exact iff_of_false nofun fun h => h.1 rfl
  by_cases hroles : path.roles.all x.hasRole = true
  · have hstays : (Route.guarded path).redirected (some x) = .guarded path := by
      simp [Route.redirected, Route.redirect?, hhome, hroles]
    rw [Route.land, hstays, hstays]
    exact iff_of_true rfl ⟨hhome, hroles⟩
  · have hleaves : (Route.guarded path).redirected (some x) = .guarded .tickets := by
      simp [Route.redirected, Route.redirect?, hhome, hroles]
    rw [Route.land, hleaves]
    refine iff_of_false (fun he => hroles ?_) fun h => hroles h.2
    obtain rfl : GuardedPath.tickets = path := Route.guarded.inj he
    rfl

theorem SessionResult.hasRole_stored (r : SessionResult) (roles : List Role) :
    r.stored.hasRole roles = roles.contains r.user.role := by
  have hrole : (r.stored.user.get? "role").bind JsonText.Value.string? =
      some r.user.role.text := rfl
  rw [StoredSession.hasRole, hrole, Option.any_some, List.contains_eq_any_beq]
  congr 1
  funext role
  cases role <;> cases r.user.role <;> decide

/-- The sidebar shows what opens for the role of the session, and nothing else. -/
theorem Sidebar.mem_items (r : SessionResult) {item : NavItem} (hitem : item ∈ NAV_ITEMS) :
    item ∈ Sidebar.items (some r.stored) ↔
      (Route.guarded item.target).land (some r.stored) = .guarded item.target := by
  have hopens : ∀ role : Role, ∀ item ∈ NAV_ITEMS,
      (item.target ≠ .home ∧ (item.target.roles.all fun roles => roles.contains role) = true) ↔
        item.roles.contains role = true := by
    intro role
    cases role <;> decide
  rw [Route.land_guarded, funext r.hasRole_stored, hopens r.user.role item hitem, Sidebar.items,
    List.mem_filter, Option.any_some, r.hasRole_stored]
  exact and_iff_right hitem

/-! ### Sessions that the API gave out -/

/-- A call was answered with this session. -/
def ApiServer.Gave (s : ApiServer) (r : SessionResult) : Prop :=
  ∃ (i : Nat) (x : ApiThread) (reply : Reply), s.threads[i]? = some x ∧
    x.result? = some (.ok reply) ∧ reply.body = .served (.session r)

section Invariant

variable {auth : AuthConfig} {w : World} {b : Browser} {s s' : ApiServer} {m : Move ApiCall Oracle}

theorem ApiServer.Gave.step {r : SessionResult} (h : s.Gave r)
    (step : Step ((api auth).program serve) Cmd.exec s m s') : s'.Gave r := by
  obtain ⟨i, x, reply, hx, hr, hbody⟩ := h
  obtain ⟨x', hx', _, hr'⟩ := step.result_stays hx hr
  exact ⟨i, x', reply, hx', hr', hbody⟩

/-- The browser has no session but those that the API gave out, and every document shows a page. -/
structure Browser.Genuine (b : Browser) (s : ApiServer) : Prop where
  stored : ∀ text, b.storage = some text → ∃ r, s.Gave r ∧ text = r.stored.text
  shown : ∀ tab ∈ b.tabs, ∀ x, tab.session = some x → ∃ r, s.Gave r ∧ x = r.stored
  landed : ∀ tab ∈ b.tabs, tab.route.redirect? tab.session = none

/-- The call bears a session that was given out before the call arrived. -/
def BearsSession (auth : AuthConfig) (w : World) (c : Sent BrowserCall) (s : ApiServer)
    (r : SessionResult) : Prop :=
  c.call.headers = authorized r.token.text ∧ ∃ s₀, ApiRun auth (fun _ _ => True) { world := w } s₀ ∧
    s₀.Gave r ∧ ApiRun auth (fun _ _ => True) s₀ s ∧
      ∀ n, c.fate = .served n → s₀.threads.length ≤ n

def Unforged (auth : AuthConfig) (w : World) (c : Sent BrowserCall) (s : ApiServer) : Prop :=
  c.call.headers = {} ∨ ∃ r, BearsSession auth w c s r

theorem Browser.Genuine.read (h : b.Genuine s) {x : StoredSession}
    (hx : readSession b.storage = some x) : ∃ r, s.Gave r ∧ x = r.stored := by
  cases hstorage : b.storage with
  | none =>
    rw [hstorage] at hx
    cases hx
  | some text =>
    obtain ⟨r, hgave, rfl⟩ := h.stored text hstorage
    rw [hstorage, readSession_stored] at hx
    exact ⟨r, hgave, (Option.some.inj hx).symm⟩

theorem Browser.Genuine.step (h : b.Genuine s)
    (step : Step ((api auth).program serve) Cmd.exec s m s') : b.Genuine s' where
  stored text htext := by
    obtain ⟨r, hgave, ht⟩ := h.stored text htext
    exact ⟨r, hgave.step step, ht⟩
  shown tab htab x hx := by
    obtain ⟨r, hgave, he⟩ := h.shown tab htab x hx
    exact ⟨r, hgave.step step, he⟩
  landed := h.landed

/-- What is known of one document. -/
structure Tab.Genuine (tab : Tab) (s : ApiServer) : Prop where
  shown : ∀ x, tab.session = some x → ∃ r, s.Gave r ∧ x = r.stored
  landed : tab.route.redirect? tab.session = none

theorem Browser.Genuine.tab (h : b.Genuine s) {i : Nat} {tab : Tab} (htab : b.tabs[i]? = some tab) :
    tab.Genuine s :=
  ⟨h.shown tab (List.mem_of_getElem? htab), h.landed tab (List.mem_of_getElem? htab)⟩

theorem Browser.Genuine.document (h : b.Genuine s) (route : Route) :
    (b.document route).Genuine s where
  shown _ hx := h.read hx
  landed := Route.redirect?_land _ route

/-- Tabs may come and go, as long as what is known of each holds of the new ones. -/
theorem Browser.Genuine.with {storage : Option String} {tabs : List Tab} {pages : Nat}
    (h : b.Genuine s) (hstored : ∀ text, storage = some text → ∃ r, s.Gave r ∧ text = r.stored.text)
    (htabs : ∀ tab ∈ tabs, tab ∈ b.tabs ∨ tab.Genuine s) :
    Browser.Genuine { storage := storage, tabs := tabs, pages := pages } s where
  stored := hstored
  shown tab htab := (htabs tab htab).elim (h.shown tab) fun g => g.shown
  landed tab htab := (htabs tab htab).elim (h.landed tab) fun g => g.landed

theorem Tab.Genuine.set {i : Nat} {tab : Tab} (htab : tab.Genuine s) :
    ∀ t ∈ b.tabs.set i tab, t ∈ b.tabs ∨ t.Genuine s := fun t ht =>
  (List.mem_or_eq_of_mem_set ht).imp_right fun he => by rwa [he]

/-- A call bears no session, or that of the storage, or that of its document. -/
theorem Tab.call?_headers {tab : Tab} {storage : Option String} {handler : Handler}
    {call : BrowserCall} (h : tab.call? storage handler = some call) :
    call.headers = {} ∨ ∃ x, (readSession storage = some x ∨ tab.session = some x) ∧
      call.headers = authorized x.token := by
  have stored : ∀ headers : AuthHeaders,
      headers = (readSession storage).elim {} (fun x => authorized x.token) →
      headers = {} ∨ ∃ x, (readSession storage = some x ∨ tab.session = some x) ∧
        headers = authorized x.token := by
    rintro _ rfl
    cases readSession storage with
    | none => exact .inl rfl
    | some x => exact .inr ⟨x, .inl rfl, rfl⟩
  cases handler with
  | liveness | enqueue => cases h
  | config =>
    cases h
    exact .inl rfl
  | login dto =>
    simp only [Tab.call?] at h
    split at h
    next =>
      cases h
      exact .inl rfl
    next => cases h
  | exchange dto =>
    simp only [Tab.call?] at h
    split at h
    next =>
      cases h
      exact .inl rfl
    next => cases h
  | exportCsv query =>
    obtain ⟨x, hx, rfl⟩ := Option.map_eq_some_iff.mp h
    exact .inr ⟨x, .inr hx, rfl⟩
  | _ =>
    cases h
    exact stored _ rfl

theorem Browser.Genuine.call (h : b.Genuine s) {i : Nat} {tab : Tab} {handler : Handler}
    {call : BrowserCall} (htab : b.tabs[i]? = some tab)
    (hcall : tab.call? b.storage handler = some call) :
    call.headers = {} ∨ ∃ r, s.Gave r ∧ call.headers = authorized r.token.text := by
  rcases Tab.call?_headers hcall with hnone | ⟨x, hstored | hshown, hheaders⟩
  · exact .inl hnone
  · obtain ⟨r, hgave, rfl⟩ := h.read hstored
    exact .inr ⟨r, hgave, hheaders⟩
  · obtain ⟨r, hgave, rfl⟩ := (h.tab htab).shown x hshown
    exact .inr ⟨r, hgave, hheaders⟩

theorem Browser.Genuine.act (h : b.Genuine s) {a : BrowserAct} {r : Browser × List BrowserCall}
    (hact : b.act a = some r) : r.1.Genuine s ∧ ∀ call ∈ r.2,
      call.headers = {} ∨ ∃ x, s.Gave x ∧ call.headers = authorized x.token.text := by
  have unstored : ∀ text, (none : Option String) = some text →
      ∃ r, s.Gave r ∧ text = r.stored.text := fun _ htext => by cases htext
  have silent : ∀ call ∈ ([] : List BrowserCall),
      call.headers = {} ∨ ∃ x, s.Gave x ∧ call.headers = authorized x.token.text :=
    fun _ hc => by cases hc
  cases a with
  | visit route =>
    cases hact
    refine ⟨h.with h.stored fun t ht => ?_, silent⟩
    rcases List.mem_append.mp ht with ht | ht
    · exact .inl ht
    · cases List.mem_singleton.mp ht
      exact .inr (h.document route)
  | reload i route =>
    obtain ⟨tab, htab, hact⟩ := Option.bind_eq_some_iff.mp hact
    split at hact
    next => cases hact
    next =>
      cases hact
      exact ⟨h.with h.stored (h.document route).set, silent⟩
  | close i =>
    cases hact
    exact ⟨h.with h.stored fun t ht => .inl (List.mem_of_mem_eraseIdx ht), silent⟩
  | navigate i route =>
    obtain ⟨tab, htab, rfl⟩ := Option.map_eq_some_iff.mp hact
    refine ⟨h.with h.stored (Tab.Genuine.set ?_), silent⟩
    exact ⟨(h.tab htab).shown, Route.redirect?_land _ route⟩
  | send i handler =>
    obtain ⟨tab, htab, hact⟩ := Option.bind_eq_some_iff.mp hact
    obtain ⟨call, hcall, rfl⟩ := Option.map_eq_some_iff.mp hact
    refine ⟨h, fun c hc => ?_⟩
    cases List.mem_singleton.mp hc
    exact h.call htab hcall
  | logout i =>
    obtain ⟨tab, htab, rfl⟩ := Option.map_eq_some_iff.mp hact
    exact ⟨h.with unstored (Tab.Genuine.set ⟨fun _ hx => (by cases hx), rfl⟩), silent⟩

theorem BrowserCall.session?_given {call : BrowserCall} {reply : Reply} {x : StoredSession}
    (h : call.session? reply = some x) :
    ∃ r, reply.body = .served (.session r) ∧ x = r.stored := by
  unfold BrowserCall.session? at h
  split at h
  next r _ hbody => exact ⟨r, hbody, (Option.some.inj h).symm⟩
  next r _ hbody => exact ⟨r, hbody, (Option.some.inj h).symm⟩
  next => cases h

theorem Browser.Genuine.signIn (h : b.Genuine s) {i : Nat} {tab : Tab} {r : SessionResult}
    (hgave : s.Gave r) (next : GuardedPath) : (b.signIn i tab r.stored next).Genuine s := by
  exact h.with (fun _ htext => ⟨r, hgave, (Option.some.inj htext).symm⟩)
    (Tab.Genuine.set ⟨fun _ hx => ⟨r, hgave, (Option.some.inj hx).symm⟩, Route.redirect?_land _ _⟩)

theorem Browser.Genuine.expel (h : b.Genuine s) {i : Nat} {tab : Tab}
    (htab : b.tabs[i]? = some tab) : (b.expel i tab).Genuine s := by
  refine h.with (fun _ htext => by cases htext) ?_
  split
  next => exact fun t ht => .inl ht
  next => exact Tab.Genuine.set ⟨(h.tab htab).shown, (h.tab htab).landed⟩

theorem Browser.Genuine.settle (h : b.Genuine s) {c : Sent BrowserCall}
    {r : Except (Option Err) Reply} (answer : ∀ v, r = .ok v → c.AnsweredBy s v) :
    (b.settle c.call r).Genuine s := by
  unfold Browser.settle
  split
  next => exact h
  next i _ =>
    cases htab : b.tabs[i]? with
    | none => exact h
    | some tab =>
      rw [Option.elim_some]
      split
      next reply =>
        cases hsession : c.call.session? reply with
        | none => exact h
        | some x =>
          obtain ⟨n, t, _, ht, hr⟩ := answer reply rfl
          obtain ⟨r, hbody, rfl⟩ := BrowserCall.session?_given hsession
          exact h.signIn ⟨n, t, reply, ht, hr, hbody⟩ c.call.next
      next =>
        split
        next => exact h.expel htab
        next => exact h
      next => exact h

theorem Unforged.of_given (run : ApiRun auth (fun _ _ => True) { world := w } s)
    {call : BrowserCall}
    (h : call.headers = {} ∨ ∃ r, s.Gave r ∧ call.headers = authorized r.token.text) :
    Unforged auth w (.new call s) s := by
  rcases h with hnone | ⟨r, hgave, hheaders⟩
  · exact .inl hnone
  · exact .inr ⟨r, hheaders, s, run, hgave, .start, nofun⟩

theorem Unforged.step {c : Sent BrowserCall} (h : Unforged auth w c s)
    (step : Step ((api auth).program serve) Cmd.exec s m s') : Unforged auth w c s' := by
  rcases h with hnone | ⟨r, hheaders, s₀, run, hgave, since, hafter⟩
  · exact .inl hnone
  · exact .inr ⟨r, hheaders, s₀, run, hgave, since.next trivial step, hafter⟩

theorem Unforged.delivered {c : Sent BrowserCall} (h : Unforged auth w c s)
    (step : Step ((api auth).program serve) Cmd.exec s m s') :
    Unforged auth w { c with fate := .served s.threads.length } s' := by
  rcases h with hnone | ⟨r, hheaders, s₀, run, hgave, since, _⟩
  · exact .inl hnone
  · refine .inr ⟨r, hheaders, s₀, run, hgave, since.next trivial step, ?_⟩
    rintro _ ⟨⟩
    exact since.threads_le

theorem Unforged.over {c : Sent BrowserCall} (h : Unforged auth w c s) :
    Unforged auth w { c with fate := .over } s := by
  rcases h with hnone | ⟨r, hheaders, s₀, run, hgave, since, _⟩
  · exact .inl hnone
  · exact .inr ⟨r, hheaders, s₀, run, hgave, since, nofun⟩

theorem Browser.genuine_concurrent (auth : AuthConfig) (w : World) :
    Browser.ui.Concurrent ((api auth).program serve) Cmd.exec
      (fun b s => ApiRun auth (fun _ _ => True) { world := w } s ∧ b.Genuine s)
      (Unforged auth w) where
  act := fun ⟨run, h⟩ hact =>
    ⟨⟨run, (h.act hact).1⟩, fun k hk => Unforged.of_given run ((h.act hact).2 k hk)⟩
  delivered h _ step := h.delivered step
  ends h := h.over
  settle := fun ⟨run, h⟩ _ _ answer => ⟨⟨run, h.settle answer⟩, fun _ hk => by cases hk⟩
  server := fun ⟨run, h⟩ step => ⟨run.next trivial step, h.step step⟩
  waits h step := h.step step

end Invariant

abbrev BrowserSession.api (s : BrowserSession) : ApiServer := s.server

/-- The next move is the answer to a call that bore no session. -/
def BrowserSession.answersBare (s : BrowserSession) (m : BrowserEvent) : Prop :=
  ∃ (i : Nat) (c : Sent BrowserCall), m = .answer i ∧ s.calls[i]? = some c ∧ c.call.headers = {}

/-- The sessions of a browser are those of the API, whoever bears one is taken for its user and not
refused, whoever bears none is refused, and none is lost but by a logout or by the refusal of a call
without one. -/
structure BrowserSession.Trustworthy (auth : AuthConfig) (s : BrowserSession) : Prop where
  stored : ∀ text, s.ui.storage = some text →
    ∃ r, s.api.Gave r ∧ readSession (some text) = some r.stored
  shown : ∀ tab ∈ s.ui.tabs, ∀ x, tab.session = some x → ∃ r, s.api.Gave r ∧ x = r.stored
  landed : ∀ tab ∈ s.ui.tabs, tab.route.redirect? tab.session = none
  links : ∀ tab ∈ s.ui.tabs, tab.session.isSome = true → ∀ item ∈ NAV_ITEMS,
    (item ∈ Sidebar.items tab.session ↔
      (Route.guarded item.target).land tab.session = .guarded item.target)
  bears : ∀ c ∈ s.calls, c.call.headers = {} ∨
    ∃ r, s.api.Gave r ∧ c.call.headers = authorized r.token.text ∧
      ∀ n user, c.fate = .served n → c.call.handler.isPublic = false →
        s.api.Identified n c.call.headers user →
          user.id = r.user.id ∧ user.email = r.user.email
  refused : ∀ c ∈ s.calls, ∀ (n : Nat) (y : ApiThread) r, c.fate = .served n →
    c.call.handler.isPublic = false → s.api.threads[n]? = some y →
      y.result? = some r → (answerStatus r = 401 ↔ c.call.headers = {})
  kept : ∀ (m : BrowserEvent) s', s.next auth m = some s' → s.ui.storage ≠ none →
    s'.ui.storage = none → (∃ i, m = .act (.logout i)) ∨ s.answersBare m
  stays : ∀ (m : BrowserEvent) s', s.next auth m = some s' → ∀ tab' ∈ s'.ui.tabs,
    tab'.leaving = true →
      (∃ tab ∈ s.ui.tabs, tab.page = tab'.page ∧ tab.leaving = true) ∨ s.answersBare m

section Trust

variable {auth : AuthConfig} {w : World} {s : BrowserSession}

theorem Handler.isPublic_of_clears {handler : Handler} (h : handler.clears = true) :
    handler.isPublic = false := by
  cases handler <;> first | rfl | cases h

/-- Nothing is taken away: the stored session, or a page. -/
structure Browser.Spares (b b' : Browser) : Prop where
  storage : b.storage ≠ none → b'.storage ≠ none
  leaving : ∀ tab' ∈ b'.tabs, tab'.leaving = true →
    ∃ tab ∈ b.tabs, tab.page = tab'.page ∧ tab.leaving = true

theorem Browser.Spares.refl (b : Browser) : b.Spares b :=
  ⟨id, fun tab htab hleaving => ⟨tab, htab, rfl, hleaving⟩⟩

/-- What a document becomes leaves no page, if it did not. -/
theorem Browser.leaving_set {b : Browser} {i : Nat} {tab tab' : Tab} (htab : b.tabs[i]? = some tab)
    (hsame : tab'.leaving = true → tab'.page = tab.page ∧ tab.leaving = true) :
    ∀ t ∈ b.tabs.set i tab', t.leaving = true →
      ∃ u ∈ b.tabs, u.page = t.page ∧ u.leaving = true := by
  intro t ht hleaving
  rcases List.mem_or_eq_of_mem_set ht with ht | rfl
  · exact ⟨t, ht, rfl, hleaving⟩
  · exact ⟨tab, List.mem_of_getElem? htab, (hsame hleaving).1.symm, (hsame hleaving).2⟩

theorem Browser.act_spares {b : Browser} {a : BrowserAct} {r : Browser × List BrowserCall}
    (h : b.act a = some r) : (∃ i, a = .logout i) ∧ (∀ t ∈ r.1.tabs, t.leaving = true →
      ∃ u ∈ b.tabs, u.page = t.page ∧ u.leaving = true) ∨ b.Spares r.1 := by
  cases a with
  | visit route =>
    cases h
    refine .inr ⟨id, fun t ht hleaving => ?_⟩
    rcases List.mem_append.mp ht with ht | ht
    · exact ⟨t, ht, rfl, hleaving⟩
    · cases List.mem_singleton.mp ht
      cases hleaving
  | reload i route =>
    obtain ⟨tab, htab, h⟩ := Option.bind_eq_some_iff.mp h
    split at h
    next => cases h
    next =>
      cases h
      exact .inr ⟨id, Browser.leaving_set htab fun hleaving => by cases hleaving⟩
  | close i =>
    cases h
    exact .inr ⟨id, fun t ht hleaving => ⟨t, List.mem_of_mem_eraseIdx ht, rfl, hleaving⟩⟩
  | navigate i route =>
    obtain ⟨tab, htab, rfl⟩ := Option.map_eq_some_iff.mp h
    exact .inr ⟨id, Browser.leaving_set htab fun hleaving => ⟨rfl, hleaving⟩⟩
  | send i handler =>
    obtain ⟨tab, htab, h⟩ := Option.bind_eq_some_iff.mp h
    obtain ⟨call, hcall, rfl⟩ := Option.map_eq_some_iff.mp h
    exact .inr (.refl b)
  | logout i =>
    obtain ⟨tab, htab, rfl⟩ := Option.map_eq_some_iff.mp h
    exact .inl ⟨⟨i, rfl⟩, Browser.leaving_set htab fun hleaving => ⟨rfl, hleaving⟩⟩

/-- An answer takes something away only if it is a 401 to a call through the client. -/
theorem Browser.settle_spares (b : Browser) (call : BrowserCall)
    (r : Except (Option Err) Reply) : b.Spares (b.settle call r) ∨
      ∃ e, r = .error (some e) ∧ e.status = 401 ∧ call.handler.clears = true := by
  unfold Browser.settle
  split
  next => exact .inl (.refl b)
  next i _ =>
    cases htab : b.tabs[i]? with
    | none => exact .inl (.refl b)
    | some tab =>
      rw [Option.elim_some]
      split
      next reply =>
        cases call.session? reply with
        | none => exact .inl (.refl b)
        | some x =>
          exact .inl ⟨fun _ => nofun, Browser.leaving_set htab fun hleaving => ⟨rfl, hleaving⟩⟩
      next e =>
        split
        next hstatus => exact .inr ⟨e, rfl, hstatus⟩
        next => exact .inl (.refl b)
      next => exact .inl (.refl b)

theorem ApiServer.Gave.later {u v : ApiServer} {ok : ApiServer → Move ApiCall Oracle → Prop}
    {r : SessionResult} (h : u.Gave r) (run : ApiRun auth ok u v) : v.Gave r := by
  induction run with
  | start => exact h
  | next _ _ step ih => exact ih.step step

/-- A call that bears a session is not refused, and is taken for one of its user. -/
theorem BearsSession.served {c : Sent BrowserCall} {v : ApiServer} {r : SessionResult} {n : Nat}
    {y : ApiThread} (h : BearsSession auth w c v r)
    (hids : ∀ u ∈ v.world.users.rows, u.id < 16 ^ 32) (hfate : c.fate = .served n)
    (hguarded : c.call.handler.isPublic = false) (hy : v.threads[n]? = some y)
    (hq : y.request = Browser.ui.request c.call) :
    (∀ e, y.result? = some (.error e) → e.Admits) ∧
      ∀ user, v.Identified n c.call.headers user →
        user.id = r.user.id ∧ user.email = r.user.email := by
  obtain ⟨hheaders, s₀, before, ⟨i, x, reply, hx, hr, hbody⟩, since, hafter⟩ := h
  obtain ⟨u, role, hu, hof⟩ := before.session_user hx hr hbody
  have hid : r.user.id < 16 ^ 32 := by
    obtain ⟨role', hlater⟩ := keepsUsers_of_reach since _ _ hu
    have hfound : v.world.users.lookup User.id u.id = some { u with role := role' } := hlater
    have huser : r.user.id = u.id := by rw [hof.user]
    rw [huser]
    exact hids { u with role := role' } (Table.lookup_mem hfound)
  have hrequest : y.request = .http c.call.headers c.call.handler := hq
  rw [hheaders] at hrequest ⊢
  have hn := hafter n hfate
  exact ⟨fun e => before.session_admitted since hu hof hid hn hy hrequest hguarded,
    fun user => before.session_identifies since hu hof hid hn hy hrequest hguarded⟩

/-- A guarded call is answered with 401 exactly if it bore no session. -/
theorem Unforged.refused {c : Sent BrowserCall} {v : ApiServer} {n : Nat} {y : ApiThread}
    {r : Except Err Reply} (h : Unforged auth w c v)
    (run : ApiRun auth (fun _ _ => True) { world := w } v)
    (hids : ∀ u ∈ v.world.users.rows, u.id < 16 ^ 32) (hfate : c.fate = .served n)
    (hguarded : c.call.handler.isPublic = false) (hy : v.threads[n]? = some y)
    (hq : y.request = Browser.ui.request c.call) (hr : y.result? = some r) :
    answerStatus r = 401 ↔ c.call.headers = {} := by
  rcases h with hnone | ⟨x, hbears⟩
  · refine iff_of_true ?_ hnone
    obtain ⟨message, hrefused⟩ := run.nameless_refused hy ⟨_, _, hq, hguarded, by rw [hnone]; rfl⟩
    cases hr.symm.trans hrefused
    rfl
  · refine iff_of_false ?_ fun hnone => by cases hbears.1.symm.trans hnone
    cases r with
    | error e => exact (hbears.served hids hfate hguarded hy hq).1 e hr
    | ok reply =>
      have hsuccess : reply.status < 300 := run.success_status hy hr
      show reply.status ≠ 401
      omega

/-- A move takes something away only if it is a logout, or the refusal of a call without a
session. -/
theorem BrowserSession.next_spares {s' : BrowserSession} {m : BrowserEvent}
    (refused : ∀ c ∈ s.calls, ∀ (n : Nat) (y : ApiThread) r, c.fate = .served n →
      c.call.handler.isPublic = false → s.api.threads[n]? = some y →
        y.result? = some r → (answerStatus r = 401 ↔ c.call.headers = {}))
    (hnext : s.next auth m = some s') :
    (∃ i, m = .act (.logout i)) ∧ (∀ t ∈ s'.ui.tabs, t.leaving = true →
      ∃ u ∈ s.ui.tabs, u.page = t.page ∧ u.leaving = true) ∨
      s.ui.Spares s'.ui ∨ s.answersBare m := by
  cases m with
  | act a =>
    obtain ⟨r, hr, rfl⟩ := Option.map_eq_some_iff.mp hnext
    rcases Browser.act_spares hr with ⟨⟨i, rfl⟩, hleaving⟩ | hspares
    · exact .inl ⟨⟨i, rfl⟩, hleaving⟩
    · exact .inr (.inl hspares)
  | deliver i =>
    simp only [BrowserSession.next, Client.next] at hnext
    split at hnext
    next =>
      obtain ⟨server, _, rfl⟩ := Option.map_eq_some_iff.mp hnext
      exact .inr (.inl (.refl s.ui))
    next => cases hnext
  | answer i =>
    simp only [BrowserSession.next, Client.next] at hnext
    split at hnext
    next call since n hc =>
      obtain ⟨r, hr, rfl⟩ := Option.map_eq_some_iff.mp hnext
      obtain ⟨y, hy, hr⟩ := Option.bind_eq_some_iff.mp hr
      refine .inr ((Browser.settle_spares s.ui call (r.mapError some)).imp id ?_)
      rintro ⟨e, he, hstatus, hclears⟩
      refine ⟨i, _, rfl, hc, ?_⟩
      cases r with
      | ok reply => cases he
      | error e' =>
        cases he
        exact (refused _ (List.mem_of_getElem? hc) n y (.error e) rfl
          (Handler.isPublic_of_clears hclears) hy hr).mp hstatus
    next => cases hnext
  | fail i =>
    simp only [BrowserSession.next, Client.next] at hnext
    split at hnext
    next c hc =>
      split at hnext
      next =>
        cases Option.some.inj hnext
        rcases Browser.settle_spares s.ui c.call (.error none) with hspares | ⟨e, he, _⟩
        · exact .inr (.inl hspares)
        · cases he
      next => cases hnext
    next => cases hnext
  | server m =>
    obtain ⟨server, _, rfl⟩ := Option.map_eq_some_iff.mp hnext
    exact .inr (.inl (.refl s.ui))

end Trust

/-- A browser in which nothing is stored yet, before an API that nobody has called. -/
def BrowserSession.opened (w : World) : BrowserSession where
  ui := {}
  server := { world := w }

/-- Whatever else the API does meanwhile, and whichever calls fail. -/
theorem browser_trustworthy {auth : AuthConfig} {w : World} {s : BrowserSession}
    (hs : Reactive.Runs (BrowserSession.next auth) (fun _ _ => true) (.opened w) s)
    (hids : ∀ u ∈ s.server.world.users.rows, u.id < 16 ^ 32) : s.Trustworthy auth := by
  have hopened : (BrowserSession.opened w).Keeps Browser.ui
      (fun b s => ApiRun auth (fun _ _ => True) { world := w } s ∧ b.Genuine s)
      (Unforged auth w) := by
    refine ⟨⟨.start, ⟨fun _ h => ?_, fun _ h => ?_, fun _ h => ?_⟩⟩, fun _ h => ?_, fun _ h => ?_⟩
    all_goals cases h
  obtain ⟨⟨run, genuine⟩, calls, _⟩ :=
    Client.runs_keep (Browser.genuine_concurrent auth w) hopened hs
  have refused : ∀ c ∈ s.calls, ∀ (n : Nat) (y : ApiThread) r, c.fate = .served n →
      c.call.handler.isPublic = false → s.api.threads[n]? = some y →
        y.result? = some r → (answerStatus r = 401 ↔ c.call.headers = {}) := by
    intro c hc n y r hfate hguarded hy hr
    obtain ⟨tracked, unforged⟩ := calls c hc
    obtain ⟨y', hy', hq⟩ := tracked.serves n hfate
    cases hy'.symm.trans hy
    exact unforged.refused run hids hfate hguarded hy hq hr
  refine ⟨fun text htext => ?_, genuine.shown, genuine.landed, fun tab htab hsome => ?_,
    fun c hc => ?_, refused, fun m s' hnext hstored hgone => ?_,
    fun m s' hnext tab' htab' hleaving => ?_⟩
  · obtain ⟨r, hgave, rfl⟩ := genuine.stored text htext
    exact ⟨r, hgave, readSession_stored r⟩
  · obtain ⟨x, hx⟩ := Option.isSome_iff_exists.mp hsome
    obtain ⟨r, _, rfl⟩ := genuine.shown tab htab x hx
    rw [hx]
    exact fun item hitem => Sidebar.mem_items r hitem
  · obtain ⟨tracked, hnone | ⟨r, hbears⟩⟩ := calls c hc
    · exact .inl hnone
    · obtain ⟨hheaders, s₀, _, hgave, since, _⟩ := id hbears
      refine .inr ⟨r, hgave.later since, hheaders, fun n user hfate hguarded => ?_⟩
      obtain ⟨y, hy, hq⟩ := tracked.serves n hfate
      exact (hbears.served hids hfate hguarded hy hq).2 user
  · rcases BrowserSession.next_spares refused hnext with ⟨hlogout, _⟩ | hspares | hbare
    · exact .inl hlogout
    · exact absurd hgone (hspares.storage hstored)
    · exact .inr hbare
  · rcases BrowserSession.next_spares refused hnext with ⟨_, hsame⟩ | hspares | hbare
    · exact .inl (hsame tab' htab' hleaving)
    · exact .inl (hspares.leaving tab' htab' hleaving)
    · exact .inr hbare

namespace Sample

/-- A user who asks for the reports is sent to the login, logs in and comes to them. He opens the
tickets in a second tab, downloads the report in the first and logs out there; the second asks for
the tickets again. -/
def signingOut : List BrowserEvent :=
  [.act (.visit (.guarded .reports)),
    .act (.send 0 (.login (some doraLogin))), .deliver 0] ++
    (apiSteps 0 0 2).map .server ++ [.answer 0, .act (.visit (.guarded .tickets)),
    .act (.send 0 (.exportCsv (some everyReport))), .deliver 1, .act (.logout 0),
    .act (.send 1 (.list (some openOnes))), .deliver 2, .answer 2]

def signedOut? : Option BrowserSession :=
  Reactive.replay (BrowserSession.next {}) (fun _ _ => true) signingOut (.opened world)

theorem signedOut_isSome : signedOut?.isSome := by decide +kernel

def signedOut : BrowserSession := signedOut?.get signedOut_isSome

theorem signedOut_runs : Reactive.Runs (BrowserSession.next {}) (fun _ _ => true) (.opened world)
    signedOut :=
  .of_replay (Option.some_get _).symm .start

end Sample

theorem browser_trustworthy_signedOut : Sample.signedOut.Trustworthy {} :=
  browser_trustworthy Sample.signedOut_runs (by decide +kernel)

/-- The download bore the session, and the refused call bore none. -/
example : Sample.signedOut.ui.tabs.map (fun tab => (tab.route, tab.leaving)) =
    [(.login none, false), (.guarded .tickets, true)] ∧
    Sample.signedOut.calls.map (fun c => decide (c.call.headers = {})) = [true, false, true] := by
  decide +kernel

end TicketSystem
