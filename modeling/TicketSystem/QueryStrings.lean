import Mathlib.Data.List.TakeWhile
import TicketSystem.IsoDates
import TicketSystem.Lib.FormUrl

namespace TicketSystem

inductive QueryValue where
  | string (s : String)
  | number (n : Nat)
  | boolean (b : Bool)
  deriving DecidableEq, Repr

/-- `String(value)` -/
def QueryValue.text : QueryValue → String
  | .string s => s
  | .number n => toString n
  | .boolean b => toString b

/-- The entries of the object, in their order; `null` and `undefined` are none. -/
abbrev QueryParams := List (String × Option QueryValue)

/-- `URLSearchParams.set` -/
def searchSet (search : List (String × String)) (name value : String) : List (String × String) :=
  search.takeWhile (·.1 ≠ name) ++
    (name, value) :: (search.dropWhile (·.1 ≠ name)).filter (·.1 ≠ name)

def appendParam (search : List (String × String)) (entry : String × Option QueryValue) :
    List (String × String) :=
  match entry.2 with
  | none => search
  | some value => if value = .string "" then search else searchSet search entry.1 value.text

def formField (entry : String × String) : FormUrl.Field := (entry.1.toList, entry.2.toList)

def buildQueryString (params : QueryParams) : String :=
  let search := params.foldl appendParam []
  let qs := FormUrl.serialize (search.map formField)
  if qs = [] then "" else String.ofList ('?' :: qs)

def API_PREFIX : String := "/v1"

/-- The target of a request; the origin of the API is left out. -/
def apiUrl (path : String) (params : QueryParams) : String :=
  API_PREFIX ++ path ++ buildQueryString params

/-! ### What the server makes of it -/

/-- What Express reads from a query that is flat, what `validator` says of a date, and what
JavaScript makes of a number that has other characters than digits and of a date in another
format than its own. -/
structure Wire where
  qs : List Char → List (String × String)
  isISO8601 : String → Bool
  otherNumber : String → Option Nat
  otherDate : String → JsDate

/-- The fields of a form that has names of letters, each of them once. -/
structure PlainForm (cs : List Char) (fields : List FormUrl.Field) : Prop where
  flat : '[' ∉ cs ∧ ']' ∉ cs
  reads : FormUrl.parse? cs = some fields
  letters : ∀ f ∈ fields, f.1 ≠ [] ∧ ∀ c ∈ f.1, c.isAlpha = true
  nodup : (fields.map Prod.fst).Nodup
  size : fields.length ≤ 1000

/-- What the documentation says: a flat query is read as the form it is, and a date of four digits
for its year, with a time in milliseconds, is one of ISO 8601. -/
structure Wire.Documented (w : Wire) : Prop where
  empty : w.qs [] = []
  plain : ∀ cs fields, PlainForm cs fields →
    w.qs cs = fields.map fun f => (String.ofList f.1, String.ofList f.2)
  date : ∀ s t, isoTime? s.toList = some t → s.toList.head?.any Char.isDigit = true →
    w.isISO8601 s = true

/-- The path of a target, and its query. -/
def splitTarget (target : List Char) : List Char × List Char :=
  (Url.cut '?' target).getD (target, [])

/-- `Number(value)`, if it is a natural number. -/
def Wire.number (w : Wire) (s : String) : Option Nat :=
  if s.toList.all Char.isDigit then some (Nat.ofDigitChars 10 s.toList 0) else w.otherNumber s

/-- `new Date(value)` -/
def Wire.newDate (w : Wire) (s : String) : JsDate :=
  match isoTime? s.toList with
  | some t => if t.natAbs ≤ 8640000000000000 then .time t else .invalid
  | none => w.otherDate s

/-- `@IsOptional()` before a rule -/
def optional {α : Type} (rule : String → Option α) : Option String → Option (Option α)
  | none => some none
  | some value => (rule value).map some

/-- `@IsIn(...)` -/
def isIn {α : Type} (values : List α) (text : α → String) (value : String) : Option α :=
  values.find? fun x => text x = value

/-- `@MaxLength(n)` -/
def maxLength (n : Nat) (value : String) : Option {s : String // validatorLength s ≤ n} :=
  if h : validatorLength value ≤ n then some ⟨value, h⟩ else none

/-- `@Type(() => Number) @IsInt() @Min(low) @Max(high)`, of a `low` that is no less than one -/
def intBetween (w : Wire) (low high : Nat) (value : String) :
    Option {n : Nat // low ≤ n ∧ n ≤ high} :=
  (w.number value).bind fun n => if h : low ≤ n ∧ n ≤ high then some ⟨n, h⟩ else none

/-- `@IsISO8601()`, and what the service makes of the text -/
def isoDate (w : Wire) (value : String) : Option JsDate :=
  if w.isISO8601 value then some (w.newDate value) else none

/-- `forbidNonWhitelisted` -/
def declared (names : List String) (query : List (String × String)) : Option Unit :=
  if query.all (names.contains ·.1) then some () else none

theorem of_checked {α : Type} {p : α → Prop} {x : Option {a : α // p a}} (a : α)
    (h : x.map Subtype.val = some a) : p a := by
  obtain ⟨y, _, rfl⟩ := Option.map_eq_some_iff.mp h
  exact y.2

def STATUSES : List TicketStatus := [.abierto, .enProgreso, .resuelto]

def PRIORITIES : List Priority := [.critica, .alta, .media, .baja]

/-- The `ListTicketsQuery` of a query, nothing if it breaks a rule. -/
def ListTicketsQuery.read (w : Wire) (query : List (String × String)) :
    Option ListTicketsQuery := do
  declared ["status", "priority", "assigneeId", "severity", "createdFrom", "createdTo", "q",
    "cursor", "limit"] query
  let status ← optional (isIn STATUSES TicketStatus.text) (query.lookup "status")
  let priority ← optional (isIn PRIORITIES Priority.text) (query.lookup "priority")
  let assigneeId ← optional (maxLength 64) (query.lookup "assigneeId")
  let severity ← optional (intBetween w 1 4) (query.lookup "severity")
  let createdFrom ← optional (isoDate w) (query.lookup "createdFrom")
  let createdTo ← optional (isoDate w) (query.lookup "createdTo")
  let q ← optional (maxLength 200) (query.lookup "q")
  let limit ← optional (intBetween w 1 100) (query.lookup "limit")
  some { status, priority
         assigneeId := assigneeId.map Subtype.val
         severity := severity.map Subtype.val
         createdFrom, createdTo
         q := q.map Subtype.val
         cursor := query.lookup "cursor"
         limit := limit.map Subtype.val
         assigneeIdLength := of_checked
         severityRange := of_checked
         qLength := of_checked
         limitRange := of_checked }

def ListEventsQuery.read (w : Wire) (query : List (String × String)) : Option ListEventsQuery := do
  declared ["cursor", "limit"] query
  let limit ← optional (intBetween w 1 100) (query.lookup "limit")
  some { cursor := query.lookup "cursor", limit := limit.map Subtype.val, limitRange := of_checked }

def ReportQuery.read (w : Wire) (query : List (String × String)) : Option ReportQuery := do
  declared ["from", "to", "priority", "assigneeId"] query
  let resolvedFrom ← optional (isoDate w) (query.lookup "from")
  let resolvedTo ← optional (isoDate w) (query.lookup "to")
  let priority ← optional (isIn PRIORITIES Priority.text) (query.lookup "priority")
  let assigneeId ← optional (maxLength 64) (query.lookup "assigneeId")
  some { resolvedFrom, resolvedTo, priority
         assigneeId := assigneeId.map Subtype.val
         assigneeIdLength := of_checked }

/-- The text of a value, if it is written. -/
def written (value : Option QueryValue) : Option String :=
  value.bind fun v => if v = .string "" then none else some v.text

def presentParam (entry : String × Option QueryValue) : Option (String × String) :=
  (written entry.2).map fun text => (entry.1, text)

def present (params : QueryParams) : List (String × String) := params.filterMap presentParam

theorem name_of_presentParam {param : String × Option QueryValue} {entry : String × String}
    (h : presentParam param = some entry) : entry.1 = param.1 := by
  obtain ⟨text, _, rfl⟩ := Option.map_eq_some_iff.mp h
  rfl

theorem name_of_present {params : QueryParams} {entry : String × String}
    (h : entry ∈ present params) : entry.1 ∈ params.map Prod.fst := by
  obtain ⟨param, hparam, hpresent⟩ := List.mem_filterMap.mp h
  rw [name_of_presentParam hpresent]
  exact List.mem_map_of_mem hparam

theorem searchSet_new {search : List (String × String)} {name : String}
    (h : name ∉ search.map Prod.fst) (value : String) :
    searchSet search name value = search ++ [(name, value)] := by
  have hall : ∀ entry ∈ search, decide (entry.1 ≠ name) = true := by
    intro entry hentry
    rw [decide_eq_true_eq]
    rintro rfl
    exact h (List.mem_map_of_mem hentry)
  rw [searchSet, List.takeWhile_eq_self_iff.mpr hall, List.dropWhile_eq_nil_iff.mpr hall,
    List.filter_nil]

/-- Entries that have different names are written one after the other. -/
theorem foldl_appendParam {params : QueryParams} (hparams : (params.map Prod.fst).Nodup)
    (search : List (String × String)) (hnew : ∀ name ∈ params.map Prod.fst,
      name ∉ search.map Prod.fst) :
    params.foldl appendParam search = search ++ present params := by
  induction params generalizing search with
  | nil => rw [List.foldl_nil, present, List.filterMap_nil, List.append_nil]
  | cons param params ih =>
    obtain ⟨name, value⟩ := param
    rw [List.map_cons, List.nodup_cons] at hparams
    obtain ⟨hname, hrest⟩ := hparams
    have hfirst := hnew name List.mem_cons_self
    have hlater := fun n hn => hnew n (List.mem_cons_of_mem name hn)
    rw [List.foldl_cons]
    by_cases hwritten : ∃ v, value = some v ∧ v ≠ .string ""
    · obtain ⟨v, rfl, hv⟩ := hwritten
      have hparam : presentParam (name, some v) = some (name, v.text) := by
        rw [presentParam, written, Option.bind_some, if_neg hv, Option.map_some]
      have happend : appendParam search (name, some v) = search ++ [(name, v.text)] := by
        show (if v = .string "" then search else searchSet search name v.text) = _
        rw [if_neg hv, searchSet_new hfirst]
      rw [happend, ih hrest, present, present, List.filterMap_cons_some hparam, List.append_assoc,
        List.singleton_append]
      intro n hn hmem
      rw [List.map_append, List.mem_append] at hmem
      rcases hmem with hmem | hmem
      · exact hlater n hn hmem
      · rw [List.map_singleton, List.mem_singleton] at hmem
        exact hname (hmem ▸ hn)
    · have hparam : presentParam (name, value) = none ∧
          appendParam search (name, value) = search := by
        cases value with
        | none => exact ⟨rfl, rfl⟩
        | some v =>
          have hv : v = .string "" := by
            by_contra hv
            exact hwritten ⟨v, rfl, hv⟩
          subst hv
          exact ⟨rfl, rfl⟩
      rw [hparam.2, ih hrest search hlater, present, present, List.filterMap_cons_none hparam.1]

theorem nodup_present {params : QueryParams} (h : (params.map Prod.fst).Nodup) :
    ((present params).map Prod.fst).Nodup := by
  induction params with
  | nil => exact List.nodup_nil
  | cons param params ih =>
    rw [List.map_cons, List.nodup_cons] at h
    cases hparam : presentParam param with
    | none =>
      rw [present, List.filterMap_cons_none hparam]
      exact ih h.2
    | some entry =>
      rw [present, List.filterMap_cons_some hparam, List.map_cons, List.nodup_cons]
      refine ⟨fun hmem => ?_, ih h.2⟩
      obtain ⟨other, hother, hsame⟩ := List.mem_map.mp hmem
      have hname := name_of_present hother
      rw [hsame, name_of_presentParam hparam] at hname
      exact h.1 hname

/-- The value of a name is the text that was written for it. -/
theorem lookup_present {params : QueryParams} (h : (params.map Prod.fst).Nodup) (name : String) :
    (present params).lookup name = (params.lookup name).bind written := by
  induction params with
  | nil => rfl
  | cons param params ih =>
    obtain ⟨key, value⟩ := param
    rw [List.map_cons, List.nodup_cons] at h
    have hrest := ih h.2
    by_cases hname : name = key
    · subst hname
      rw [List.lookup_cons_self, Option.bind_some]
      cases hvalue : written value with
      | none =>
        have hparam : presentParam (name, value) = none := by
          rw [presentParam, hvalue, Option.map_none]
        rw [present, List.filterMap_cons_none hparam]
        refine List.lookup_eq_none_iff.mpr fun entry hentry => ?_
        have hmem := name_of_present hentry
        rw [bne_iff_ne]
        rintro rfl
        exact h.1 hmem
      | some text =>
        have hparam : presentParam (name, value) = some (name, text) := by
          rw [presentParam, hvalue, Option.map_some]
        rw [present, List.filterMap_cons_some hparam]
        exact List.lookup_cons_self
    · rw [List.lookup_cons, beq_false_of_ne hname]
      cases hparam : presentParam (key, value) with
      | none =>
        rw [present, List.filterMap_cons_none hparam]
        exact hrest
      | some entry =>
        rw [present, List.filterMap_cons_some hparam, List.lookup_cons,
          name_of_presentParam hparam, beq_false_of_ne hname]
        exact hrest

theorem declared_present {names : List String} {params : QueryParams}
    (h : ∀ name ∈ params.map Prod.fst, name ∈ names) :
    declared names (present params) = some () := by
  refine if_pos (List.all_eq_true.mpr fun entry hentry => ?_)
  exact List.contains_iff_mem.mpr (h entry.1 (name_of_present hentry))

theorem written_string {α : Type} {text : α → String} {x : Option α}
    (h : ∀ a, x = some a → text a ≠ "") :
    written (x.map fun a => .string (text a)) = x.map text := by
  cases x with
  | none => rfl
  | some a =>
    have hne : QueryValue.string (text a) ≠ .string "" :=
      fun he => h a rfl (QueryValue.string.inj he)
    show (if _ then none else some _) = _
    rw [if_neg hne]
    rfl

theorem written_number (x : Option Nat) : written (x.map .number) = x.map toString := by
  cases x with
  | none => rfl
  | some n => rfl

section Read

variable {w : Wire}

/-- The names of letters, each of them once, that a client may use. -/
structure PlainNames (params : QueryParams) : Prop where
  letters : ∀ name ∈ params.map Prod.fst, name.toList ≠ [] ∧ ∀ c ∈ name.toList, c.isAlpha = true
  nodup : (params.map Prod.fst).Nodup
  size : params.length ≤ 1000

theorem plainForm_present {params : QueryParams} (h : PlainNames params)
    (hsome : present params ≠ []) :
    PlainForm (FormUrl.serialize ((present params).map formField))
      ((present params).map formField) where
  flat := ⟨FormUrl.notMem_serialize (by decide) (by decide) (by decide) (by decide) (by decide) _,
    FormUrl.notMem_serialize (by decide) (by decide) (by decide) (by decide) (by decide) _⟩
  reads := FormUrl.parse?_serialize (by simpa using hsome)
  letters := by
    intro f hf
    obtain ⟨entry, hentry, rfl⟩ := List.mem_map.mp hf
    exact h.letters entry.1 (name_of_present hentry)
  nodup := by
    have hnodup : ((present params).map Prod.fst).Nodup := nodup_present h.nodup
    have hnames : ((present params).map formField).map Prod.fst =
        ((present params).map Prod.fst).map String.toList := by
      rw [List.map_map, List.map_map]
      rfl
    rw [hnames]
    exact List.Pairwise.map String.toList (fun a b hne he => hne (String.toList_inj.mp he)) hnodup
  size := by
    rw [List.length_map]
    exact Nat.le_trans (List.length_filterMap_le _ _) h.size

theorem buildQueryString_eq {params : QueryParams} (h : PlainNames params) :
    (buildQueryString params).toList = if present params = [] then []
      else '?' :: FormUrl.serialize ((present params).map formField) := by
  have hsearch := foldl_appendParam h.nodup [] fun _ _ => List.not_mem_nil
  rw [List.nil_append] at hsearch
  unfold buildQueryString
  rw [hsearch]
  by_cases hnone : present params = []
  · rw [hnone]
    rfl
  · have hsome : FormUrl.serialize ((present params).map formField) ≠ [] :=
      FormUrl.serialize_ne_nil (by simpa using hnone)
    rw [if_neg hnone]
    show (if _ = [] then "" else _).toList = _
    rw [if_neg hsome, String.toList_ofList]

/-- What the client writes is what the server reads, after the path. -/
theorem Wire.Documented.reads (documented : w.Documented) {params : QueryParams}
    (h : PlainNames params) {path : List Char} (hpath : '?' ∉ path) {target : List Char × List Char}
    (htarget : splitTarget (path ++ (buildQueryString params).toList) = target) :
    target.1 = path ∧ w.qs target.2 = present params := by
  subst htarget
  rw [buildQueryString_eq h]
  by_cases hnone : present params = []
  · rw [if_pos hnone, List.append_nil, splitTarget, Url.cut_of_notMem hpath, Option.getD_none,
      hnone]
    exact ⟨rfl, documented.empty⟩
  · rw [if_neg hnone, splitTarget, Url.cut_append hpath, Option.getD_some]
    refine ⟨rfl, (documented.plain _ _ (plainForm_present h hnone)).trans ?_⟩
    rw [List.map_map]
    have hsame : ∀ entry ∈ present params,
        ((fun f : FormUrl.Field => (String.ofList f.1, String.ofList f.2)) ∘ formField) entry =
          entry := by
      intro entry _
      show (String.ofList entry.1.toList, String.ofList entry.2.toList) = entry
      rw [String.ofList_toList, String.ofList_toList]
    exact (List.map_congr_left hsame).trans (List.map_id _)

theorem optional_map {α : Type} {rule : String → Option α} {text : α → String}
    (h : ∀ a, rule (text a) = some a) (x : Option α) : optional rule (x.map text) = some x := by
  cases x with
  | none => rfl
  | some a =>
    show (rule (text a)).map some = _
    rw [h, Option.map_some]

theorem isIn_status (s : TicketStatus) : isIn STATUSES TicketStatus.text s.text = some s := by
  cases s
  all_goals decide

theorem isIn_priority (p : Priority) : isIn PRIORITIES Priority.text p.text = some p := by
  cases p
  all_goals decide

theorem Wire.number_toString (w : Wire) (n : Nat) : w.number (toString n) = some n := by
  have hdigits : (toString n).toList = Nat.toDigits 10 n := Nat.toList_repr
  have hall : (Nat.toDigits 10 n).all Char.isDigit = true :=
    List.all_eq_true.mpr fun c hc => Nat.isDigit_of_mem_toDigits (by decide) (by decide) hc
  rw [Wire.number, hdigits, if_pos hall, Nat.ofDigitChars_ten_toDigits]

theorem Wire.Documented.isoDate_toISOString (documented : w.Documented) {t : Time}
    (h : 0 ≤ Time.year t ∧ Time.year t ≤ 9999) : isoDate w (toISOString t) = some (.time t) := by
  have hbound := natAbs_of_year h
  have hreads := isoTime?_toISOString hbound
  have haccepted := documented.date _ _ hreads (head_toISOString h)
  rw [isoDate, if_pos haccepted, Wire.newDate, hreads]
  show some (if _ then _ else _) = _
  rw [if_pos hbound]

theorem optional_checked {α : Type} {p : α → Prop} {rule : String → Option {a : α // p a}}
    {text : α → String} (h : ∀ a (ha : p a), rule (text a) = some ⟨a, ha⟩) {x : Option α}
    (hx : ∀ a, x = some a → p a) :
    ∃ y, optional rule (x.map text) = some y ∧ y.map Subtype.val = x := by
  cases x with
  | none => exact ⟨none, rfl, rfl⟩
  | some a =>
    refine ⟨some ⟨a, hx a rfl⟩, ?_, rfl⟩
    show (rule (text a)).map some = _
    rw [h a (hx a rfl), Option.map_some]

theorem optional_maxLength {n : Nat} {x : Option String}
    (hx : ∀ s, x = some s → validatorLength s ≤ n) :
    ∃ y, optional (maxLength n) x = some y ∧ y.map Subtype.val = x := by
  have hrule : ∀ s (h : validatorLength s ≤ n), maxLength n (id s) = some ⟨s, h⟩ :=
    fun _ h => dif_pos h
  have hchecked := optional_checked hrule hx
  rwa [Option.map_id] at hchecked

theorem intBetween_toString {low high : Nat} (n : Nat) (h : low ≤ n ∧ n ≤ high) :
    intBetween w low high (toString n) = some ⟨n, h⟩ := by
  rw [intBetween, Wire.number_toString, Option.bind_some, dif_pos h]

/-- The values of a query are the texts of the fields. -/
structure ListTicketsQuery.ReadAs (x : ListTicketsQuery) (w : Wire)
    (query : List (String × String)) : Prop where
  names : declared ["status", "priority", "assigneeId", "severity", "createdFrom", "createdTo", "q",
    "cursor", "limit"] query = some ()
  status : query.lookup "status" = x.status.map TicketStatus.text
  priority : query.lookup "priority" = x.priority.map Priority.text
  assigneeId : query.lookup "assigneeId" = x.assigneeId
  severity : query.lookup "severity" = x.severity.map toString
  createdFrom : optional (isoDate w) (query.lookup "createdFrom") = some x.createdFrom
  createdTo : optional (isoDate w) (query.lookup "createdTo") = some x.createdTo
  q : query.lookup "q" = x.q
  cursor : query.lookup "cursor" = x.cursor
  limit : query.lookup "limit" = x.limit.map toString

theorem ListTicketsQuery.ReadAs.read {x : ListTicketsQuery} {query : List (String × String)}
    (h : x.ReadAs w query) : ListTicketsQuery.read w query = some x := by
  have hstatus := optional_map isIn_status x.status
  have hpriority := optional_map isIn_priority x.priority
  obtain ⟨assigneeId, hassigneeId, hsameA⟩ := optional_maxLength x.assigneeIdLength
  obtain ⟨severity, hseverity, hsameS⟩ := 
    optional_checked (intBetween_toString (w := w)) x.severityRange
  obtain ⟨q, hq, hsameQ⟩ := optional_maxLength x.qLength
  obtain ⟨limit, hlimit, hsameL⟩ := optional_checked (intBetween_toString (w := w)) x.limitRange
  simp only [ListTicketsQuery.read, h.names, h.status, h.priority, h.assigneeId, h.severity,
    h.createdFrom, h.createdTo, h.q, h.cursor, h.limit, hstatus, hpriority, hassigneeId, hseverity,
    hq, hlimit, hsameA, hsameS, hsameQ, hsameL, Option.bind_eq_bind, Option.bind_some]

structure ListEventsQuery.ReadAs (x : ListEventsQuery) (query : List (String × String)) : Prop where
  names : declared ["cursor", "limit"] query = some ()
  cursor : query.lookup "cursor" = x.cursor
  limit : query.lookup "limit" = x.limit.map toString

theorem ListEventsQuery.ReadAs.read {x : ListEventsQuery} {query : List (String × String)}
    (h : x.ReadAs query) : ListEventsQuery.read w query = some x := by
  obtain ⟨limit, hlimit, hsame⟩ := optional_checked (intBetween_toString (w := w)) x.limitRange
  simp only [ListEventsQuery.read, h.names, h.cursor, h.limit, hlimit, hsame, Option.bind_eq_bind,
    Option.bind_some]

structure ReportQuery.ReadAs (x : ReportQuery) (w : Wire) (query : List (String × String)) :
    Prop where
  names : declared ["from", "to", "priority", "assigneeId"] query = some ()
  resolvedFrom : optional (isoDate w) (query.lookup "from") = some x.resolvedFrom
  resolvedTo : optional (isoDate w) (query.lookup "to") = some x.resolvedTo
  priority : query.lookup "priority" = x.priority.map Priority.text
  assigneeId : query.lookup "assigneeId" = x.assigneeId

theorem ReportQuery.ReadAs.read {x : ReportQuery} {query : List (String × String)}
    (h : x.ReadAs w query) : ReportQuery.read w query = some x := by
  have hpriority := optional_map isIn_priority x.priority
  obtain ⟨assigneeId, hassigneeId, hsame⟩ := optional_maxLength x.assigneeIdLength
  simp only [ReportQuery.read, h.names, h.resolvedFrom, h.resolvedTo, h.priority, h.assigneeId,
    hpriority, hassigneeId, hsame, Option.bind_eq_bind, Option.bind_some]

/-- A query that is read keeps the rules of its number and of its text. -/
theorem ListTicketsQuery.read_rules {query : List (String × String)} {x : ListTicketsQuery}
    (h : ListTicketsQuery.read w query = some x) :
    (∀ n, query.lookup "severity" = some (toString n) → 1 ≤ n ∧ n ≤ 4) ∧
      ∀ s, query.lookup "q" = some s → validatorLength s ≤ 200 := by
  simp only [ListTicketsQuery.read, Option.bind_eq_bind, Option.bind_eq_some_iff] at h
  obtain ⟨_, _, _, _, _, _, _, _, severity, hseverity, _, _, _, _, q, hq, _⟩ := h
  constructor
  · intro n hn
    rw [hn] at hseverity
    obtain ⟨y, hy, _⟩ := Option.map_eq_some_iff.mp hseverity
    rw [intBetween, Wire.number_toString, Option.bind_some] at hy
    split at hy
    next hrange => exact hrange
    next => cases hy
  · intro s hs
    rw [hs] at hq
    obtain ⟨y, hy, _⟩ := Option.map_eq_some_iff.mp hq
    unfold maxLength at hy
    split at hy
    next hlength => exact hlength
    next => cases hy

end Read

end TicketSystem
