import TicketSystem.Json
import TicketSystem.Lib.Csv
import TicketSystem.ReportsService

namespace TicketSystem

structure EventActorJson where
  email : String
  role : String
  deriving DecidableEq, Repr

/-- An event as the page has it, with the JSON of its properties. -/
structure TicketEventJson where
  actorId : String
  eventType : String
  payload : Option (List (String × JsonField)) := none
  createdAt : String
  actor : Option EventActorJson := none
  deriving DecidableEq, Repr

def EVENT_LABELS : List (String × String) :=
  [("ticket_creado", "Ticket creado"), ("asignacion", "Asignación"),
    ("cambio_estado", "Cambio de estado"), ("resolucion", "Resolución"),
    ("escalamiento", "Escalamiento"), ("comentario", "Comentario"),
    ("adjunto_agregado", "Adjunto agregado"), ("adjunto_descargado", "Adjunto descargado")]

def PAYLOAD_KEY_LABELS : List (String × String) :=
  [("from", "De"), ("to", "A"), ("fromState", "Estado anterior"), ("toState", "Estado nuevo"),
    ("targetState", "Estado destino"), ("previousState", "Estado anterior"),
    ("assigneeId", "Asignado a"), ("previousAssigneeId", "Asignado anterior"),
    ("rootCause", "Causa raíz"), ("solution", "Solución"), ("priority", "Prioridad"),
    ("severity", "Severidad"), ("impact", "Impacto"), ("level", "Nivel"),
    ("escalationLevel", "Nivel de escalamiento"), ("attachmentId", "Adjunto"),
    ("filename", "Archivo"), ("comment", "Comentario"), ("message", "Comentario"),
    ("ticketNumber", "Ticket"), ("slaDueAt", "SLA vence")]

def nativeFunction (name : String) : String := "function " ++ name ++ "() \x7b [native code] \x7d"

/-- The text of what every object inherits under a name. -/
def inheritedText (key : String) : Option String :=
  if key = "constructor" then some (nativeFunction "Object")
  else if key = "__proto__" then some "[object Object]"
  else if key ∈ ["toString", "toLocaleString", "valueOf", "hasOwnProperty", "isPrototypeOf",
      "propertyIsEnumerable", "__defineGetter__", "__defineSetter__", "__lookupGetter__",
      "__lookupSetter__"] then some (nativeFunction key)
  else none

/-- `labels[key] ?? key` -/
def labelOf (labels : List (String × String)) (key : String) : String :=
  (labels.lookup key <|> inheritedText key).getD key

/-- Neither null nor the empty string. -/
def JsonField.isShown : JsonField → Bool
  | .string s => s ≠ ""
  | .other json => json ≠ "null"

def JsonField.shown : JsonField → String
  | .string s => s
  | .other json => json

def payloadEntries (payload : Option (List (String × JsonField))) : List (String × String) :=
  match payload with
  | none => []
  | some fields => (fields.filter fun (_, value) => value.isShown).map fun (key, value) =>
      (labelOf PAYLOAD_KEY_LABELS key, value.shown)

def csvEscape (value : String) : String :=
  if value.toList.any (fun c => c == '"' || c == ',' || c == '\n' || c == '\r') then
    "\"" ++ String.ofList (value.toList.flatMap fun c => if c = '"' then ['"', '"'] else [c]) ++
      "\""
  else value

def EVENTS_HEADER : List String := ["fecha", "tipo_evento", "actor_email", "actor_rol", "detalle"]

def eventRow (e : TicketEventJson) : List String :=
  [e.createdAt, labelOf EVENT_LABELS e.eventType, (e.actor.map (·.email)).getD e.actorId,
    (e.actor.map (·.role)).getD "",
    "; ".intercalate ((payloadEntries e.payload).map fun (label, value) => label ++ ": " ++ value)]

def eventsToCsv (events : List TicketEventJson) : String :=
  "\r\n".intercalate ((EVENTS_HEADER :: events.map eventRow).map fun row =>
    ",".intercalate (row.map csvEscape))

/-- The two copies of the encoder test the same characters. -/
theorem csvEscape_eq (value : String) : csvEscape value = csvField (.string value) := by
  unfold csvEscape csvField CsvValue.text
  simp only [Bool.or_assoc, Bool.or_comm (_ == '\n')]

theorem csvField_eq (value : CsvValue) : csvField value = csvField (.string value.text) := rfl

theorem csvField_string (s : String) : Csv.Field s.toList (csvField (.string s)).toList := by
  unfold csvField
  dsimp only [CsvValue.text]
  rw [apply_ite String.toList]
  split
  next =>
    have htext : ("\"" ++ String.ofList (s.toList.flatMap fun c =>
        if c = '"' then ['"', '"'] else [c]) ++ "\"").toList =
        '"' :: (Csv.doubled s.toList ++ ['"']) := by
      simp [Csv.doubled]
    rw [htext]
    exact .quoted _
  next hplain =>
    refine .plain fun c hc hspecial => hplain ?_
    rw [List.any_eq_true]
    refine ⟨c, hc, ?_⟩
    rcases hspecial with rfl | rfl | rfl | rfl <;> decide

theorem csvField_field (value : CsvValue) : Csv.Field value.text.toList (csvField value).toList := by
  rw [csvField_eq]
  exact csvField_string value.text

theorem csvEscape_field (s : String) : Csv.Field s.toList (csvEscape s).toList := by
  rw [csvEscape_eq]
  exact csvField_string s

/-- The rows that are written are the records that are read, a field for each value. -/
theorem read_csvRows (rows : List (List CsvValue)) (hrows : ∀ row ∈ rows, row ≠ []) :
    Csv.read (String.join (rows.map csvRow)) = some (rows.map fun row => row.map (·.text)) := by
  have hrecord : ∀ row ∈ rows, Csv.Record (row.map fun value => value.text.toList)
      ([','].intercalate (row.map fun value => (csvField value).toList)) := by
    intro row hrow
    exact .of_fields (hrows row hrow) fun value _ => csvField_field value
  have hfile := Csv.File.of_terminated hrecord
  apply Csv.read_eq
  simpa [csvRow, Function.comp_def, List.flatMap_map] using hfile

/-- The header and the row of every event have five fields. -/
theorem eventsRecord_length {events : List TicketEventJson} {record : List String}
    (h : record ∈ EVENTS_HEADER :: events.map eventRow) : record.length = 5 := by
  rcases List.mem_cons.mp h with rfl | h
  · rfl
  · obtain ⟨e, _, rfl⟩ := List.mem_map.mp h
    rfl

theorem read_eventsToCsv (events : List TicketEventJson) :
    Csv.read (eventsToCsv events) = some (EVENTS_HEADER :: events.map eventRow) := by
  have hrecord : ∀ row ∈ EVENTS_HEADER :: events.map eventRow,
      Csv.Record (row.map String.toList)
        ([','].intercalate (row.map fun s => (csvEscape s).toList)) := by
    intro row hrow
    have hlength := eventsRecord_length hrow
    have hne : row ≠ [] := List.ne_nil_of_length_pos (by omega)
    exact .of_fields hne fun s _ => csvEscape_field s
  have hne : ∀ row ∈ EVENTS_HEADER :: events.map eventRow,
      [','].intercalate (row.map fun s => (csvEscape s).toList) ≠ [] := by
    intro row hrow
    match row, eventsRecord_length hrow with
    | a :: b :: rest, _ => simp
  have hfile := Csv.File.of_separated hrecord hne
  apply Csv.read_eq
  simpa [eventsToCsv, Function.comp_def] using hfile

/-- What is written is what is read: no value can shift, split or merge fields or records. -/
theorem csv_reads_back (rows : List (List CsvValue)) (hrows : ∀ row ∈ rows, row ≠ [])
    (events : List TicketEventJson) :
    Csv.read (String.join (rows.map csvRow)) = some (rows.map fun row => row.map (·.text)) ∧
      Csv.read (eventsToCsv events) = some (EVENTS_HEADER :: events.map eventRow) ∧
      ∀ record ∈ EVENTS_HEADER :: events.map eventRow, record.length = 5 :=
  ⟨read_csvRows rows hrows, read_eventsToCsv events, fun _ => eventsRecord_length⟩

theorem csv_reads_back_quoted :
    Csv.read (String.join ([[CsvValue.string "a,\"b\"\r\n", .null], [.number 3, .boolean true],
        [.string ""]].map csvRow)) =
      some ([[CsvValue.string "a,\"b\"\r\n", .null], [.number 3, .boolean true],
        [.string ""]].map fun row => row.map (·.text)) ∧
    Csv.read (eventsToCsv [{ actorId := "u1", eventType := "comentario", createdAt := "hoy"
                             payload := some [("comment", .string "uno,\r\n\"dos\"")] }]) =
      some [EVENTS_HEADER, ["hoy", "Comentario", "u1", "", "Comentario: uno,\r\n\"dos\""]] := by
  have h := csv_reads_back [[CsvValue.string "a,\"b\"\r\n", .null], [.number 3, .boolean true],
    [.string ""]] (by decide) [{ actorId := "u1", eventType := "comentario", createdAt := "hoy"
                                 payload := some [("comment", .string "uno,\r\n\"dos\"")] }]
  exact ⟨h.1, h.2.1⟩

end TicketSystem
