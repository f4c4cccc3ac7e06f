import Mathlib.Data.List.Basic

namespace Csv

def Special (c : Char) : Prop := c = ',' ∨ c = '"' ∨ c = '\r' ∨ c = '\n'

instance : DecidablePred Special := fun c => by unfold Special; infer_instance

def doubled (value : List Char) : List Char :=
  value.flatMap fun c => if c = '"' then ['"', '"'] else [c]

/-- The texts of a field: its value, or its value in quotes. -/
inductive Field : List Char → List Char → Prop
  | plain {value} (h : ∀ c ∈ value, ¬ Special c) : Field value value
  | quoted (value) : Field value ('"' :: (doubled value ++ ['"']))

inductive Record : List (List Char) → List Char → Prop
  | last {value text} (h : Field value text) : Record [value] text
  | cons {value text values rest} (h : Field value text) (hs : Record values rest) :
      Record (value :: values) (text ++ ',' :: rest)

/-- The CRLF after the last record may be missing, unless there is nothing before it. -/
inductive File : List (List (List Char)) → List Char → Prop
  | nil : File [] []
  | last {values text} (h : Record values text) (hne : text ≠ []) : File [values] text
  | cons {values text records rest} (h : Record values text) (hs : File records rest) :
      File (values :: records) (text ++ '\r' :: '\n' :: rest)

section Writers

variable {α : Type} {value text : α → List Char}

/-- Texts of fields with commas between them are a record. -/
theorem Record.of_fields {as : List α} (hne : as ≠ [])
    (h : ∀ a ∈ as, Field (value a) (text a)) :
    Record (as.map value) ([','].intercalate (as.map text)) := by
  induction as with
  | nil => exact absurd rfl hne
  | cons a rest ih =>
    have ha : Field (value a) (text a) := h a (by simp)
    cases rest with
    | nil => simpa using Record.last ha
    | cons b rest =>
      have hrest := ih (by simp) fun a ha => h a (List.mem_cons_of_mem _ ha)
      have htext : [','].intercalate ((a :: b :: rest).map text) =
          text a ++ ',' :: [','].intercalate ((b :: rest).map text) := by
        simp [List.intercalate_cons_cons]
      rw [htext]
      exact .cons ha hrest

variable {values : α → List (List Char)}

theorem File.of_terminated {as : List α} (h : ∀ a ∈ as, Record (values a) (text a)) :
    File (as.map values) (as.flatMap fun a => text a ++ ['\r', '\n']) := by
  induction as with
  | nil => exact .nil
  | cons a rest ih =>
    have hrest := ih fun a ha => h a (List.mem_cons_of_mem _ ha)
    have htext : ((a :: rest).flatMap fun a => text a ++ ['\r', '\n']) =
        text a ++ '\r' :: '\n' :: rest.flatMap fun a => text a ++ ['\r', '\n'] := by
      simp
    rw [htext]
    exact .cons (h a (by simp)) hrest

theorem File.of_separated {as : List α} (h : ∀ a ∈ as, Record (values a) (text a))
    (hne : ∀ a ∈ as, text a ≠ []) :
    File (as.map values) (['\r', '\n'].intercalate (as.map text)) := by
  induction as with
  | nil => exact .nil
  | cons a rest ih =>
    have ha : Record (values a) (text a) := h a (by simp)
    cases rest with
    | nil => simpa using File.last ha (hne a (by simp))
    | cons b rest =>
      have hrest := ih (fun a ha => h a (List.mem_cons_of_mem _ ha))
        fun a ha => hne a (List.mem_cons_of_mem _ ha)
      have htext : ['\r', '\n'].intercalate ((a :: b :: rest).map text) =
          text a ++ '\r' :: '\n' :: ['\r', '\n'].intercalate ((b :: rest).map text) := by
        simp [List.intercalate_cons_cons]
      rw [htext]
      exact .cons ha hrest

end Writers

/-! ### The reader -/

/-- Where the reader stands: before a record, before a field that follows a comma, in a field, in
a quoted field, after a quote in it, after the CR of a CRLF, or past an error. -/
inductive Place where
  | record
  | field
  | plain
  | quoted
  | quote
  | cr
  | error
  deriving DecidableEq, Repr

structure Reader where
  place : Place := .record
  field : List Char := []
  record : List (List Char) := []
  records : List (List (List Char)) := []
  deriving DecidableEq, Repr

def Reader.endField (r : Reader) : Reader :=
  { r with place := .field, field := [], record := r.record ++ [r.field] }

def Reader.endRecord (r : Reader) : Reader :=
  { place := .record, field := [], record := [], records := r.records ++ [r.record ++ [r.field]] }

def Reader.step (r : Reader) (c : Char) : Reader :=
  match r.place with
  | .record | .field | .plain =>
    if c = ',' then r.endField
    else if c = '\r' then { r with place := .cr }
    else if c = '\n' ∨ c = '"' ∧ r.place = .plain then { r with place := .error }
    else if c = '"' then { r with place := .quoted }
    else { r with place := .plain, field := r.field ++ [c] }
  | .quoted =>
    if c = '"' then { r with place := .quote } else { r with field := r.field ++ [c] }
  | .quote =>
    if c = '"' then { r with place := .quoted, field := r.field ++ [c] }
    else if c = ',' then r.endField
    else if c = '\r' then { r with place := .cr }
    else { r with place := .error }
  | .cr => if c = '\n' then r.endRecord else { r with place := .error }
  | .error => r

def Reader.run (r : Reader) (text : List Char) : Reader := text.foldl Reader.step r

/-- What has been read when the text ends. -/
def Reader.finish (r : Reader) : Option (List (List (List Char))) :=
  match r.place with
  | .record => some r.records
  | .field | .plain | .quote => some r.endRecord.records
  | .quoted | .cr | .error => none

def read (text : String) : Option (List (List String)) :=
  (Reader.run {} text.toList).finish.map fun records =>
    records.map fun values => values.map String.ofList

example : read "a,\"b\"\",\r\n\"\r\n,\r\n" = some [["a", "b\",\r\n"], ["", ""]] := by decide +kernel

theorem Reader.run_append (r : Reader) (a b : List Char) : r.run (a ++ b) = (r.run a).run b :=
  List.foldl_append

/-- A reader that is before a field. -/
def Reader.Ready (r : Reader) : Prop := (r.place = .record ∨ r.place = .field) ∧ r.field = []

theorem Reader.ready_record (records : List (List (List Char))) :
    Reader.Ready { records := records } := ⟨.inl rfl, rfl⟩

/-- A reader that has read a field that may end here. -/
structure Reader.Holds (before r : Reader) (value : List Char) : Prop where
  place : r.place = .record ∨ r.place = .field ∨ r.place = .plain ∨ r.place = .quote
  field : r.field = value
  record : r.record = before.record
  records : r.records = before.records

theorem run_plain {value : List Char} (h : ∀ c ∈ value, ¬ Special c) {r : Reader}
    (hplace : r.place = .record ∨ r.place = .field ∨ r.place = .plain) (hne : value ≠ []) :
    r.run value = { r with place := .plain, field := r.field ++ value } := by
  induction value generalizing r with
  | nil => exact absurd rfl hne
  | cons c rest ih =>
    have hc : ¬ Special c := h c (by simp)
    have hstep : r.step c = { r with place := .plain, field := r.field ++ [c] } := by
      simp only [Special, not_or] at hc
      rcases hplace with hp | hp | hp <;> simp [Reader.step, hp, hc]
    have hrun : r.run (c :: rest) = (r.step c).run rest := rfl
    rw [hrun, hstep]
    rcases eq_or_ne rest [] with rfl | hrest
    · rfl
    · rw [ih (fun c hc => h c (List.mem_cons_of_mem _ hc)) (by simp) hrest]
      simp

theorem run_doubled (value : List Char) {r : Reader} (hplace : r.place = .quoted) :
    r.run (doubled value) = { r with field := r.field ++ value } := by
  induction value generalizing r with
  | nil => simp [doubled, Reader.run]
  | cons c rest ih =>
    have hsplit : doubled (c :: rest) = (if c = '"' then ['"', '"'] else [c]) ++ doubled rest := by
      simp [doubled]
    have hstep : r.run (if c = '"' then ['"', '"'] else [c]) =
        { r with field := r.field ++ [c] } := by
      split
      next hc => simp [Reader.run, Reader.step, hplace, hc]
      next hc => simp [Reader.run, Reader.step, hplace, hc]
    rw [hsplit, Reader.run_append, hstep, ih (by simp [hplace])]
    simp

theorem Field.run {value text : List Char} (h : Field value text) {r : Reader} (hr : r.Ready) :
    r.Holds (r.run text) value ∧ (text ≠ [] → (r.run text).place ≠ .record) := by
  obtain ⟨hplace, hfield⟩ := hr
  cases h with
  | plain h =>
    rcases eq_or_ne value [] with rfl | hne
    · refine ⟨⟨?_, hfield, rfl, rfl⟩, fun h => absurd rfl h⟩
      exact hplace.imp_right .inl
    · rw [run_plain h (by tauto) hne]
      exact ⟨⟨by simp, by simp [hfield], rfl, rfl⟩, by simp⟩
  | quoted =>
    have hopen : r.step '"' = { r with place := .quoted } := by
      rcases hplace with hp | hp <;> simp [Reader.step, hp]
    have hrun : r.run ('"' :: (doubled value ++ ['"'])) =
        ((r.step '"').run (doubled value)).step '"' := by
      rw [← List.cons_append, Reader.run_append]
      rfl
    rw [hrun, hopen, run_doubled _ rfl]
    exact ⟨⟨by simp [Reader.step], by simp [Reader.step, hfield], rfl, rfl⟩,
      by simp [Reader.step]⟩

theorem Reader.Holds.comma {before r : Reader} {value : List Char} (h : before.Holds r value) :
    r.step ',' =
      { before with place := .field, field := [], record := before.record ++ [value] } := by
  obtain ⟨hplace, hfield, hrecord, hrecords⟩ := h
  rcases hplace with hp | hp | hp | hp <;>
    simp [Reader.step, Reader.endField, hp, hfield, hrecord, hrecords]

theorem Reader.Holds.crlf {before r : Reader} {value : List Char} (h : before.Holds r value) :
    (r.step '\r').step '\n' =
      { records := before.records ++ [before.record ++ [value]] } := by
  obtain ⟨hplace, hfield, hrecord, hrecords⟩ := h
  rcases hplace with hp | hp | hp | hp <;>
    simp [Reader.step, Reader.endRecord, hp, hfield, hrecord, hrecords]

theorem Reader.Holds.finish {before r : Reader} {value : List Char} (h : before.Holds r value)
    (hne : r.place ≠ .record) :
    r.finish = some (before.records ++ [before.record ++ [value]]) := by
  obtain ⟨hplace, hfield, hrecord, hrecords⟩ := h
  rcases hplace with hp | hp | hp | hp
  · exact absurd hp hne
  all_goals simp [Reader.finish, Reader.endRecord, hp, hfield, hrecord, hrecords]

/-- After the text of a record the reader holds its last field, and has the others. -/
theorem Record.run {values : List (List Char)} {text : List Char} (h : Record values text)
    {r : Reader} (hr : r.Ready) :
    ∃ (before : Reader) (value : List Char), before.Holds (r.run text) value ∧
      before.record ++ [value] = r.record ++ values ∧ before.records = r.records ∧
      (text ≠ [] → (r.run text).place ≠ .record) := by
  induction h generalizing r with
  | last h =>
    obtain ⟨hholds, hplace⟩ := h.run hr
    exact ⟨r, _, hholds, rfl, rfl, hplace⟩
  | @cons value text values rest h hs ih =>
    obtain ⟨hholds, _⟩ := h.run hr
    have hrun : r.run (text ++ ',' :: rest) = ((r.run text).step ',').run rest := by
      rw [Reader.run_append]
      rfl
    rw [hrun, hholds.comma]
    obtain ⟨before, last, hlast, hrecord, hrecords, hplace⟩ :=
      ih (r := { r with place := .field, field := [], record := r.record ++ [value] })
        ⟨.inr rfl, rfl⟩
    refine ⟨before, last, hlast, by simpa using hrecord, hrecords, fun _ => ?_⟩
    rcases eq_or_ne rest [] with rfl | hrest
    · simp [Reader.run]
    · exact hplace hrest

theorem File.run {records : List (List (List Char))} {text : List Char} (h : File records text)
    (before : List (List (List Char))) :
    (Reader.run { records := before } text).finish = some (before ++ records) := by
  induction h generalizing before with
  | nil => simp [Reader.run, Reader.finish]
  | last h hne =>
    obtain ⟨r, value, hholds, hrecord, hrecords, hplace⟩ := h.run (Reader.ready_record before)
    rw [hholds.finish (hplace hne), hrecord, hrecords]
    rfl
  | @cons values text records rest h hs ih =>
    obtain ⟨r, value, hholds, hrecord, hrecords, _⟩ := h.run (Reader.ready_record before)
    have hrun : (Reader.run { records := before } (text ++ '\r' :: '\n' :: rest)) =
        (((Reader.run { records := before } text).step '\r').step '\n').run rest := by
      rw [Reader.run_append]
      rfl
    rw [hrun, hholds.crlf, ih, hrecord, hrecords]
    simp

/-- What the grammar derives is read as the records it was derived from. -/
theorem read_eq {records : List (List String)} {text : String}
    (h : File (records.map fun values => values.map String.toList) text.toList) :
    read text = some records := by
  simp [read, h.run [], Function.comp_def]

end Csv
