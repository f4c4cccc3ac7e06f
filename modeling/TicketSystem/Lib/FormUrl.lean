import TicketSystem.Lib.PercentEncoding
import TicketSystem.Lib.Url

namespace FormUrl

/-- The characters a form leaves as they are: letters, digits and four signs. -/
def kept (c : Char) : Bool :=
  ('A' ≤ c && c ≤ 'Z') || ('a' ≤ c && c ≤ 'z') || ('0' ≤ c && c ≤ '9') ||
    "*-._".toList.contains c

def encodeChar (c : Char) : List Char :=
  if kept c then [c]
  else if c = ' ' then ['+']
  else (Utf8.encodeChar c).flatMap PercentEncoding.escapeByte

def encode (cs : List Char) : List Char := cs.flatMap encodeChar

abbrev Field := List Char × List Char

def Field.text (f : Field) : List Char := encode f.1 ++ '=' :: encode f.2

def serialize (fields : List Field) : List Char := ['&'].intercalate (fields.map Field.text)

def plusToSpace (cs : List Char) : List Char := cs.map fun c => if c = '+' then ' ' else c

def decode? (cs : List Char) : Option (List Char) := PercentEncoding.decode? (plusToSpace cs)

/-- A part without `=` has an empty value. -/
def field? (part : List Char) : Option Field :=
  match Url.cut '=' part with
  | some (name, value) => (decode? name).bind fun n => (decode? value).map fun v => (n, v)
  | none => (decode? part).map fun n => (n, [])

def parse? (cs : List Char) : Option (List Field) := (cs.splitOn '&').mapM field?

theorem plusToSpace_append (cs ds : List Char) :
    plusToSpace (cs ++ ds) = plusToSpace cs ++ plusToSpace ds := List.map_append

theorem plusToSpace_of_notMem {cs : List Char} (h : '+' ∉ cs) : plusToSpace cs = cs := by
  have hsame : ∀ c ∈ cs, (if c = '+' then ' ' else c) = c := by
    intro c hc
    have hne : c ≠ '+' := fun he => h (he ▸ hc)
    rw [if_neg hne]
  exact (List.map_congr_left hsame).trans (List.map_id cs)

theorem kept_hexDigit {n : Nat} (h : n < 16) : kept (PercentEncoding.hexDigit n) = true := by
  revert n
  decide

theorem kept_or_percent {c d : Char} {b : Nat} (hb : b ∈ Utf8.encodeChar c)
    (h : d ∈ PercentEncoding.escapeByte b) : kept d = true ∨ d = '%' := by
  have hlt := Utf8.encodeChar_lt hb
  simp only [PercentEncoding.escapeByte, List.mem_cons, List.not_mem_nil, or_false] at h
  rcases h with rfl | rfl | rfl
  · exact .inr rfl
  · exact .inl (kept_hexDigit (by omega))
  · exact .inl (kept_hexDigit (by omega))

theorem mem_encode {cs : List Char} {c : Char} (h : c ∈ encode cs) :
    kept c = true ∨ c = '%' ∨ c = '+' := by
  obtain ⟨d, _, hd⟩ := List.mem_flatMap.mp h
  unfold encodeChar at hd
  split at hd
  next hkept => exact .inl (List.mem_singleton.mp hd ▸ hkept)
  next =>
    split at hd
    next => exact .inr (.inr (List.mem_singleton.mp hd))
    next =>
      obtain ⟨b, hb, hc⟩ := List.mem_flatMap.mp hd
      rcases kept_or_percent hb hc with hkept | rfl
      · exact .inl hkept
      · exact .inr (.inl rfl)

/-- A character that a form writes in no other role than its own. -/
theorem notMem_encode {c : Char} (hc : kept c = false) (hpercent : c ≠ '%') (hplus : c ≠ '+')
    (cs : List Char) : c ∉ encode cs := by
  intro h
  rcases mem_encode h with hkept | heq | heq
  · rw [hc] at hkept
    cases hkept
  · exact hpercent heq
  · exact hplus heq

theorem bytes_encodeChar (c : Char) (cs : List Char) :
    PercentEncoding.bytesFrom? 0 (plusToSpace (encodeChar c ++ cs)) =
      (PercentEncoding.bytesFrom? 0 (plusToSpace cs)).map (Utf8.encodeChar c ++ ·) := by
  rw [plusToSpace_append]
  unfold encodeChar
  split
  next hkept =>
    have hplus : '+' ∉ [c] := by
      intro h
      rw [← List.mem_singleton.mp h] at hkept
      cases hkept
    have hpercent : c ≠ '%' := by
      intro h
      rw [h] at hkept
      cases hkept
    rw [plusToSpace_of_notMem hplus]
    exact PercentEncoding.bytesFrom?_cons hpercent _
  next =>
    split
    next hspace =>
      subst hspace
      have hne : ' ' ≠ '%' := by decide
      exact PercentEncoding.bytesFrom?_cons hne _
    next =>
      have hplus : '+' ∉ (Utf8.encodeChar c).flatMap PercentEncoding.escapeByte := by
        intro h
        obtain ⟨b, hb, hmem⟩ := List.mem_flatMap.mp h
        rcases kept_or_percent hb hmem with hkept | heq
        · cases hkept
        · cases heq
      rw [plusToSpace_of_notMem hplus]
      exact PercentEncoding.bytesFrom?_escapeBytes (fun _ => Utf8.encodeChar_lt) _

theorem bytes_encode (cs : List Char) :
    PercentEncoding.bytesFrom? 0 (plusToSpace (encode cs)) = some (Utf8.encode cs) := by
  induction cs with
  | nil => rfl
  | cons c cs ih =>
    have hcons := bytes_encodeChar c (encode cs)
    rw [ih] at hcons
    exact hcons

theorem decode?_encode (cs : List Char) : decode? (encode cs) = some cs :=
  PercentEncoding.decode?_of_bytes (bytes_encode cs)

theorem field?_text (f : Field) : field? f.text = some f := by
  have hname : '=' ∉ encode f.1 := notMem_encode (by decide) (by decide) (by decide) f.1
  rw [field?, Field.text, Url.cut_append hname]
  simp only [decode?_encode, Option.bind_some, Option.map_some]

theorem notMem_text {c : Char} (hc : kept c = false) (hpercent : c ≠ '%') (hplus : c ≠ '+')
    (hequals : c ≠ '=') (f : Field) : c ∉ f.text := by
  have hnone := notMem_encode hc hpercent hplus
  rw [Field.text, List.mem_append, List.mem_cons, not_or, not_or]
  exact ⟨hnone _, hequals, hnone _⟩

theorem notMem_serialize {c : Char} (hc : kept c = false) (hpercent : c ≠ '%') (hplus : c ≠ '+')
    (hequals : c ≠ '=') (hampersand : c ≠ '&') (fields : List Field) : c ∉ serialize fields := by
  unfold serialize
  induction fields with
  | nil => exact List.not_mem_nil
  | cons f fields ih =>
    have hfirst := notMem_text hc hpercent hplus hequals f
    cases fields with
    | nil => rwa [List.map_singleton, List.intercalate_singleton]
    | cons g fields =>
      rw [List.map_cons, List.map_cons, List.intercalate_cons_cons, List.mem_append,
        List.mem_append, not_or, not_or, List.mem_singleton]
      exact ⟨⟨hfirst, hampersand⟩, ih⟩

theorem serialize_ne_nil {fields : List Field} (h : fields ≠ []) : serialize fields ≠ [] := by
  obtain ⟨f, rest, rfl⟩ := List.exists_cons_of_ne_nil h
  intro hnil
  have hequals : '=' ∈ serialize (f :: rest) := by
    unfold serialize
    cases rest with
    | nil => simp [Field.text]
    | cons g rest => simp [Field.text, List.intercalate_cons_cons]
  rw [hnil] at hequals
  exact List.not_mem_nil hequals

/-- What is written from at least one field is read as its fields. -/
theorem parse?_serialize {fields : List Field} (h : fields ≠ []) :
    parse? (serialize fields) = some fields := by
  have hparts : ∀ part ∈ fields.map Field.text, '&' ∉ part := by
    intro part hpart
    obtain ⟨f, _, rfl⟩ := List.mem_map.mp hpart
    exact notMem_text (by decide) (by decide) (by decide) (by decide) f
  have hsome : fields.map Field.text ≠ [] := fun he => h (List.map_eq_nil_iff.mp he)
  rw [parse?, serialize, List.splitOn_intercalate '&' hparts hsome]
  clear h hparts hsome
  induction fields with
  | nil => rfl
  | cons f fields ih =>
    rw [List.map_cons, List.mapM_cons, field?_text, ih]
    rfl

end FormUrl
