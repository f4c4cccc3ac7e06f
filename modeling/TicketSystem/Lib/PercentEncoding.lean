import TicketSystem.Lib.Utf8

namespace PercentEncoding

/-- The characters that are left as they are: letters, digits and nine signs. -/
def unreserved (c : Char) : Bool :=
  ('A' ≤ c && c ≤ 'Z') || ('a' ≤ c && c ≤ 'z') || ('0' ≤ c && c ≤ '9') ||
    "-_.!~*'()".toList.contains c

def hexDigit (n : Nat) : Char :=
  if n < 10 then Char.ofNat ('0'.toNat + n) else Char.ofNat ('A'.toNat + (n - 10))

def escapeByte (b : Nat) : List Char := ['%', hexDigit (b / 16), hexDigit (b % 16)]

def encodeChar (c : Char) : List Char :=
  if unreserved c then [c] else (Utf8.encodeChar c).flatMap escapeByte

def encode (cs : List Char) : List Char := cs.flatMap encodeChar

def hexValue? (c : Char) : Option Nat :=
  if '0' ≤ c ∧ c ≤ '9' then some (c.toNat - '0'.toNat)
  else if 'A' ≤ c ∧ c ≤ 'F' then some (c.toNat - 'A'.toNat + 10)
  else if 'a' ≤ c ∧ c ≤ 'f' then some (c.toNat - 'a'.toNat + 10)
  else none

/-- The byte of two hexadecimal digits. -/
def byte? : List Char → Option Nat
  | a :: b :: _ => (hexValue? a).bind fun m => (hexValue? b).map fun n => m * 16 + n
  | _ => none

/-- The bytes of a text; a `%` that two digits do not follow stands for itself. The first
argument is the number of digits still to be passed over. -/
def bytesFrom : Nat → List Char → List Nat
  | _, [] => []
  | skipped + 1, _ :: cs => bytesFrom skipped cs
  | 0, c :: cs =>
    if c = '%' then
      match byte? cs with
      | some b => b :: bytesFrom 2 cs
      | none => Utf8.encodeChar c ++ bytesFrom 0 cs
    else Utf8.encodeChar c ++ bytesFrom 0 cs

def decode (cs : List Char) : List Char := Utf8.decode (bytesFrom 0 cs)

/-- The bytes of a text in which every `%` begins the escape of a byte. -/
def bytesFrom? : Nat → List Char → Option (List Nat)
  | _, [] => some []
  | skipped + 1, _ :: cs => bytesFrom? skipped cs
  | 0, c :: cs =>
    if c = '%' then (byte? cs).bind fun b => (bytesFrom? 2 cs).map (b :: ·)
    else (bytesFrom? 0 cs).map (Utf8.encodeChar c ++ ·)

/-- Strict decoding: nothing, if a `%` stands for itself or the bytes are those of no text. -/
def decode? (cs : List Char) : Option (List Char) := do
  let bs ← bytesFrom? 0 cs
  let decoded := Utf8.decode bs
  if Utf8.encode decoded = bs then some decoded else none

theorem hexValue?_hexDigit {n : Nat} (h : n < 16) : hexValue? (hexDigit n) = some n := by
  revert n
  decide

theorem unreserved_hexDigit {n : Nat} (h : n < 16) : unreserved (hexDigit n) = true := by
  revert n
  decide

theorem byte?_escape {b : Nat} (h : b < 256) (cs : List Char) :
    byte? (hexDigit (b / 16) :: hexDigit (b % 16) :: cs) = some b := by
  have hhigh := hexValue?_hexDigit (n := b / 16) (by omega)
  have hlow := hexValue?_hexDigit (n := b % 16) (by omega)
  simp only [byte?, hhigh, hlow, Option.bind_some, Option.map_some, Option.some.injEq]
  omega

theorem bytesFrom_escapeByte {b : Nat} (h : b < 256) (cs : List Char) :
    bytesFrom 0 (escapeByte b ++ cs) = b :: bytesFrom 0 cs := by
  have hbyte := byte?_escape h cs
  simp only [escapeByte, List.cons_append, List.nil_append, bytesFrom, if_true, hbyte]

theorem bytesFrom_escapeBytes {bs : List Nat} (h : ∀ b ∈ bs, b < 256) (cs : List Char) :
    bytesFrom 0 (bs.flatMap escapeByte ++ cs) = bs ++ bytesFrom 0 cs := by
  induction bs with
  | nil => rfl
  | cons b bs ih =>
    obtain ⟨hb, hbs⟩ := List.forall_mem_cons.mp h
    rw [List.flatMap_cons, List.append_assoc, bytesFrom_escapeByte hb, ih hbs, List.cons_append]

theorem bytesFrom_encodeChar (c : Char) (cs : List Char) :
    bytesFrom 0 (encodeChar c ++ cs) = Utf8.encodeChar c ++ bytesFrom 0 cs := by
  unfold encodeChar
  split
  next h =>
    have hne : c ≠ '%' := by
      rintro rfl
      cases h
    simp only [List.cons_append, List.nil_append, bytesFrom, if_neg hne]
  next => exact bytesFrom_escapeBytes (fun _ => Utf8.encodeChar_lt) cs

theorem bytesFrom_encode (cs : List Char) : bytesFrom 0 (encode cs) = Utf8.encode cs := by
  induction cs with
  | nil => rfl
  | cons c cs ih =>
    have hcons := bytesFrom_encodeChar c (encode cs)
    rw [ih] at hcons
    exact hcons

theorem decode_encode (cs : List Char) : decode (encode cs) = cs := by
  rw [decode, bytesFrom_encode, Utf8.decode_encode]

theorem bytesFrom?_escapeByte {b : Nat} (h : b < 256) (cs : List Char) :
    bytesFrom? 0 (escapeByte b ++ cs) = (bytesFrom? 0 cs).map (b :: ·) := by
  have hbyte := byte?_escape h cs
  simp only [escapeByte, List.cons_append, List.nil_append, bytesFrom?, if_true, hbyte,
    Option.bind_some]

theorem bytesFrom?_escapeBytes {bs : List Nat} (h : ∀ b ∈ bs, b < 256) (cs : List Char) :
    bytesFrom? 0 (bs.flatMap escapeByte ++ cs) = (bytesFrom? 0 cs).map (bs ++ ·) := by
  induction bs with
  | nil => simp
  | cons b bs ih =>
    obtain ⟨hb, hbs⟩ := List.forall_mem_cons.mp h
    rw [List.flatMap_cons, List.append_assoc, bytesFrom?_escapeByte hb, ih hbs, Option.map_map]
    rfl

theorem bytesFrom?_cons {c : Char} (h : c ≠ '%') (cs : List Char) :
    bytesFrom? 0 (c :: cs) = (bytesFrom? 0 cs).map (Utf8.encodeChar c ++ ·) := by
  rw [bytesFrom?, if_neg h]

/-- The bytes of a text are read as that text. -/
theorem decode?_of_bytes {cs decoded : List Char}
    (h : bytesFrom? 0 cs = some (Utf8.encode decoded)) : decode? cs = some decoded := by
  simp only [decode?, h, Option.bind_eq_bind, Option.bind_some, Utf8.decode_encode, if_true]

/-- A text without escapes stands for itself. -/
theorem decode?_of_notMem {cs : List Char} (h : '%' ∉ cs) : decode? cs = some cs := by
  refine decode?_of_bytes ?_
  induction cs with
  | nil => rfl
  | cons c cs ih =>
    rw [List.mem_cons, not_or] at h
    rw [bytesFrom?_cons (Ne.symm h.1), ih h.2]
    rfl

/-- Nothing else is written than characters left as they are and `%`. -/
theorem mem_encode {cs : List Char} {c : Char} (h : c ∈ encode cs) :
    unreserved c = true ∨ c = '%' := by
  obtain ⟨d, _, hd⟩ := List.mem_flatMap.mp h
  unfold encodeChar at hd
  split at hd
  next hun => exact .inl (List.mem_singleton.mp hd ▸ hun)
  next =>
    obtain ⟨b, hb, hc⟩ := List.mem_flatMap.mp hd
    have hlt := Utf8.encodeChar_lt hb
    simp only [escapeByte, List.mem_cons, List.not_mem_nil, or_false] at hc
    rcases hc with rfl | rfl | rfl
    · exact .inr rfl
    · exact .inl (unreserved_hexDigit (by omega))
    · exact .inl (unreserved_hexDigit (by omega))

/-- A character that would be escaped is not in what is written. -/
theorem notMem_encode {c : Char} (hc : unreserved c = false) (hne : c ≠ '%') (cs : List Char) :
    c ∉ encode cs := by
  intro h
  rcases mem_encode h with hun | heq
  · rw [hc] at hun
    cases hun
  · exact hne heq

end PercentEncoding
