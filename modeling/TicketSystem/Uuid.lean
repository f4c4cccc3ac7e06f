import Mathlib.Algebra.Group.Nat.Defs
import Mathlib.Data.List.Basic
import Mathlib.Tactic.Ring

namespace TicketSystem

abbrev Uuid := Nat

def isHex (c : Char) : Bool :=
  ('0' ≤ c && c ≤ '9') || ('a' ≤ c && c ≤ 'f') || ('A' ≤ c && c ≤ 'F')

/-- Groups of hexadecimal digits of the given lengths, with a hyphen between them. -/
def hexGroups : List Nat → List Char → Bool
  | [], cs => cs.isEmpty
  | [n], cs => cs.length == n && cs.all isHex
  | n :: ns, cs =>
    (cs.take n).length == n && (cs.take n).all isHex && (cs.drop n).head? == some '-' &&
      hexGroups ns (cs.drop (n + 1))

/-- The shape of a UUID, 8-4-4-4-12 hexadecimal digits. -/
def uuidShaped (s : String) : Bool := hexGroups [8, 4, 4, 4, 12] s.toList

/-- The last `k` hexadecimal digits of `n`. -/
def hexDigits (k n : Nat) : List Char :=
  (List.range k).map fun i => Nat.digitChar (n / 16 ^ (k - 1 - i) % 16)

def Uuid.text (id : Uuid) : String :=
  String.ofList (hexDigits 8 (id / 16 ^ 24) ++ '-' :: (hexDigits 4 (id / 16 ^ 20) ++
    '-' :: (hexDigits 4 (id / 16 ^ 16) ++ '-' :: (hexDigits 4 (id / 16 ^ 12) ++
      '-' :: hexDigits 12 id))))

def hexValue (c : Char) : Nat :=
  if c ≤ '9' then c.toNat - '0'.toNat
  else if c ≤ 'F' then c.toNat - 'A'.toNat + 10
  else c.toNat - 'a'.toNat + 10

def readHex (cs : List Char) : Nat :=
  (cs.filter isHex).foldl (fun n c => 16 * n + hexValue c) 0

/-- The id a string names, when it has the shape of one. -/
def Uuid.parse? (s : String) : Option Uuid :=
  if uuidShaped s then some (readHex s.toList) else none

/-- What stands in braces or after `urn:uuid:`. -/
def unwrapped (cs : List Char) : List Char :=
  if cs.head? == some '{' && cs.getLast? == some '}' then cs.tail.dropLast
  else if "urn:uuid:".toList.isPrefixOf cs then cs.drop 9
  else cs

/-- The spellings of a UUID the database client takes: 32 digits, or 8-4-4-4-12, which may stand
in braces or after `urn:uuid:`. -/
def uuidSpelled (s : String) : Bool :=
  hexGroups [32] s.toList || hexGroups [8, 4, 4, 4, 12] (unwrapped s.toList)

/-- The id a string names to the database client. -/
def Uuid.parseStr? (s : String) : Option Uuid :=
  if uuidSpelled s then some (readHex (unwrapped s.toList)) else none

theorem isHex_digitChar {n : Nat} (h : n < 16) : isHex (Nat.digitChar n) = true := by
  revert n
  decide

@[simp] theorem length_hexDigits (k n : Nat) : (hexDigits k n).length = k := by
  simp [hexDigits]

theorem all_hexDigits (k n : Nat) : (hexDigits k n).all isHex = true := by
  simp only [hexDigits, List.all_map, List.all_eq_true, Function.comp_apply]
  exact fun i _ => isHex_digitChar (Nat.mod_lt _ (by decide))

theorem hexGroups_append {k m : Nat} {ks : List Nat} {rest : List Char} (n : Nat)
    (h : hexGroups (m :: ks) rest = true) :
    hexGroups (k :: m :: ks) (hexDigits k n ++ '-' :: rest) = true := by
  have htake : (hexDigits k n ++ '-' :: rest).take k = hexDigits k n := by
    simp [List.take_left']
  have hdrop : (hexDigits k n ++ '-' :: rest).drop k = '-' :: rest := by
    simp [List.drop_left']
  have hrest : (hexDigits k n ++ '-' :: rest).drop (k + 1) = rest := by
    rw [← List.drop_drop, hdrop]
    rfl
  simp only [hexGroups, htake, hdrop, hrest, h, length_hexDigits, all_hexDigits, List.head?_cons,
    beq_self_eq_true, Bool.and_self]

/-- The text of every id has the shape of a UUID. -/
theorem Uuid.shaped_text (id : Uuid) : uuidShaped id.text = true := by
  unfold uuidShaped Uuid.text
  rw [String.toList_ofList]
  refine hexGroups_append _ (hexGroups_append _ (hexGroups_append _ (hexGroups_append _ ?_)))
  simp only [hexGroups, length_hexDigits, all_hexDigits, beq_self_eq_true, Bool.and_self]

theorem Uuid.text_ne_empty (id : Uuid) : id.text ≠ "" := by
  intro h
  have hshaped := Uuid.shaped_text id
  rw [h] at hshaped
  exact absurd hshaped (by decide)

theorem hexValue_digitChar {n : Nat} (h : n < 16) : hexValue (Nat.digitChar n) = n := by
  revert n
  decide

theorem hexDigits_succ (k n : Nat) :
    hexDigits (k + 1) n = hexDigits k (n / 16) ++ [Nat.digitChar (n % 16)] := by
  have hfirst : ∀ i < k, n / 16 ^ (k - i) = n / 16 / 16 ^ (k - 1 - i) := by
    intro i hi
    have hk : k - i = k - 1 - i + 1 := by omega
    rw [hk, Nat.pow_succ', Nat.div_div_eq_div_mul]
  unfold hexDigits
  rw [List.range_succ, List.map_append]
  congr 1
  · refine List.map_congr_left fun i hi => ?_
    rw [Nat.add_sub_cancel, hfirst i (List.mem_range.mp hi)]
  · simp

/-- The digits are read back as the number they are of. -/
theorem foldl_hexDigits (k n a : Nat) :
    (hexDigits k n).foldl (fun n c => 16 * n + hexValue c) a = a * 16 ^ k + n % 16 ^ k := by
  induction k generalizing n with
  | zero => simp [hexDigits, Nat.mod_one]
  | succ k ih =>
    have hdigit : hexValue (Nat.digitChar (n % 16)) = n % 16 :=
      hexValue_digitChar (Nat.mod_lt _ (by decide))
    rw [hexDigits_succ, List.foldl_append, ih, List.foldl_cons, List.foldl_nil, hdigit,
      Nat.pow_succ', Nat.mod_mul]
    ring

theorem filter_hexDigits (k n : Nat) : (hexDigits k n).filter isHex = hexDigits k n :=
  List.filter_eq_self.mpr (List.all_eq_true.mp (all_hexDigits k n))

/-- An id of 128 bits is named by its text. -/
theorem Uuid.parse?_text {id : Uuid} (h : id < 16 ^ 32) : Uuid.parse? id.text = some id := by
  have hhyphen : isHex '-' = false := by decide
  have hdigits : id.text.toList.filter isHex = hexDigits 8 (id / 16 ^ 24) ++
      (hexDigits 4 (id / 16 ^ 20) ++ (hexDigits 4 (id / 16 ^ 16) ++
        (hexDigits 4 (id / 16 ^ 12) ++ hexDigits 12 id))) := by
    simp [Uuid.text, filter_hexDigits, hhyphen]
  rw [Uuid.parse?, if_pos (Uuid.shaped_text id), readHex, hdigits]
  simp only [List.foldl_append, foldl_hexDigits]
  have hnat : ∀ n : Nat, n < 16 ^ 32 → ((((0 * 16 ^ 8 + n / 16 ^ 24 % 16 ^ 8) * 16 ^ 4 +
      n / 16 ^ 20 % 16 ^ 4) * 16 ^ 4 + n / 16 ^ 16 % 16 ^ 4) * 16 ^ 4 +
        n / 16 ^ 12 % 16 ^ 4) * 16 ^ 12 + n % 16 ^ 12 = n := by
    intro n hn
    omega
  exact congrArg some (hnat id h)

theorem hexGroups_head {k : Nat} {ks : List Nat} {cs : List Char} (hk : 0 < k)
    (h : hexGroups (k :: ks) cs = true) : ∃ c rest, cs = c :: rest ∧ isHex c = true := by
  have hfirst : (cs.take k).length = k ∧ (cs.take k).all isHex = true := by
    cases ks with
    | nil =>
      obtain ⟨hlength, hall⟩ := Bool.and_eq_true_iff.mp h
      rw [List.take_of_length_le (beq_iff_eq.mp hlength).le]
      exact ⟨beq_iff_eq.mp hlength, hall⟩
    | cons k' ks =>
      simp only [hexGroups, Bool.and_eq_true, beq_iff_eq] at h
      exact ⟨h.1.1.1, h.1.1.2⟩
  cases cs with
  | nil =>
    have hlength := hfirst.1
    rw [List.take_nil, List.length_nil] at hlength
    omega
  | cons c rest =>
    obtain ⟨m, rfl⟩ := Nat.exists_eq_succ_of_ne_zero hk.ne'
    rw [List.take_succ_cons, List.all_cons, Bool.and_eq_true] at hfirst
    exact ⟨c, rest, rfl, hfirst.2.1⟩

theorem unwrapped_of_hex {c : Char} (rest : List Char) (h : isHex c = true) :
    unwrapped (c :: rest) = c :: rest := by
  have hbrace : c ≠ '{' := by
    rintro rfl
    exact absurd h (by decide)
  have hu : c ≠ 'u' := by
    rintro rfl
    exact absurd h (by decide)
  have hurn : "urn:uuid:".toList.isPrefixOf (c :: rest) = false := by
    rw [Bool.eq_false_iff]
    intro hprefix
    obtain ⟨more, hmore⟩ := List.isPrefixOf_iff_prefix.mp hprefix
    have hhead : ("urn:uuid:".toList ++ more).head? = some 'u' := by
      rw [List.head?_append]
      rfl
    rw [hmore] at hhead
    exact hu (Option.some.inj hhead)
  unfold unwrapped
  rw [hurn]
  simp [hbrace]

/-- Both readers take the hyphenated form, and for the same id. -/
theorem Uuid.parseStr?_of_parse? {s : String} {id : Uuid} (h : Uuid.parse? s = some id) :
    Uuid.parseStr? s = some id := by
  obtain ⟨hshaped, hid⟩ := Option.ite_none_right_eq_some.mp h
  obtain ⟨c, rest, hs, hc⟩ := hexGroups_head (by decide) hshaped
  have hplain : unwrapped s.toList = s.toList := hs ▸ unwrapped_of_hex rest hc
  have hgroups : hexGroups [8, 4, 4, 4, 12] s.toList = true := hshaped
  rw [Uuid.parseStr?, uuidSpelled, hplain, hgroups, Bool.or_true, if_pos rfl]
  exact hid

theorem Uuid.parseStr?_text {id : Uuid} (h : id < 16 ^ 32) : Uuid.parseStr? id.text = some id :=
  Uuid.parseStr?_of_parse? (Uuid.parse?_text h)

example : Uuid.parseStr? "0000000000000000000000000000000a" = some 10 ∧
    Uuid.parseStr? "{00000000-0000-0000-0000-00000000000a}" = some 10 ∧
    Uuid.parseStr? "urn:uuid:00000000-0000-0000-0000-00000000000a" = some 10 ∧
    Uuid.parseStr? "{0000000000000000000000000000000a}" = none := by decide

end TicketSystem
