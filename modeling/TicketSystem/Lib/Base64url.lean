import Mathlib.Data.List.Basic
import Mathlib.Data.List.TakeWhile

namespace Base64url

def sextets : List Nat → List Nat
  | a :: b :: c :: bs =>
    a / 4 :: (a % 4 * 16 + b / 16) :: (b % 16 * 4 + c / 64) :: c % 64 :: sextets bs
  | [a, b] => [a / 4, a % 4 * 16 + b / 16, b % 16 * 4]
  | [a] => [a / 4, a % 4 * 16]
  | [] => []

/-- The bytes that the groups fill; the bits left over are dropped. -/
def bytes : List Nat → List Nat
  | a :: b :: c :: d :: ds =>
    (a * 4 + b / 16) :: (b % 16 * 16 + c / 4) :: (c % 4 * 64 + d) :: bytes ds
  | [a, b, c] => [a * 4 + b / 16, b % 16 * 16 + c / 4]
  | [a, b] => [a * 4 + b / 16]
  | [_] => []
  | [] => []

theorem sextets_lt {bs : List Nat} (h : ∀ b ∈ bs, b < 256) : ∀ d ∈ sextets bs, d < 64 := by
  induction bs using sextets.induct with
  | case1 a b c bs ih =>
    simp only [List.forall_mem_cons] at h
    obtain ⟨ha, hb, hc, hrest⟩ := h
    simp only [sextets, List.forall_mem_cons]
    exact ⟨by omega, by omega, by omega, by omega, ih hrest⟩
  | case2 a b =>
    simp only [List.forall_mem_cons] at h
    obtain ⟨ha, hb, _⟩ := h
    simp only [sextets, List.forall_mem_cons]
    exact ⟨by omega, by omega, by omega, by simp⟩
  | case3 a =>
    simp only [List.forall_mem_cons] at h
    simp only [sextets, List.forall_mem_cons]
    exact ⟨by omega, by omega, by simp⟩
  | case4 => simp [sextets]

theorem bytes_sextets {bs : List Nat} (h : ∀ b ∈ bs, b < 256) : bytes (sextets bs) = bs := by
  induction bs using sextets.induct with
  | case1 a b c bs ih =>
    simp only [List.forall_mem_cons] at h
    obtain ⟨ha, hb, hc, hrest⟩ := h
    have h₁ : a / 4 * 4 + (a % 4 * 16 + b / 16) / 16 = a := by omega
    have h₂ : (a % 4 * 16 + b / 16) % 16 * 16 + (b % 16 * 4 + c / 64) / 4 = b := by omega
    have h₃ : (b % 16 * 4 + c / 64) % 4 * 64 + c % 64 = c := by omega
    simp only [sextets, bytes, ih hrest, h₁, h₂, h₃]
  | case2 a b =>
    simp only [List.forall_mem_cons] at h
    obtain ⟨ha, hb, _⟩ := h
    have h₁ : a / 4 * 4 + (a % 4 * 16 + b / 16) / 16 = a := by omega
    have h₂ : (a % 4 * 16 + b / 16) % 16 * 16 + b % 16 * 4 / 4 = b := by omega
    simp only [sextets, bytes, h₁, h₂]
  | case3 a =>
    have h₁ : a / 4 * 4 + a % 4 * 16 / 16 = a := by omega
    simp only [sextets, bytes, h₁]
  | case4 => rfl

def digit (n : Nat) : Char :=
  if n < 26 then Char.ofNat ('A'.toNat + n)
  else if n < 52 then Char.ofNat ('a'.toNat + (n - 26))
  else if n < 62 then Char.ofNat ('0'.toNat + (n - 52))
  else if n = 62 then '-'
  else '_'

/-- The value of a character; those of the other base64 alphabet have theirs too. -/
def value? (c : Char) : Option Nat :=
  if 'A' ≤ c ∧ c ≤ 'Z' then some (c.toNat - 'A'.toNat)
  else if 'a' ≤ c ∧ c ≤ 'z' then some (c.toNat - 'a'.toNat + 26)
  else if '0' ≤ c ∧ c ≤ '9' then some (c.toNat - '0'.toNat + 52)
  else if c = '-' ∨ c = '+' then some 62
  else if c = '_' ∨ c = '/' then some 63
  else none

theorem value?_digit {n : Nat} (h : n < 64) : value? (digit n) = some n := by
  revert n
  decide

/-- The characters that are written: letters, digits, `-` and `_`. -/
def isDigit (c : Char) : Bool :=
  ('A' ≤ c && c ≤ 'Z') || ('a' ≤ c && c ≤ 'z') || ('0' ≤ c && c ≤ '9') || c == '-' || c == '_'

theorem isDigit_digit {n : Nat} (h : n < 64) : isDigit (digit n) = true := by
  revert n
  decide

/-- Without padding. -/
def encode (bs : List Nat) : List Char := (sextets bs).map digit

/-- What is not in the alphabet is skipped, up to the first sign of padding. -/
def decode (cs : List Char) : List Nat := bytes ((cs.takeWhile (· ≠ '=')).filterMap value?)

theorem isDigit_encode {bs : List Nat} (h : ∀ b ∈ bs, b < 256) :
    ∀ c ∈ encode bs, isDigit c = true := by
  intro c hc
  obtain ⟨d, hd, rfl⟩ := List.mem_map.mp hc
  exact isDigit_digit (sextets_lt h d hd)

theorem decode_encode {bs : List Nat} (h : ∀ b ∈ bs, b < 256) : decode (encode bs) = bs := by
  have hunpadded : (encode bs).takeWhile (· ≠ '=') = encode bs := by
    refine List.takeWhile_eq_self_iff.mpr fun c hc => ?_
    have hdigit := isDigit_encode h c hc
    rw [decide_eq_true_iff]
    rintro rfl
    cases hdigit
  have hvalues : (encode bs).filterMap value? = sextets bs := by
    have hsome : ∀ d ∈ sextets bs, value? (digit d) = some d := fun d hd =>
      value?_digit (sextets_lt h d hd)
    unfold encode
    rw [List.filterMap_map]
    exact (List.filterMap_congr hsome).trans List.filterMap_some
  rw [decode, hunpadded, hvalues, bytes_sextets h]

end Base64url
