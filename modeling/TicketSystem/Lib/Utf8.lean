import Mathlib.Data.Char
import Mathlib.Data.List.Basic

namespace Utf8

/-- The bytes of a character. -/
def encodeChar (c : Char) : List Nat :=
  if c.toNat < 0x80 then [c.toNat]
  else if c.toNat < 0x800 then [0xC0 + c.toNat / 0x40, 0x80 + c.toNat % 0x40]
  else if c.toNat < 0x10000 then
    [0xE0 + c.toNat / 0x1000, 0x80 + c.toNat / 0x40 % 0x40, 0x80 + c.toNat % 0x40]
  else
    [0xF0 + c.toNat / 0x40000, 0x80 + c.toNat / 0x1000 % 0x40, 0x80 + c.toNat / 0x40 % 0x40,
      0x80 + c.toNat % 0x40]

def encode (cs : List Char) : List Nat := cs.flatMap encodeChar

theorem toNat_lt (c : Char) : c.toNat < 0xD800 ∨ 0xDFFF < c.toNat ∧ c.toNat < 0x110000 :=
  c.valid

theorem encodeChar_lt {c : Char} {b : Nat} (h : b ∈ encodeChar c) : b < 256 := by
  have hvalid := toNat_lt c
  unfold encodeChar at h
  split at h
  next hc => simp only [List.mem_singleton] at h; omega
  next =>
    split at h
    next => simp only [List.mem_cons, List.not_mem_nil, or_false] at h; omega
    next =>
      split at h
      next => simp only [List.mem_cons, List.not_mem_nil, or_false] at h; omega
      next => simp only [List.mem_cons, List.not_mem_nil, or_false] at h; omega

theorem encode_lt {cs : List Char} {b : Nat} (h : b ∈ encode cs) : b < 256 := by
  obtain ⟨c, _, hb⟩ := List.mem_flatMap.mp h
  exact encodeChar_lt hb

/-! ### Decoding, with U+FFFD for what is not well formed -/

/-- A character begun: its bits so far, the bytes it lacks and the bounds of the next one. -/
structure Begun where
  bits : Nat
  missing : Nat
  lower : Nat := 0x80
  upper : Nat := 0xBF
  deriving DecidableEq, Repr

def replacement : Char := '\uFFFD'

/-- The first of several bytes. -/
def lead (b : Nat) : Option Begun :=
  if 0xC2 ≤ b ∧ b ≤ 0xDF then some { bits := b - 0xC0, missing := 1 }
  else if b = 0xE0 then some { bits := 0, missing := 2, lower := 0xA0 }
  else if b = 0xED then some { bits := 0xD, missing := 2, upper := 0x9F }
  else if 0xE1 ≤ b ∧ b ≤ 0xEF then some { bits := b - 0xE0, missing := 2 }
  else if b = 0xF0 then some { bits := 0, missing := 3, lower := 0x90 }
  else if b = 0xF4 then some { bits := 4, missing := 3, upper := 0x8F }
  else if 0xF1 ≤ b ∧ b ≤ 0xF3 then some { bits := b - 0xF0, missing := 3 }
  else none

/-- What a byte between characters completes and begins. -/
def first (b : Nat) : List Char × Option Begun :=
  if b < 0x80 then ([Char.ofNat b], none)
  else
    match lead b with
    | some p => ([], some p)
    | none => ([replacement], none)

def next : Option Begun → Nat → List Char × Option Begun
  | none, b => first b
  | some p, b =>
    if p.lower ≤ b ∧ b ≤ p.upper then
      if p.missing = 1 then ([Char.ofNat (p.bits * 0x40 + (b - 0x80))], none)
      else ([], some { bits := p.bits * 0x40 + (b - 0x80), missing := p.missing - 1 })
    -- the byte that does not fit is read once more
    else (replacement :: (first b).1, (first b).2)

def decodeFrom : Option Begun → List Nat → List Char
  | none, [] => []
  | some _, [] => [replacement]
  | s, b :: bs => (next s b).1 ++ decodeFrom (next s b).2 bs

def decode (bs : List Nat) : List Char := decodeFrom none bs

theorem next_last {p : Begun} {b : Nat} (hb : p.lower ≤ b ∧ b ≤ p.upper) (h : p.missing = 1) :
    next (some p) b = ([Char.ofNat (p.bits * 0x40 + (b - 0x80))], none) := by
  simp only [next, if_pos hb, if_pos h]

theorem next_more {p : Begun} {b : Nat} (hb : p.lower ≤ b ∧ b ≤ p.upper) (h : p.missing ≠ 1) :
    next (some p) b =
      ([], some { bits := p.bits * 0x40 + (b - 0x80), missing := p.missing - 1 }) := by
  simp only [next, if_pos hb, if_neg h]

theorem first_ascii {b : Nat} (h : b < 0x80) : first b = ([Char.ofNat b], none) := if_pos h

theorem first_of_lead {b : Nat} {p : Begun} (hb : 0x80 ≤ b) (h : lead b = some p) :
    first b = ([], some p) := by
  simp only [first, if_neg (Nat.not_lt.mpr hb), h]

theorem lead_two {k : Nat} (h : 2 ≤ k ∧ k < 32) :
    lead (0xC0 + k) = some { bits := k, missing := 1 } := by
  have hk : 0xC2 ≤ 0xC0 + k ∧ 0xC0 + k ≤ 0xDF := by omega
  simp only [lead, if_pos hk, Nat.add_sub_cancel_left]

/-- The second byte fits after the first of three, unless the character is too small or a
surrogate. -/
theorem lead_three {k m : Nat} (hk : k < 16) (hm : m < 64) (hsmall : k = 0 → 32 ≤ m)
    (hsurrogate : k = 13 → m < 32) : ∃ lower upper, lead (0xE0 + k) = some ⟨k, 2, lower, upper⟩ ∧
      lower ≤ 0x80 + m ∧ 0x80 + m ≤ upper := by
  by_cases h0 : k = 0
  · subst h0
    have := hsmall rfl
    exact ⟨0xA0, 0xBF, rfl, by omega, by omega⟩
  · by_cases hd : k = 13
    · subst hd
      have := hsurrogate rfl
      exact ⟨0x80, 0x9F, rfl, by omega, by omega⟩
    · have h₂ : ¬ (0xC2 ≤ 0xE0 + k ∧ 0xE0 + k ≤ 0xDF) := by omega
      have he : ¬ 0xE0 + k = 0xE0 := by omega
      have hd : ¬ 0xE0 + k = 0xED := by omega
      have hr : 0xE1 ≤ 0xE0 + k ∧ 0xE0 + k ≤ 0xEF := by omega
      refine ⟨0x80, 0xBF, ?_, by omega, by omega⟩
      simp only [lead, if_neg h₂, if_neg he, if_neg hd, if_pos hr, Nat.add_sub_cancel_left]

/-- The second byte fits after the first of four, unless the character is too small or too
large. -/
theorem lead_four {k m : Nat} (hk : k < 5) (hm : m < 64) (hsmall : k = 0 → 16 ≤ m)
    (hlarge : k = 4 → m < 16) : ∃ lower upper, lead (0xF0 + k) = some ⟨k, 3, lower, upper⟩ ∧
      lower ≤ 0x80 + m ∧ 0x80 + m ≤ upper := by
  obtain rfl | rfl | h : k = 0 ∨ k = 4 ∨ k = 1 ∨ k = 2 ∨ k = 3 := by omega
  · have := hsmall rfl
    exact ⟨0x90, 0xBF, rfl, by omega, by omega⟩
  · have := hlarge rfl
    exact ⟨0x80, 0x8F, rfl, by omega, by omega⟩
  · refine ⟨0x80, 0xBF, ?_, by omega, by omega⟩
    rcases h with rfl | rfl | rfl
    · rfl
    · rfl
    · rfl

theorem decodeFrom_two {k m : Nat} (hk : 2 ≤ k ∧ k < 32) (hm : m < 64) (bs : List Nat) :
    decodeFrom none ((0xC0 + k) :: (0x80 + m) :: bs) =
      Char.ofNat (k * 0x40 + m) :: decodeFrom none bs := by
  have hfirst : next none (0xC0 + k) = ([], some { bits := k, missing := 1 }) :=
    first_of_lead (by omega) (lead_two hk)
  have hlast := next_last (p := { bits := k, missing := 1 }) (b := 0x80 + m)
    ⟨by simp, by simp; omega⟩ rfl
  simp only [decodeFrom, hfirst, hlast, Nat.add_sub_cancel_left, List.nil_append, List.cons_append]

theorem decodeFrom_three {k m n : Nat} (hk : k < 16) (hm : m < 64) (hn : n < 64)
    (hsmall : k = 0 → 32 ≤ m) (hsurrogate : k = 13 → m < 32) (bs : List Nat) :
    decodeFrom none ((0xE0 + k) :: (0x80 + m) :: (0x80 + n) :: bs) =
      Char.ofNat ((k * 0x40 + m) * 0x40 + n) :: decodeFrom none bs := by
  obtain ⟨lower, upper, hlead, hbounds⟩ := lead_three hk hm hsmall hsurrogate
  have hfirst : next none (0xE0 + k) = ([], some ⟨k, 2, lower, upper⟩) :=
    first_of_lead (by omega) hlead
  have hmore := next_more (p := ⟨k, 2, lower, upper⟩) hbounds (by simp)
  have hlast := next_last (p := { bits := k * 0x40 + m, missing := 1 }) (b := 0x80 + n)
    ⟨by simp, by simp; omega⟩ rfl
  simp only [decodeFrom, hfirst, hmore, hlast, Nat.add_sub_cancel_left, List.nil_append,
    List.cons_append, Nat.reduceSub]

theorem decodeFrom_four {k m n l : Nat} (hk : k < 5) (hm : m < 64) (hn : n < 64) (hl : l < 64)
    (hsmall : k = 0 → 16 ≤ m) (hlarge : k = 4 → m < 16) (bs : List Nat) :
    decodeFrom none ((0xF0 + k) :: (0x80 + m) :: (0x80 + n) :: (0x80 + l) :: bs) =
      Char.ofNat (((k * 0x40 + m) * 0x40 + n) * 0x40 + l) :: decodeFrom none bs := by
  obtain ⟨lower, upper, hlead, hbounds⟩ := lead_four hk hm hsmall hlarge
  have hfirst : next none (0xF0 + k) = ([], some ⟨k, 3, lower, upper⟩) :=
    first_of_lead (by omega) hlead
  have hmore := next_more (p := ⟨k, 3, lower, upper⟩) hbounds (by simp)
  have hmore' := next_more (p := { bits := k * 0x40 + m, missing := 2 }) (b := 0x80 + n)
    ⟨by simp, by simp; omega⟩ (by simp)
  have hlast := next_last (p := { bits := (k * 0x40 + m) * 0x40 + n, missing := 1 })
    (b := 0x80 + l) ⟨by simp, by simp; omega⟩ rfl
  simp only [decodeFrom, hfirst, hmore, hmore', hlast, Nat.add_sub_cancel_left, List.nil_append,
    List.cons_append, Nat.reduceSub]

theorem decodeFrom_encodeChar (c : Char) (bs : List Nat) :
    decodeFrom none (encodeChar c ++ bs) = c :: decodeFrom none bs := by
  have hvalid := toNat_lt c
  have hchar : ∀ n, n = c.toNat → Char.ofNat n = c := fun n hn => hn ▸ Char.ofNat_toNat c
  unfold encodeChar
  split
  next h =>
    have hfirst : next none c.toNat = ([Char.ofNat c.toNat], none) := first_ascii h
    simp only [List.cons_append, List.nil_append, decodeFrom, hfirst, hchar _ rfl]
  next =>
    split
    next =>
      have h := decodeFrom_two (k := c.toNat / 0x40) (m := c.toNat % 0x40) (by omega) (by omega) bs
      exact h.trans (congrArg (· :: _) (hchar _ (by omega)))
    next =>
      split
      next =>
        have h := decodeFrom_three (k := c.toNat / 0x1000) (m := c.toNat / 0x40 % 0x40)
          (n := c.toNat % 0x40) (by omega) (by omega) (by omega) (by omega) (by omega) bs
        exact h.trans (congrArg (· :: _) (hchar _ (by omega)))
      next =>
        have h := decodeFrom_four (k := c.toNat / 0x40000) (m := c.toNat / 0x1000 % 0x40)
          (n := c.toNat / 0x40 % 0x40) (l := c.toNat % 0x40) (by omega) (by omega) (by omega)
          (by omega) (by omega) (by omega) bs
        exact h.trans (congrArg (· :: _) (hchar _ (by omega)))

theorem decode_encode (cs : List Char) : decode (encode cs) = cs := by
  induction cs with
  | nil => rfl
  | cons c cs ih => exact (decodeFrom_encodeChar c (encode cs)).trans (congrArg (c :: ·) ih)

end Utf8
