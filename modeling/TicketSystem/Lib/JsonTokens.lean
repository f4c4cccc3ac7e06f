import Mathlib.Data.Char
import Mathlib.Data.List.Chain

namespace JsonText

/-- Where the reading of a number stands. -/
inductive Numeral where
  | start | minus | zero | int | point | fraction | letter | sign | power
  deriving DecidableEq, Repr

def Numeral.step : Numeral → Char → Option Numeral
  | .start, c =>
    if c = '-' then some .minus else if c = '0' then some .zero
    else if c.isDigit then some .int else none
  | .minus, c => if c = '0' then some .zero else if c.isDigit then some .int else none
  | .zero, c =>
    if c = '.' then some .point else if c = 'e' ∨ c = 'E' then some .letter else none
  | .int, c =>
    if c.isDigit then some .int else if c = '.' then some .point
    else if c = 'e' ∨ c = 'E' then some .letter else none
  | .point, c => if c.isDigit then some .fraction else none
  | .fraction, c =>
    if c.isDigit then some .fraction else if c = 'e' ∨ c = 'E' then some .letter else none
  | .letter, c =>
    if c = '+' ∨ c = '-' then some .sign else if c.isDigit then some .power else none
  | .sign, c => if c.isDigit then some .power else none
  | .power, c => if c.isDigit then some .power else none

def Numeral.complete : Numeral → Bool
  | .zero | .int | .fraction | .power => true
  | _ => false

def isNumber (cs : List Char) : Bool := (cs.foldlM Numeral.step .start).any Numeral.complete

/-- The text of a number. -/
structure NumberText where
  chars : List Char
  grammatical : isNumber chars = true
  deriving DecidableEq

theorem Numeral.digits {n : Nat} (hn : 0 < n) {q : Numeral} (hq : q = .start ∨ q = .minus) :
    (Nat.toDigits 10 n).foldlM Numeral.step q = some .int := by
  induction n using Nat.strongRecOn with
  | ind n ih =>
    rcases Nat.lt_or_ge n 10 with hlt | hge
    · have hone : ∀ n < 10, 0 < n → ∀ q, q = Numeral.start ∨ q = .minus →
          [Nat.digitChar n].foldlM Numeral.step q = some .int := by
        rintro n hlt hn q (rfl | rfl)
        · revert n
          decide
        · revert n
          decide
      rw [Nat.toDigits_of_lt_base hlt]
      exact hone n hlt hn q hq
    · have hdigit : (Nat.digitChar (n % 10)).isDigit = true := by
        have hlt : n % 10 < 10 := Nat.mod_lt _ (by decide)
        generalize n % 10 = d at hlt
        revert d
        decide
      rw [Nat.toDigits_of_base_le (by decide) hge, List.foldlM_append,
        ih (n / 10) (by omega) (by omega)]
      simp [Numeral.step, hdigit]

/-- The text of an integer. -/
def NumberText.ofInt : Int → NumberText
  | .ofNat n => ⟨Nat.toDigits 10 n, by
      rcases Nat.eq_zero_or_pos n with rfl | hn
      · rfl
      · rw [isNumber, Numeral.digits hn (.inl rfl)]
        rfl⟩
  | .negSucc n => ⟨'-' :: Nat.toDigits 10 (n + 1), by
      have h := Numeral.digits (Nat.succ_pos n) (.inr rfl)
      rw [isNumber, List.foldlM_cons]
      exact congrArg (Option.any Numeral.complete) h⟩

inductive Mark where
  | leftBracket | rightBracket | leftBrace | rightBrace | comma | colon
  deriving DecidableEq, Repr

/-- A bracket or a sign, a string, or a word: `null`, `true`, `false` or a number. -/
inductive Token where
  | mark (m : Mark)
  | string (s : String)
  | word (cs : List Char)
  deriving DecidableEq, Repr

def Mark.char : Mark → Char
  | .leftBracket => '['
  | .rightBracket => ']'
  | .leftBrace => '{'
  | .rightBrace => '}'
  | .comma => ','
  | .colon => ':'

def mark? (c : Char) : Option Mark :=
  if c = '[' then some .leftBracket
  else if c = ']' then some .rightBracket
  else if c = '{' then some .leftBrace
  else if c = '}' then some .rightBrace
  else if c = ',' then some .comma
  else if c = ':' then some .colon
  else none

/-- The characters of words. -/
def isWordChar (c : Char) : Bool := c.isAlphanum || c = '-' || c = '+' || c = '.'

def isBlank (c : Char) : Bool := c = ' ' || c = '\t' || c = '\n' || c = '\r'

def hexChar (n : Nat) : Char := Nat.digitChar n

def hex? (c : Char) : Option Nat :=
  if c.isDigit then some (c.toNat - '0'.toNat)
  else if 'a' ≤ c ∧ c ≤ 'f' then some (c.toNat - 'a'.toNat + 10)
  else if 'A' ≤ c ∧ c ≤ 'F' then some (c.toNat - 'A'.toNat + 10)
  else none

def escapeChar (c : Char) : List Char :=
  if c = '"' then ['\\', '"']
  else if c = '\\' then ['\\', '\\']
  else if c = '\x08' then ['\\', 'b']
  else if c = '\t' then ['\\', 't']
  else if c = '\n' then ['\\', 'n']
  else if c = '\x0c' then ['\\', 'f']
  else if c = '\r' then ['\\', 'r']
  else if c.toNat < 0x20 then
    ['\\', 'u', '0', '0', hexChar (c.toNat / 16), hexChar (c.toNat % 16)]
  else [c]

def Token.text : Token → List Char
  | .mark m => [m.char]
  | .string s => '"' :: (s.toList.flatMap escapeChar ++ ['"'])
  | .word cs => cs

/-! ### The scanner -/

/-- The characters of a string so far; a high surrogate waits for the low one. -/
structure Scanned where
  chars : List Char := []
  high : Option Nat := none
  deriving DecidableEq, Repr

/-- A surrogate that is alone is read as U+FFFD. -/
def Scanned.flush (s : Scanned) : List Char :=
  if s.high.isSome then s.chars ++ ['\uFFFD'] else s.chars

def Scanned.char (s : Scanned) (c : Char) : Scanned := { chars := s.flush ++ [c] }

/-- A UTF-16 code unit that was written as an escape. -/
def Scanned.unit (s : Scanned) (n : Nat) : Scanned :=
  if 0xD800 ≤ n ∧ n < 0xDC00 then { chars := s.flush, high := some n }
  else if 0xDC00 ≤ n ∧ n < 0xE000 then
    match s.high with
    | some h => { chars := s.chars ++ [Char.ofNat (0x10000 + (h - 0xD800) * 0x400 + (n - 0xDC00))] }
    | none => s.char '\uFFFD'
  else s.char (Char.ofNat n)

inductive Mode where
  | between
  | word (cs : List Char)
  | string (s : Scanned)
  | escape (s : Scanned)
  | unicode (s : Scanned) (value digits : Nat)
  deriving DecidableEq, Repr

/-- The tokens read so far, and what is being read. -/
structure Scan where
  tokens : List Token := []
  mode : Mode := .between
  deriving DecidableEq, Repr

/-- A character between tokens. -/
def Scan.start (tokens : List Token) (c : Char) : Option Scan :=
  match mark? c with
  | some m => some { tokens := tokens ++ [.mark m] }
  | none =>
    if c = '"' then some { tokens := tokens, mode := .string {} }
    else if isWordChar c then some { tokens := tokens, mode := .word [c] }
    else if isBlank c then some { tokens := tokens }
    else none

/-- What a single character after a backslash stands for. -/
def unescape? (c : Char) : Option Char :=
  if c = '"' ∨ c = '\\' ∨ c = '/' then some c
  else if c = 'b' then some '\x08'
  else if c = 't' then some '\t'
  else if c = 'n' then some '\n'
  else if c = 'f' then some '\x0c'
  else if c = 'r' then some '\r'
  else none

def Scan.step (s : Scan) (c : Char) : Option Scan :=
  match s.mode with
  | .between => Scan.start s.tokens c
  | .word cs =>
    if isWordChar c then some { s with mode := .word (cs ++ [c]) }
    else Scan.start (s.tokens ++ [.word cs]) c
  | .string a =>
    if c = '"' then some { tokens := s.tokens ++ [.string (String.ofList a.flush)] }
    else if c = '\\' then some { s with mode := .escape a }
    else if c.toNat < 0x20 then none
    else some { s with mode := .string (a.char c) }
  | .escape a =>
    if c = 'u' then some { s with mode := .unicode a 0 0 }
    else (unescape? c).map fun d => { s with mode := .string (a.char d) }
  | .unicode a value digits =>
    (hex? c).map fun d =>
      if digits = 3 then { s with mode := .string (a.unit (value * 16 + d)) }
      else { s with mode := .unicode a (value * 16 + d) (digits + 1) }

/-- The tokens, when the text does not end within a string. -/
def Scan.finish (s : Scan) : Option (List Token) :=
  match s.mode with
  | .between => some s.tokens
  | .word cs => some (s.tokens ++ [.word cs])
  | _ => none

def scan (s : Scan) (cs : List Char) : Option Scan := cs.foldlM Scan.step s

def tokens? (cs : List Char) : Option (List Token) := (scan {} cs).bind Scan.finish

theorem scan_append (s : Scan) (cs ds : List Char) :
    scan s (cs ++ ds) = (scan s cs).bind (scan · ds) := List.foldlM_append

theorem Numeral.wordChar_of_step {q q' : Numeral} {c : Char} (h : q.step c = some q') :
    isWordChar c = true := by
  have hdigit : c.isDigit = true → isWordChar c = true := fun hd => by
    simp [isWordChar, Char.isAlphanum, hd]
  have hother : ∀ d, d = '-' ∨ d = '0' ∨ d = '.' ∨ d = 'e' ∨ d = 'E' ∨ d = '+' →
      isWordChar d = true := by
    rintro d (rfl | rfl | rfl | rfl | rfl | rfl) <;> rfl
  cases q <;> simp only [Numeral.step] at h <;> split_ifs at h <;> grind

theorem wordChar_of_isNumber {cs : List Char} (h : isNumber cs = true) :
    ∀ c ∈ cs, isWordChar c = true := by
  have hall : ∀ (cs : List Char) (q : Numeral), (cs.foldlM Numeral.step q).isSome →
      ∀ c ∈ cs, isWordChar c = true := by
    intro cs
    induction cs with
    | nil => simp
    | cons c cs ih =>
      intro q hsome
      rw [List.foldlM_cons] at hsome
      cases hstep : q.step c with
      | none => rw [hstep] at hsome; cases hsome
      | some q' =>
        rw [hstep] at hsome
        exact List.forall_mem_cons.mpr ⟨Numeral.wordChar_of_step hstep, ih q' hsome⟩
  refine hall cs .start ?_
  cases hn : cs.foldlM Numeral.step .start with
  | none => rw [isNumber, hn] at h; cases h
  | some q => rfl

theorem hex?_hexChar {n : Nat} (h : n < 16) : hex? (hexChar n) = some n := by
  revert n
  decide

theorem scan_control {ts : List Token} {acc : List Char} {c : Char} (h : c.toNat < 0x20) :
    scan { tokens := ts, mode := .string { chars := acc } }
        ['\\', 'u', '0', '0', hexChar (c.toNat / 16), hexChar (c.toNat % 16)] =
      some { tokens := ts, mode := .string { chars := acc ++ [c] } } := by
  have h₁ : hex? (hexChar (c.toNat / 16)) = some (c.toNat / 16) := hex?_hexChar (by omega)
  have h₂ : hex? (hexChar (c.toNat % 16)) = some (c.toNat % 16) := hex?_hexChar (by omega)
  have hopened : scan { tokens := ts, mode := .string { chars := acc } } ['\\', 'u', '0', '0'] =
      some { tokens := ts, mode := .unicode { chars := acc } 0 2 } := rfl
  have hunit : Scanned.unit { chars := acc } c.toNat = { chars := acc ++ [c] } := by
    have hhigh : ¬ (0xD800 ≤ c.toNat ∧ c.toNat < 0xDC00) := by omega
    have hlow : ¬ (0xDC00 ≤ c.toNat ∧ c.toNat < 0xE000) := by omega
    simp [Scanned.unit, hhigh, hlow, Scanned.char, Scanned.flush]
  have hvalue : (0 * 16 + c.toNat / 16) * 16 + c.toNat % 16 = c.toNat := by omega
  refine (scan_append _ ['\\', 'u', '0', '0'] _).trans ?_
  rw [hopened]
  simp only [Option.bind_some, scan, List.foldlM_cons, List.foldlM_nil, Scan.step, h₁, h₂,
    Option.map_some, Option.bind_eq_bind, if_true, hvalue, hunit, if_false,
    Nat.reduceEqDiff, Nat.reduceAdd]
  rfl

theorem scan_escapeChar (ts : List Token) (acc : List Char) (c : Char) :
    scan { tokens := ts, mode := .string { chars := acc } } (escapeChar c) =
      some { tokens := ts, mode := .string { chars := acc ++ [c] } } := by
  unfold escapeChar
  split
  next h => subst h; rfl
  next hquote =>
    split
    next h => subst h; rfl
    next hbackslash =>
      split
      next h => subst h; rfl
      next =>
        split
        next h => subst h; rfl
        next =>
          split
          next h => subst h; rfl
          next =>
            split
            next h => subst h; rfl
            next =>
              split
              next h => subst h; rfl
              next =>
                split
                next h => exact scan_control h
                next h =>
                  simp [scan, Scan.step, hquote, hbackslash, h, Scanned.char, Scanned.flush]

theorem scan_chars (ts : List Token) (acc cs : List Char) :
    scan { tokens := ts, mode := .string { chars := acc } } (cs.flatMap escapeChar) =
      some { tokens := ts, mode := .string { chars := acc ++ cs } } := by
  induction cs generalizing acc with
  | nil => rw [List.append_nil]; rfl
  | cons c cs ih =>
    rw [List.flatMap_cons, scan_append, scan_escapeChar, Option.bind_some, ih, List.append_assoc]
    rfl

theorem scan_string (ts : List Token) (s : String) :
    scan { tokens := ts } (Token.text (.string s)) = some { tokens := ts ++ [.string s] } := by
  have hopen : scan { tokens := ts } ['"'] =
      some { tokens := ts, mode := .string { chars := [] } } := rfl
  have hclose : ∀ acc, scan { tokens := ts, mode := .string { chars := acc } } ['"'] =
      some { tokens := ts ++ [.string (String.ofList acc)] } := fun _ => rfl
  have htext : Token.text (.string s) = ['"'] ++ (s.toList.flatMap escapeChar ++ ['"']) := rfl
  rw [htext, scan_append, hopen, Option.bind_some, scan_append, scan_chars, Option.bind_some,
    List.nil_append, hclose, String.ofList_toList]

theorem scan_mark (ts : List Token) (m : Mark) :
    scan { tokens := ts } (Token.text (.mark m)) = some { tokens := ts ++ [.mark m] } := by
  cases m <;> rfl

theorem mark?_of_wordChar {c : Char} (h : isWordChar c = true) : mark? c = none ∧ c ≠ '"' := by
  have hne : ∀ d, isWordChar d = false → c ≠ d := by
    rintro d hd rfl
    cases h.symm.trans hd
  refine ⟨?_, hne '"' rfl⟩
  simp only [mark?, if_neg (hne '[' rfl), if_neg (hne ']' rfl), if_neg (hne '{' rfl),
    if_neg (hne '}' rfl), if_neg (hne ',' rfl), if_neg (hne ':' rfl)]

theorem scan_word {ts : List Token} {cs : List Char} (hne : cs ≠ [])
    (hall : ∀ c ∈ cs, isWordChar c = true) :
    scan { tokens := ts } (Token.text (.word cs)) = some { tokens := ts, mode := .word cs } := by
  have hmore : ∀ (ds acc : List Char), (∀ c ∈ ds, isWordChar c = true) →
      scan { tokens := ts, mode := .word acc } ds =
        some { tokens := ts, mode := .word (acc ++ ds) } := by
    intro ds
    induction ds with
    | nil => intro acc _; rw [List.append_nil]; rfl
    | cons d ds ih =>
      intro acc hds
      obtain ⟨hd, hds⟩ := List.forall_mem_cons.mp hds
      have hstep : Scan.step { tokens := ts, mode := .word acc } d =
          some { tokens := ts, mode := .word (acc ++ [d]) } := if_pos hd
      rw [scan, List.foldlM_cons, hstep]
      refine (ih (acc ++ [d]) hds).trans ?_
      rw [List.append_assoc]
      rfl
  cases cs with
  | nil => exact absurd rfl hne
  | cons c cs =>
    obtain ⟨hc, hcs⟩ := List.forall_mem_cons.mp hall
    obtain ⟨hmark, hquote⟩ := mark?_of_wordChar hc
    have hstep : Scan.step { tokens := ts } c = some { tokens := ts, mode := .word [c] } := by
      simp only [Scan.step, Scan.start, hmark, if_neg hquote, if_pos hc]
    rw [Token.text, scan, List.foldlM_cons, hstep]
    exact hmore cs [c] hcs

/-- Tokens that can be read back: words are not empty, and of their own characters. -/
def Token.Readable : Token → Prop
  | .word cs => cs ≠ [] ∧ ∀ c ∈ cs, isWordChar c = true
  | _ => True

def Token.isWord : Token → Bool
  | .word _ => true
  | _ => false

/-- Two words need something between them. -/
def Token.Apart (a b : Token) : Prop := a.isWord = false ∨ b.isWord = false

/-- A character that is not of words ends the word before it. -/
theorem Scan.step_of_finish {s : Scan} {ts : List Token} (h : s.finish = some ts) {c : Char}
    (hc : isWordChar c = false) : s.step c = Scan.step { tokens := ts } c := by
  obtain ⟨tokens, mode⟩ := s
  cases mode with
  | between => cases h; rfl
  | word cs =>
    cases h
    simp [Scan.step, hc]
  | string => cases h
  | escape => cases h
  | unicode => cases h

theorem scan_of_finish {s : Scan} {ts : List Token} (h : s.finish = some ts) {t : Token}
    (ht : t.isWord = false) : scan s t.text = scan { tokens := ts } t.text := by
  have hcons : ∀ c cs, isWordChar c = false →
      scan s (c :: cs) = scan { tokens := ts } (c :: cs) := fun c cs hc => by
    rw [scan, scan, List.foldlM_cons, List.foldlM_cons, Scan.step_of_finish h hc]
  cases t with
  | mark m => cases m <;> exact hcons _ _ rfl
  | string a => exact hcons _ _ rfl
  | word => cases ht

/-- What is written of tokens is read back as they are. -/
theorem scan_tokens {ts : List Token} (hread : ∀ t ∈ ts, t.Readable)
    (hapart : ts.IsChain Token.Apart) {s : Scan} {before : List Token}
    (h : s.finish = some before)
    (hfirst : ∀ t, ts.head? = some t → t.isWord = true → s = { tokens := before }) :
    ∃ s', scan s (ts.flatMap Token.text) = some s' ∧ s'.finish = some (before ++ ts) := by
  induction ts generalizing s before with
  | nil => exact ⟨s, rfl, by rw [h, List.append_nil]⟩
  | cons t ts ih =>
    obtain ⟨ht, hread⟩ := List.forall_mem_cons.mp hread
    obtain ⟨hnext, hapart⟩ := List.isChain_cons.mp hapart
    obtain ⟨s', hscan, hfinish, hbetween⟩ : ∃ s', scan s t.text = some s' ∧
        s'.finish = some (before ++ [t]) ∧
          (t.isWord = false → s' = { tokens := before ++ [t] }) := by
      cases t with
      | mark m =>
        rw [scan_of_finish h rfl, scan_mark]
        exact ⟨_, rfl, rfl, fun _ => rfl⟩
      | string a =>
        rw [scan_of_finish h rfl, scan_string]
        exact ⟨_, rfl, rfl, fun _ => rfl⟩
      | word cs =>
        rw [hfirst _ rfl rfl, scan_word ht.1 ht.2]
        exact ⟨_, rfl, rfl, fun hw => nomatch hw⟩
    obtain ⟨s'', hscan', hfinish'⟩ := ih hread hapart hfinish fun t' ht' hw =>
      hbetween ((hnext t' ht').resolve_right (by rw [hw]; simp))
    refine ⟨s'', ?_, by rw [hfinish', List.append_assoc]; rfl⟩
    rw [List.flatMap_cons, scan_append, hscan]
    exact hscan'

theorem tokens?_text {ts : List Token} (hread : ∀ t ∈ ts, t.Readable)
    (hapart : ts.IsChain Token.Apart) : tokens? (ts.flatMap Token.text) = some ts := by
  obtain ⟨s', hscan, hfinish⟩ := scan_tokens hread hapart (s := {}) rfl fun _ _ _ => rfl
  rw [tokens?, hscan]
  exact hfinish

end JsonText
