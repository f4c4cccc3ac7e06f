import Mathlib.Data.List.Basic

namespace Url

structure Parts where
  scheme : List Char
  username : List Char
  password : List Char
  host : List Char
  port : List Char
  path : List Char
  query : List Char
  deriving DecidableEq, Repr

def Parts.authority (p : Parts) : List Char :=
  p.username ++ ':' :: (p.password ++ '@' :: (p.host ++ ':' :: p.port))

def Parts.text (p : Parts) : List Char :=
  p.scheme ++ ':' :: '/' :: '/' :: (p.authority ++ '/' :: (p.path ++ '?' :: p.query))

/-- What is before and after the first `sep`. -/
def cut (sep : Char) : List Char → Option (List Char × List Char)
  | [] => none
  | c :: cs =>
    if c = sep then some ([], cs)
    else (cut sep cs).map fun sides => (c :: sides.1, sides.2)

/-- The scheme, and what follows its `://`. -/
def cutScheme (cs : List Char) : Option (List Char × List Char) :=
  match cut ':' cs with
  | some (scheme, '/' :: '/' :: rest) => some (scheme, rest)
  | _ => none

/-- The userinfo ends at the first `@`, its username at the first `:`. -/
def split (cs : List Char) : Option Parts := do
  let (scheme, rest) ← cutScheme cs
  let (userinfo, rest) ← cut '@' rest
  let (username, password) ← cut ':' userinfo
  let (location, rest) ← cut '/' rest
  let (host, port) ← cut ':' location
  let (path, query) ← cut '?' rest
  some { scheme, username, password, host, port, path, query }

def endsAuthority (c : Char) : Bool := c = '/' ∨ c = '?' ∨ c = '#'

/-- What stands between `://` and the path, the query or the fragment. -/
def authority? (cs : List Char) : Option (List Char) :=
  (cutScheme cs).map fun sides => sides.2.takeWhile (!endsAuthority ·)

theorem cut_append {sep : Char} {before : List Char} (h : sep ∉ before) (after : List Char) :
    cut sep (before ++ sep :: after) = some (before, after) := by
  induction before with
  | nil => simp [cut]
  | cons c cs ih =>
    have hne : c ≠ sep := fun heq => h (heq ▸ List.mem_cons_self)
    have hcs : sep ∉ cs := fun hmem => h (List.mem_cons_of_mem c hmem)
    rw [List.cons_append, cut, if_neg hne, ih hcs, Option.map_some]

theorem cut_of_notMem {sep : Char} {cs : List Char} (h : sep ∉ cs) : cut sep cs = none := by
  induction cs with
  | nil => rfl
  | cons c cs ih =>
    rw [List.mem_cons, not_or] at h
    rw [cut, if_neg (Ne.symm h.1), ih h.2, Option.map_none]

theorem cutScheme_append {scheme : List Char} (h : ':' ∉ scheme) (rest : List Char) :
    cutScheme (scheme ++ ':' :: '/' :: '/' :: rest) = some (scheme, rest) := by
  simp only [cutScheme, cut_append h]

/-- No part has a delimiter that would end it early. -/
structure Parts.Separable (p : Parts) : Prop where
  scheme : ':' ∉ p.scheme
  username : ':' ∉ p.username ∧ '@' ∉ p.username
  password : '@' ∉ p.password
  host : ':' ∉ p.host ∧ '/' ∉ p.host
  port : '/' ∉ p.port
  path : '?' ∉ p.path

theorem split_text {p : Parts} (h : p.Separable) : split p.text = some p := by
  have huserinfo : '@' ∉ p.username ++ ':' :: p.password := by
    simp [h.username.2, h.password]
  have hlocation : '/' ∉ p.host ++ ':' :: p.port := by
    simp [h.host.2, h.port]
  have htext : p.text = p.scheme ++ ':' :: '/' :: '/' :: ((p.username ++ ':' :: p.password) ++
      '@' :: ((p.host ++ ':' :: p.port) ++ '/' :: (p.path ++ '?' :: p.query))) := by
    simp [Parts.text, Parts.authority]
  rw [split, htext, cutScheme_append h.scheme]
  simp only [Option.bind_eq_bind, Option.bind_some, cut_append huserinfo, cut_append h.username.1,
    cut_append hlocation, cut_append h.host.1, cut_append h.path]

theorem authority?_text {p : Parts} (hscheme : ':' ∉ p.scheme)
    (h : ∀ c ∈ p.authority, endsAuthority c = false) : authority? p.text = some p.authority := by
  have hall : ∀ c ∈ p.authority, (!endsAuthority c) = true := by
    intro c hc
    rw [h c hc]
    rfl
  have hslash : endsAuthority '/' = true := rfl
  rw [authority?, Parts.text, cutScheme_append hscheme, Option.map_some,
    List.takeWhile_append_of_pos hall]
  simp [List.takeWhile, hslash]

end Url
