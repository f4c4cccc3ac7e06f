import TicketSystem.Lib.JsonTokens

namespace JsonText

/-- A number is kept as its text. -/
inductive Value where
  | null
  | bool (b : Bool)
  | number (n : NumberText)
  | string (s : String)
  | array (items : List Value)
  | object (fields : List (String × Value))

/-- The property of an object; of several with one name, the last. -/
def Value.get? : Value → String → Option Value
  | .object fields, name => fields.reverse.lookup name
  | _, _ => none

def Value.string? : Value → Option String
  | .string s => some s
  | _ => none

mutual

def Value.tokens : Value → List Token
  | .null => [.word "null".toList]
  | .bool true => [.word "true".toList]
  | .bool false => [.word "false".toList]
  | .number n => [.word n.chars]
  | .string s => [.string s]
  | .array [] => [.mark .leftBracket, .mark .rightBracket]
  | .array (v :: vs) => .mark .leftBracket :: (v.tokens ++ moreItems vs)
  | .object [] => [.mark .leftBrace, .mark .rightBrace]
  | .object ((name, v) :: fs) =>
    .mark .leftBrace :: .string name :: .mark .colon :: (v.tokens ++ moreFields fs)

def moreItems : List Value → List Token
  | [] => [.mark .rightBracket]
  | v :: vs => .mark .comma :: (v.tokens ++ moreItems vs)

def moreFields : List (String × Value) → List Token
  | [] => [.mark .rightBrace]
  | (name, v) :: fs =>
    .mark .comma :: .string name :: .mark .colon :: (v.tokens ++ moreFields fs)

end

def stringify (v : Value) : List Char := v.tokens.flatMap Token.text

/-! ### Reading -/

/-- An array or an object that is not complete; of an object, with the name whose value is
being read. -/
inductive Frame where
  | items (done : List Value)
  | fields (done : List (String × Value)) (name : String)

/-- What may follow within the open frames. -/
inductive Reading where
  | value (open_ : List Frame)
  | firstItem (open_ : List Frame)
  | firstField (open_ : List Frame)
  | field (done : List (String × Value)) (open_ : List Frame)
  | colon (done : List (String × Value)) (name : String) (open_ : List Frame)
  | after (v : Value) (open_ : List Frame)

def wordValue (cs : List Char) : Option Value :=
  if cs = "null".toList then some .null
  else if cs = "true".toList then some (.bool true)
  else if cs = "false".toList then some (.bool false)
  else if h : isNumber cs = true then some (.number ⟨cs, h⟩)
  else none

def beginValue (frames : List Frame) : Token → Option Reading
  | .word cs => (wordValue cs).map (.after · frames)
  | .string s => some (.after (.string s) frames)
  | .mark .leftBracket => some (.firstItem frames)
  | .mark .leftBrace => some (.firstField frames)
  | _ => none

def Reading.step : Reading → Token → Option Reading
  | .value frames, t => beginValue frames t
  | .firstItem frames, .mark .rightBracket => some (.after (.array []) frames)
  | .firstItem frames, t => beginValue (.items [] :: frames) t
  | .firstField frames, .mark .rightBrace => some (.after (.object []) frames)
  | .firstField frames, .string name => some (.colon [] name frames)
  | .field done frames, .string name => some (.colon done name frames)
  | .colon done name frames, .mark .colon => some (.value (.fields done name :: frames))
  | .after v (.items done :: frames), .mark .comma =>
    some (.value (.items (done ++ [v]) :: frames))
  | .after v (.items done :: frames), .mark .rightBracket =>
    some (.after (.array (done ++ [v])) frames)
  | .after v (.fields done name :: frames), .mark .comma =>
    some (.field (done ++ [(name, v)]) frames)
  | .after v (.fields done name :: frames), .mark .rightBrace =>
    some (.after (.object (done ++ [(name, v)])) frames)
  | _, _ => none

def Reading.finish : Reading → Option Value
  | .after v [] => some v
  | _ => none

def read (r : Reading) (ts : List Token) : Option Reading := ts.foldlM Reading.step r

/-- The value a text is of, when it is of one. -/
def parse (cs : List Char) : Option Value :=
  (tokens? cs).bind fun ts => (read (.value []) ts).bind Reading.finish

theorem read_append (r : Reading) (ts ts' : List Token) :
    read r (ts ++ ts') = (read r ts).bind (read · ts') := List.foldlM_append

theorem read_cons (r : Reading) (t : Token) (ts : List Token) :
    read r (t :: ts) = (r.step t).bind (read · ts) := List.foldlM_cons

/-- The tokens of a value do not begin with the bracket that ends an array. -/
theorem read_firstItem (frames : List Frame) (v : Value) (ts : List Token) :
    read (.firstItem frames) (v.tokens ++ ts) =
      read (.value (.items [] :: frames)) (v.tokens ++ ts) := by
  cases v with
  | bool b => cases b <;> rfl
  | array vs => cases vs <;> rfl
  | object fs => cases fs <;> rfl
  | _ => rfl

theorem wordValue_number (n : NumberText) : wordValue n.chars = some (.number n) := by
  have hne : ∀ cs, isNumber cs = false → n.chars ≠ cs := by
    rintro cs hcs heq
    have h := n.grammatical
    rw [heq, hcs] at h
    cases h
  rw [wordValue, if_neg (hne _ (by decide)), if_neg (hne _ (by decide)),
    if_neg (hne _ (by decide)), dif_pos n.grammatical]

mutual

/-- The tokens of a value, read where one must follow, are read as the value. -/
theorem read_tokens (frames : List Frame) :
    ∀ v : Value, read (.value frames) v.tokens = some (.after v frames)
  | .null => rfl
  | .bool true => rfl
  | .bool false => rfl
  | .number n => by
    rw [Value.tokens, read_cons]
    simp only [Reading.step, beginValue, wordValue_number]
    rfl
  | .string s => rfl
  | .array [] => rfl
  | .array (v :: vs) => by
    have hv := read_tokens (.items [] :: frames) v
    have hvs := read_moreItems frames [] v vs
    rw [Value.tokens, read_cons]
    change read (.firstItem frames) (v.tokens ++ moreItems vs) = _
    rw [read_firstItem, read_append, hv]
    exact hvs
  | .object [] => rfl
  | .object ((name, v) :: fs) => by
    have hv := read_tokens (.fields [] name :: frames) v
    have hfs := read_moreFields frames [] name v fs
    rw [Value.tokens, read_cons]
    change read (.value (.fields [] name :: frames)) (v.tokens ++ moreFields fs) = _
    rw [read_append, hv]
    exact hfs

theorem read_moreItems (frames : List Frame) (done : List Value) (v : Value) :
    ∀ vs : List Value, read (.after v (.items done :: frames)) (moreItems vs) =
      some (.after (.array (done ++ v :: vs)) frames)
  | [] => rfl
  | w :: vs => by
    have hw := read_tokens (.items (done ++ [v]) :: frames) w
    have hvs := read_moreItems frames (done ++ [v]) w vs
    rw [moreItems, read_cons]
    change read (.value (.items (done ++ [v]) :: frames)) (w.tokens ++ moreItems vs) = _
    rw [read_append, hw]
    exact hvs.trans (by rw [List.append_assoc]; rfl)

theorem read_moreFields (frames : List Frame) (done : List (String × Value)) (name : String)
    (v : Value) : ∀ fs : List (String × Value),
      read (.after v (.fields done name :: frames)) (moreFields fs) =
        some (.after (.object (done ++ (name, v) :: fs)) frames)
  | [] => rfl
  | (name', w) :: fs => by
    have hw := read_tokens (.fields (done ++ [(name, v)]) name' :: frames) w
    have hfs := read_moreFields frames (done ++ [(name, v)]) name' w fs
    rw [moreFields, read_cons]
    change read (.value (.fields (done ++ [(name, v)]) name' :: frames))
      (w.tokens ++ moreFields fs) = _
    rw [read_append, hw]
    exact hfs.trans (by rw [List.append_assoc]; rfl)

end

/-- Tokens that are read back as they are written. -/
structure Sound (ts : List Token) : Prop where
  readable : ∀ t ∈ ts, t.Readable
  apart : ts.IsChain Token.Apart

theorem Sound.cons {t : Token} {ts : List Token} (h : Sound ts) (ht : t.Readable)
    (hword : t.isWord = false) : Sound (t :: ts) where
  readable := List.forall_mem_cons.mpr ⟨ht, h.readable⟩
  apart := List.isChain_cons.mpr ⟨fun _ _ => .inl hword, h.apart⟩

theorem Sound.mark {ts : List Token} (h : Sound ts) (m : Mark) : Sound (.mark m :: ts) :=
  h.cons trivial rfl

theorem Sound.field {ts : List Token} (h : Sound ts) (m : Mark) (name : String) :
    Sound (.mark m :: .string name :: .mark .colon :: ts) :=
  ((h.mark .colon).cons (t := .string name) trivial rfl).mark m

theorem Sound.append {ts ts' : List Token} (h : Sound ts) (h' : Sound ts')
    (hfirst : ∀ t, ts'.head? = some t → t.isWord = false) : Sound (ts ++ ts') where
  readable := List.forall_mem_append.mpr ⟨h.readable, h'.readable⟩
  apart := List.isChain_append.mpr ⟨h.apart, h'.apart, fun _ _ _ ht => .inr (hfirst _ ht)⟩

theorem sound_word {cs : List Char} (hne : cs ≠ []) (hall : ∀ c ∈ cs, isWordChar c = true) :
    Sound [.word cs] where
  readable := by simpa [Token.Readable] using ⟨hne, hall⟩
  apart := .singleton _

theorem sound_mark (m : Mark) : Sound [.mark m] :=
  Sound.mark ⟨fun _ h => absurd h List.not_mem_nil, .nil⟩ m

theorem moreItems_head {vs : List Value} {t : Token} (h : (moreItems vs).head? = some t) :
    t.isWord = false := by
  cases vs <;> cases h <;> rfl

theorem moreFields_head {fs : List (String × Value)} {t : Token}
    (h : (moreFields fs).head? = some t) : t.isWord = false := by
  cases fs <;> cases h <;> rfl

mutual

theorem sound_tokens : ∀ v : Value, Sound v.tokens
  | .null => sound_word (by decide) (List.all_eq_true.mp rfl)
  | .bool true => sound_word (by decide) (List.all_eq_true.mp rfl)
  | .bool false => sound_word (by decide) (List.all_eq_true.mp rfl)
  | .number n => by
    refine sound_word ?_ (wordChar_of_isNumber n.grammatical)
    intro hnil
    have h := n.grammatical
    rw [hnil] at h
    cases h
  | .string s => ⟨by simp [Value.tokens, Token.Readable], .singleton _⟩
  | .array [] => (sound_mark .rightBracket).mark .leftBracket
  | .array (v :: vs) =>
    ((sound_tokens v).append (sound_moreItems vs) fun _ => moreItems_head).mark .leftBracket
  | .object [] => (sound_mark .rightBrace).mark .leftBrace
  | .object ((name, v) :: fs) =>
    ((sound_tokens v).append (sound_moreFields fs) fun _ => moreFields_head).field .leftBrace name

theorem sound_moreItems : ∀ vs : List Value, Sound (moreItems vs)
  | [] => sound_mark .rightBracket
  | v :: vs =>
    ((sound_tokens v).append (sound_moreItems vs) fun _ => moreItems_head).mark .comma

theorem sound_moreFields : ∀ fs : List (String × Value), Sound (moreFields fs)
  | [] => sound_mark .rightBrace
  | (name, v) :: fs =>
    ((sound_tokens v).append (sound_moreFields fs) fun _ => moreFields_head).field .comma name

end

/-- `parse` undoes `stringify`. -/
theorem parse_stringify (v : Value) : parse (stringify v) = some v := by
  have hsound := sound_tokens v
  rw [parse, stringify, tokens?_text hsound.readable hsound.apart, Option.bind_some, read_tokens]
  rfl

end JsonText
