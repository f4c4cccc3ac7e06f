import Mathlib.Data.List.DropRight
import TicketSystem.CreateTicketPage

namespace TicketSystem

def IsTrimmed (cs : List Char) : Prop :=
  (∀ c ∈ cs.head?, isSpace c = false) ∧ ∀ c ∈ cs.getLast?, isSpace c = false

theorem trim_toList (s : String) :
    (trim s).toList = (s.toList.dropWhile isSpace).rdropWhile isSpace := by
  simp [trim, List.rdropWhile]

theorem isTrimmed_trim (s : String) : IsTrimmed (trim s).toList := by
  rw [trim_toList]
  constructor
  · intro c hc
    obtain ⟨rest, hrest⟩ := List.rdropWhile_prefix isSpace (s.toList.dropWhile isSpace)
    have hhead : (s.toList.dropWhile isSpace).head? = some c := by
      rw [← hrest, List.head?_append, Option.mem_def.mp hc, Option.some_or]
    have hnot := List.head?_dropWhile_not isSpace s.toList
    simpa [hhead] using hnot
  · intro c hc
    obtain ⟨hne, hlast⟩ := List.mem_getLast?_eq_getLast hc
    have hnot := List.rdropWhile_last_not isSpace (s.toList.dropWhile isSpace) hne
    rw [← hlast] at hnot
    simpa using hnot

theorem trim_of_isTrimmed {s : String} (h : IsTrimmed s.toList) : trim s = s := by
  have hleft : s.toList.dropWhile isSpace = s.toList := by
    cases hs : s.toList with
    | nil => rfl
    | cons c cs =>
      have hc : isSpace c = false := h.1 c (by simp [hs])
      rw [List.dropWhile_cons_of_neg (by simp [hc])]
  have hright : s.toList.rdropWhile isSpace = s.toList := by
    refine List.rdropWhile_eq_self_iff.mpr fun hne => ?_
    have hlast := h.2 (s.toList.getLast hne) (List.getLast?_eq_some_getLast hne)
    simp [hlast]
  apply String.toList_injective
  rw [trim_toList, hleft, hright]

theorem norm_of_isTrimmed {s : String} (h : IsTrimmed s.toList) :
    norm s = String.ofList (collapse false s.toList) := by
  rw [norm, trim_of_isTrimmed h]

/-- Whitespace that follows whitespace. -/
def spareSpaces : Bool → List Char → Nat
  | _, [] => 0
  | after, c :: cs => (if after && isSpace c then 1 else 0) + spareSpaces (isSpace c) cs

def isAstral (c : Char) : Bool := 0x10000 ≤ c.toNat

def isSelector (c : Char) : Bool := c.toNat = 0xFE0E ∨ c.toNat = 0xFE0F

/-- Whitespace after whitespace, the second units of surrogate pairs and the variation
selectors. -/
def lostLength (s : String) : Nat :=
  spareSpaces false s.toList + s.toList.countP isAstral + s.toList.countP isSelector

theorem length_collapse (after : Bool) (cs : List Char) :
    (collapse after cs).length + spareSpaces after cs = cs.length := by
  induction cs generalizing after with
  | nil => rfl
  | cons c cs ih =>
    have hrest := ih (isSpace c)
    unfold collapse spareSpaces
    cases hc : isSpace c with
    | false =>
      rw [hc] at hrest
      simp only [Bool.false_eq_true, Bool.and_false, ↓reduceIte, List.length_cons]
      omega
    | true =>
      rw [hc] at hrest
      cases after <;> simp <;> omega

/-- No whitespace is a variation selector, so that collapsing it keeps them all. -/
theorem isSelector_of_isSpace {c : Char} (h : isSpace c = true) : isSelector c = false := by
  simp only [isSpace, isSelector, Bool.or_eq_true, Bool.and_eq_true, decide_eq_true_eq,
    beq_iff_eq, decide_eq_false_iff_not] at h ⊢
  omega

theorem countP_collapse (after : Bool) (cs : List Char) :
    (collapse after cs).countP isSelector = cs.countP isSelector := by
  induction cs generalizing after with
  | nil => rfl
  | cons c cs ih =>
    unfold collapse
    split
    next hc =>
      have hspace : isSelector ' ' = false := by decide
      cases after <;> simp [ih, isSelector_of_isSpace hc, hspace]
    next => simp [List.countP_cons, ih]

theorem validatorLength_add (s : String) :
    validatorLength s + s.toList.countP isSelector = s.toList.length := by
  have hnot : validatorLength s = s.toList.countP fun c => ¬ isSelector c := by
    refine List.countP_congr fun c _ => ?_
    simp [isSelector]
  rw [hnot, List.length_eq_countP_add_countP isSelector (l := s.toList)]
  simp [Nat.add_comm]

/-- The length the client compares with is the one the server compares with and what is lost. -/
theorem validatorLength_norm {s : String} (h : IsTrimmed s.toList) :
    validatorLength (norm s) + lostLength s = utf16Length s := by
  have hvalid := validatorLength_add (norm s)
  have hlength := length_collapse false s.toList
  rw [norm_of_isTrimmed h] at hvalid ⊢
  rw [String.toList_ofList, countP_collapse] at hvalid
  unfold lostLength utf16Length
  have hastral : s.toList.countP (fun c => decide (0x10000 ≤ c.toNat)) =
      s.toList.countP isAstral := rfl
  omega

/-- The lower bound holds for what the server compares with. -/
def KeepsLength (min : Nat) (s : String) : Prop := min + lostLength s ≤ utf16Length s

instance (min : Nat) (s : String) : Decidable (KeepsLength min s) := by
  unfold KeepsLength
  infer_instance

theorem keepsLength_iff {s : String} (h : IsTrimmed s.toList) (min : Nat) :
    min ≤ validatorLength (norm s) ↔ KeepsLength min s := by
  have hlost := validatorLength_norm h
  unfold KeepsLength
  omega

/-- Upper bounds are safe: the server counts no more than the client. -/
theorem validatorLength_norm_le {s : String} (h : IsTrimmed s.toList) {max : Nat}
    (hmax : utf16Length s ≤ max) : validatorLength (norm s) ≤ max := by
  have hlost := validatorLength_norm h
  omega

/-! ### The text rules -/

def CreateTicketRequest.TextRules (b : CreateTicketRequest) : Prop :=
  (5 ≤ validatorLength (norm b.title) ∧ validatorLength (norm b.title) ≤ 200) ∧
    20 ≤ validatorLength (norm b.description) ∧ validatorLength (norm b.description) ≤ 5000

/-- The body of `PATCH /v1/tickets/:id/state`. -/
structure ChangeStateRequest where
  targetState : TargetState
  expectedVersion : Nat
  rootCause : Option String := none
  solution : Option String := none
  deriving DecidableEq, Repr

def ChangeStateRequest.TextRules (b : ChangeStateRequest) : Prop :=
  (∀ s ∈ b.rootCause.map norm, 20 ≤ validatorLength s) ∧
    ∀ s ∈ b.solution.map norm, 20 ≤ validatorLength s

instance (b : ChangeStateRequest) : Decidable b.TextRules := inferInstanceAs (Decidable (_ ∧ _))

/-- The DTO made of a body, when every check passes. -/
def ChangeStateRequest.validate (b : ChangeStateRequest) (h : b.TextRules) : ChangeStateDto where
  targetState := b.targetState
  expectedVersion := b.expectedVersion
  rootCause := b.rootCause.map norm
  solution := b.solution.map norm
  rootCauseLength := h.1
  solutionLength := h.2

structure CreateCommentRequest where
  message : String
  deriving DecidableEq, Repr

def CreateCommentRequest.TextRules (b : CreateCommentRequest) : Prop :=
  1 ≤ validatorLength (norm b.message)

def MIN_TEXT : Nat := 20

/-- The texts of `ActionsPanel`. -/
structure ResolveForm where
  rootCause : String := ""
  solution : String := ""
  deriving DecidableEq, Repr

def ResolveForm.rootCauseValid (f : ResolveForm) : Bool := MIN_TEXT ≤ utf16Length (trim f.rootCause)

def ResolveForm.solutionValid (f : ResolveForm) : Bool := MIN_TEXT ≤ utf16Length (trim f.solution)

def ResolveForm.resolveValid (f : ResolveForm) : Bool := f.rootCauseValid && f.solutionValid

/-- The body `handleResolve` sends. -/
def ResolveForm.body (f : ResolveForm) (version : Nat) : ChangeStateRequest where
  targetState := .resuelto
  expectedVersion := version
  rootCause := some (trim f.rootCause)
  solution := some (trim f.solution)

def MAX_LEN : Nat := 5000

/-- `canSubmit` of `CommentsTab`. -/
def canSubmit (message : String) : Bool :=
  1 ≤ utf16Length (trim message) && utf16Length (trim message) ≤ MAX_LEN

def commentBody (message : String) : CreateCommentRequest where
  message := trim message

/-! ### What the forms accept -/

/-- The date stands before the description, which ends the text. -/
theorem isTrimmed_finalDescription {f : CreateForm} (h : f.trimmedDescription ≠ "") :
    IsTrimmed f.finalDescription.toList := by
  have htrimmed : IsTrimmed f.trimmedDescription.toList := isTrimmed_trim f.description
  unfold CreateForm.finalDescription
  split
  next =>
    have hne : f.trimmedDescription.toList ≠ [] := by simpa using h
    refine ⟨fun c hc => ?_, fun c hc => htrimmed.2 c ?_⟩
    · have hhead : ("Fecha deseada: " ++ f.desiredDate ++ " — " ++
          f.trimmedDescription).toList.head? = some 'F' := by
        simp
      cases hhead.symm.trans (Option.mem_def.mp hc)
      decide
    · rw [String.toList_append, List.getLast?_append_of_ne_nil _ hne] at hc
      exact hc
  next => exact htrimmed

theorem CreateForm.lengths_of_no_errors {f : CreateForm} (h : f.hasErrors = false) :
    utf16Length f.trimmedTitle ≤ TITLE_MAX ∧ DESCRIPTION_MIN ≤ utf16Length f.trimmedDescription ∧
      utf16Length f.finalDescription ≤ DESCRIPTION_MAX := by
  simp only [hasErrors, validationErrors] at h
  have htitle :
      ¬ (utf16Length f.trimmedTitle < TITLE_MIN ∨ utf16Length f.trimmedTitle > TITLE_MAX) := by
    intro hbad
    rw [if_pos hbad] at h
    cases h
  rw [if_neg htitle, Option.none_or] at h
  have hdescription : ¬ (utf16Length f.trimmedDescription < DESCRIPTION_MIN ∨
      utf16Length f.trimmedDescription > DESCRIPTION_MAX) := by
    intro hbad
    rw [if_pos hbad] at h
    cases h
  rw [if_neg hdescription] at h
  have hfinal : ¬ utf16Length f.finalDescription > DESCRIPTION_MAX := by
    intro hbad
    rw [if_pos hbad] at h
    cases h
  omega

theorem CreateForm.textRules_iff {f : CreateForm} (h : f.hasErrors = false) :
    f.body.TextRules ↔
      KeepsLength TITLE_MIN f.trimmedTitle ∧ KeepsLength DESCRIPTION_MIN f.finalDescription := by
  obtain ⟨htitle, hmin, hdescription⟩ := lengths_of_no_errors h
  have hne : f.trimmedDescription ≠ "" := by
    intro he
    rw [he] at hmin
    exact absurd hmin (by decide)
  have htrimmed : IsTrimmed f.trimmedTitle.toList := isTrimmed_trim f.title
  have hfinal := isTrimmed_finalDescription hne
  have hbody : f.body.title = f.trimmedTitle ∧ f.body.description = f.finalDescription :=
    ⟨rfl, rfl⟩
  rw [CreateTicketRequest.TextRules, hbody.1, hbody.2, keepsLength_iff htrimmed,
    keepsLength_iff hfinal]
  have htitleMax : validatorLength (norm f.trimmedTitle) ≤ 200 :=
    validatorLength_norm_le htrimmed htitle
  have hdescriptionMax : validatorLength (norm f.finalDescription) ≤ 5000 :=
    validatorLength_norm_le hfinal hdescription
  simp only [htitleMax, hdescriptionMax, and_true, TITLE_MIN, DESCRIPTION_MIN]

theorem ResolveForm.textRules_iff (f : ResolveForm) (version : Nat) :
    (f.body version).TextRules ↔
      KeepsLength MIN_TEXT (trim f.rootCause) ∧ KeepsLength MIN_TEXT (trim f.solution) := by
  simp [ChangeStateRequest.TextRules, body, keepsLength_iff (isTrimmed_trim _), MIN_TEXT]

theorem commentBody_textRules_iff (message : String) :
    (commentBody message).TextRules ↔ KeepsLength 1 (trim message) :=
  keepsLength_iff (isTrimmed_trim message) 1

/-- What the forms accept passes the text rules just when it keeps its least length: the counts
of the client are no lower than those of the server. -/
theorem forms_accepted_iff (f : CreateForm) (r : ResolveForm) (version : Nat) (message : String) :
    (f.hasErrors = false → (f.body.TextRules ↔
      KeepsLength TITLE_MIN f.trimmedTitle ∧ KeepsLength DESCRIPTION_MIN f.finalDescription)) ∧
    (r.resolveValid = true → ((r.body version).TextRules ↔
      KeepsLength MIN_TEXT (trim r.rootCause) ∧ KeepsLength MIN_TEXT (trim r.solution))) ∧
    (canSubmit message = true → ((commentBody message).TextRules ↔
      KeepsLength 1 (trim message))) :=
  ⟨CreateForm.textRules_iff, fun _ => r.textRules_iff version,
    fun _ => commentBody_textRules_iff message⟩

namespace Sample

/-- A solicitud with its date. -/
def solicitud : CreateForm where
  type := .solicitud
  title := " Alta de  usuario "
  description := "Acceso al tablero de pagos"
  desiredDate := "2026-02-01"

def resolucion : ResolveForm where
  rootCause := " El disco de datos estaba lleno"
  solution := "Se amplió  el volumen de datos "

/-- Five units of which three are whitespace. -/
def espaciado : CreateForm where
  title := "a   b"
  description := "El servicio de pagos responde 500"

end Sample

theorem forms_accepted_sample : Sample.solicitud.body.TextRules ∧
    (Sample.resolucion.body 3).TextRules ∧ (commentBody " ok ").TextRules := by
  obtain ⟨hform, hpanel, hcomment⟩ := forms_accepted_iff Sample.solicitud Sample.resolucion 3 " ok "
  exact ⟨(hform (by decide +kernel)).mpr (by decide +kernel),
    (hpanel (by decide +kernel)).mpr (by decide +kernel),
    (hcomment (by decide +kernel)).mpr (by decide +kernel)⟩

theorem spaced_title_refused :
    Sample.espaciado.hasErrors = false ∧ ¬ Sample.espaciado.body.TextRules := by
  refine ⟨by decide +kernel, fun h => ?_⟩
  have hlength : ¬ 5 ≤ validatorLength (norm Sample.espaciado.body.title) := by decide +kernel
  exact hlength h.1.1

end TicketSystem
