import TicketSystem.Dto
import TicketSystem.Prisma

namespace TicketSystem

/-- What `trim` removes and the pattern `\s` matches. -/
def isSpace (c : Char) : Bool :=
  let n := c.toNat
  (9 ≤ n && n ≤ 13) || n == 32 || n == 160 || n == 0x1680 || (0x2000 ≤ n && n ≤ 0x200A) ||
    n == 0x2028 || n == 0x2029 || n == 0x202F || n == 0x205F || n == 0x3000 || n == 0xFEFF

def trim (s : String) : String :=
  String.ofList ((s.toList.dropWhile isSpace).reverse.dropWhile isSpace).reverse

/-- `length` counts the code units of UTF-16: two for a character beyond the basic plane. -/
def utf16Length (s : String) : Nat :=
  s.toList.length + s.toList.countP (fun c => 0x10000 ≤ c.toNat)

/-! ### The form -/

def TITLE_MIN : Nat := 5

def TITLE_MAX : Nat := 200

def DESCRIPTION_MIN : Nat := 20

def DESCRIPTION_MAX : Nat := 5000

/-- The body of `POST /v1/tickets`. -/
structure CreateTicketRequest where
  type : TicketType
  title : String
  description : String
  severity : Nat
  impact : Nat
  attachments : Option (List Uuid) := none
  deriving DecidableEq, Repr

structure CreateForm where
  type : TicketType := .incidente
  title : String := ""
  description : String := ""
  severity : Nat := 2
  impact : Nat := 2
  desiredDate : String := ""
  attachments : List Uuid := []
  deriving DecidableEq, Repr

def CreateForm.trimmedTitle (f : CreateForm) : String := trim f.title

def CreateForm.trimmedDescription (f : CreateForm) : String := trim f.description

def CreateForm.finalDescription (f : CreateForm) : String :=
  if f.type = .solicitud ∧ f.desiredDate ≠ "" then
    "Fecha deseada: " ++ f.desiredDate ++ " — " ++ f.trimmedDescription
  else f.trimmedDescription

structure ValidationErrors where
  title : Option String
  description : Option String
  deriving DecidableEq, Repr

def CreateForm.validationErrors (f : CreateForm) : ValidationErrors where
  title :=
    if utf16Length f.trimmedTitle < TITLE_MIN ∨ utf16Length f.trimmedTitle > TITLE_MAX then
      some "El título debe tener entre 5 y 200 caracteres."
    else none
  description :=
    if utf16Length f.trimmedDescription < DESCRIPTION_MIN ∨
        utf16Length f.trimmedDescription > DESCRIPTION_MAX then
      some "La descripción debe tener entre 20 y 5000 caracteres."
    else if utf16Length f.finalDescription > DESCRIPTION_MAX then
      some "La descripción más la fecha deseada supera los 5000 caracteres; acórtala."
    else none

def CreateForm.hasErrors (f : CreateForm) : Bool :=
  (f.validationErrors.title.or f.validationErrors.description).isSome

def CreateForm.body (f : CreateForm) : CreateTicketRequest where
  type := f.type
  title := f.trimmedTitle
  description := f.finalDescription
  severity := f.severity
  impact := f.impact
  attachments := if f.attachments.length > 0 then some f.attachments else none

structure CreateCall where
  key : String
  body : CreateTicketRequest
  deriving DecidableEq, Repr

/-- `generated` is what `generateUUID` answers, should the caller give no key. -/
def createTicket (body : CreateTicketRequest) (idempotencyKey : Option String)
    (generated : String) : CreateCall where
  key := idempotencyKey.getD generated
  body := body

/-- What a submit can fail with: the request or its response does not arrive, the body is
refused by the validation, or the service answers with an error. -/
inductive SubmitError where
  | network
  | invalid
  | api (e : Err)
  deriving DecidableEq, Repr

/-- The state of the page; once `created` is set the success panel stands in for the form. -/
structure CreateTicketPage where
  form : CreateForm
  showValidation : Bool := false
  submitting : Bool := false
  submitError : Option SubmitError := none
  created : Option Ticket := none
  deriving DecidableEq, Repr

/-- `onSubmit` up to its `await`, with the call it makes. -/
def CreateTicketPage.onSubmit (p : CreateTicketPage) (generated : String) :
    CreateTicketPage × Option CreateCall :=
  let p := { p with showValidation := true, submitError := none }
  if p.form.hasErrors || p.submitting then (p, none)
  else ({ p with submitting := true }, some (createTicket p.form.body none generated))

theorem CreateTicketPage.onSubmit_cases (p : CreateTicketPage) (generated : String) :
    ∃ p', p'.created = p.created ∧ (p.onSubmit generated = (p', none) ∨
      p.onSubmit generated = (p', some (createTicket p.form.body none generated))) := by
  unfold CreateTicketPage.onSubmit
  dsimp only
  split
  next => exact ⟨{ p with showValidation := true, submitError := none }, rfl, .inl rfl⟩
  next =>
    exact ⟨{ p with showValidation := true, submitError := none, submitting := true }, rfl,
      .inr rfl⟩

/-- `onSubmit` from its `await` on. -/
def CreateTicketPage.settle (p : CreateTicketPage) : Except SubmitError Ticket → CreateTicketPage
  | .ok ticket => { p with created := some ticket, submitting := false }
  | .error error => { p with submitError := some error, submitting := false }

theorem CreateTicketPage.settle_created {p : CreateTicketPage} {r : Except SubmitError Ticket}
    {t : Ticket} (h : (p.settle r).created = some t) : p.created = some t ∨ r = .ok t := by
  cases r with
  | ok ticket => cases Option.some.inj h; exact .inr rfl
  | error e => exact .inl h

/-! ### The validation of the body -/

def collapse : Bool → List Char → List Char
  | _, [] => []
  | after, c :: cs =>
    if isSpace c then (if after then [] else [' ']) ++ collapse true cs
    else c :: collapse false cs

def norm (s : String) : String := String.ofList (collapse false (trim s).toList)

/-- The DTO made of a body, when every check passes. -/
def CreateTicketRequest.validate (b : CreateTicketRequest) : Option CreateTicketDto :=
  if h : ((5 ≤ validatorLength (norm b.title) ∧ validatorLength (norm b.title) ≤ 200) ∧
      (20 ≤ validatorLength (norm b.description) ∧
        validatorLength (norm b.description) ≤ 5000)) ∧
      (1 ≤ b.severity ∧ b.severity ≤ 4) ∧ (1 ≤ b.impact ∧ b.impact ≤ 4) ∧
      (b.attachments.all fun ids => ids.length ≤ 10) = true then
    some { type := b.type, title := norm b.title, description := norm b.description
           severity := b.severity, impact := b.impact, attachments := b.attachments
           titleLength := h.1.1, descriptionLength := h.1.2, severityRange := h.2.1
           impactRange := h.2.2.1
           attachmentsSize := by
            intro ids hids
            simpa [hids] using h.2.2.2 }
  else none

end TicketSystem
