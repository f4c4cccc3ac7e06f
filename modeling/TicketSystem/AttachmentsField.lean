import TicketSystem.AttachmentsService
import TicketSystem.CreateTicketPage
import TicketSystem.QueuePage

namespace TicketSystem

def MAX_ATTACHMENTS : Nat := 10

def MAX_FILE_BYTES : Nat := 10485760

structure File where
  name : String
  size : Nat
  deriving DecidableEq, Repr

/-- A lookup in an object literal: `constructor` and `__proto__` are found as well. -/
def EXT_CONTENT_TYPES (ext : String) : Option String :=
  match ext with
  | "pdf" => some "application/pdf"
  | "png" => some "image/png"
  | "jpg" => some "image/jpeg"
  | "jpeg" => some "image/jpeg"
  | "docx" => some "application/vnd.openxmlformats-officedocument.wordprocessingml.document"
  | "xlsx" => some "application/vnd.openxmlformats-officedocument.spreadsheetml.sheet"
  | "txt" => some "text/plain"
  | "log" => some "text/plain"
  | _ => inheritedProperty ext

/-- `split('.').pop()` of the name, in lower case: what follows its last dot, or all of it. -/
def File.ext (file : File) : String :=
  String.ofList ((file.name.toList.reverse.takeWhile (· != '.')).reverse.map Char.toLower)

def File.contentTypeFor (file : File) : Option String := EXT_CONTENT_TYPES file.ext

/-- Why a file is left out of a selection. -/
def File.rejected (file : File) : Option String :=
  if file.contentTypeFor.isNone then some (file.name ++ " (tipo no permitido)")
  else if file.size > MAX_FILE_BYTES ∨ file.size = 0 then some (file.name ++ " (máx. 10MB)")
  else none

/-- The state of the mounted field. -/
structure AttachmentsField where
  uploading : Bool := false
  warning : Option String := none
  fileError : Option String := none
  deriving DecidableEq, Repr

/-- A call of `handleFiles` at one of its `await`s: what it captured (the attachments, and which
form it was made for), the files still to upload, the presigned one that is being put, and those
uploaded. It is over when no file is left. -/
structure HandleFiles where
  resets : Nat
  attachments : List Uuid
  files : List File
  presign : Option Uuid := none
  uploaded : List Uuid := []
  failed : Bool := false
  deriving DecidableEq, Repr

def HandleFiles.fails (u : HandleFiles) : HandleFiles :=
  { u with files := u.files.tail, presign := none, failed := true }

def HandleFiles.succeeds (u : HandleFiles) (attachmentId : Uuid) : HandleFiles :=
  { u with files := u.files.tail, presign := none, uploaded := u.uploaded ++ [attachmentId] }

/-! ### The field in its page -/

/-- The page with its field, and every call of `handleFiles` so far. `presigned` are the ids the
API gave, `completed` those whose file was put, with the form they were selected for, and `removed`
those that Quitar took away. -/
structure CreateView where
  page : CreateTicketPage := { form := {} }
  field : AttachmentsField := {}
  uploads : List HandleFiles := []
  resets : Nat := 0
  presigned : List Uuid := []
  completed : List (Nat × Uuid) := []
  removed : List Uuid := []
  deriving DecidableEq, Repr

def CreateTicketPage.setAttachments (p : CreateTicketPage) (attachments : List Uuid) :
    CreateTicketPage := { p with form := { p.form with attachments := attachments } }

def CreateTicketPage.resetForm (p : CreateTicketPage) : CreateTicketPage :=
  { p with form := {}, showValidation := false, submitError := none, created := none }

/-- `handleFiles` up to its first `await`. -/
def CreateView.handleFiles (v : CreateView) (fileList : List File) : CreateView :=
  if fileList.isEmpty || v.page.submitting || v.field.uploading then v
  else
    let accepted := fileList.filter (·.rejected.isNone)
    let rejected := fileList.filterMap File.rejected
    if v.page.form.attachments.length + accepted.length > MAX_ATTACHMENTS then
      { v with field := { v.field with warning := none,
                                       fileError := some "Máximo 10 adjuntos por ticket." } }
    else
      let fileError := if rejected.isEmpty then none else
        some ("Archivos omitidos: " ++ ", ".intercalate rejected ++
          ". Permitidos: PDF, PNG, JPG, DOCX, XLSX, TXT, LOG hasta 10MB.")
      if accepted.isEmpty then
        { v with field := { v.field with warning := none, fileError := fileError } }
      else
        { v with field := { uploading := true, warning := none, fileError := fileError }
                 uploads := v.uploads ++ [{ resets := v.resets
                                            attachments := v.page.form.attachments
                                            files := accepted }] }

/-- The last file is done: what the handler still does. Its field may have left the page. -/
def CreateView.finish (v : CreateView) (u : HandleFiles) : CreateView :=
  { v with
    page := if u.uploaded.isEmpty then v.page
      else v.page.setAttachments (u.attachments ++ u.uploaded)
    field := if u.resets = v.resets then
        { v.field with
          uploading := false
          warning := if u.failed then
              some ("Adjuntos no disponibles en este entorno. " ++
                "Puedes enviar el ticket sin adjuntos.")
            else v.field.warning }
      else v.field }

/-- Upload `i` is done with a file. -/
def CreateView.proceed (v : CreateView) (i : Nat) (u : HandleFiles) : CreateView :=
  let v := { v with uploads := v.uploads.set i u }
  if u.files.isEmpty then v.finish u else v

def CreateView.quitar (v : CreateView) (attachmentId : Uuid) : CreateView :=
  { v with page := v.page.setAttachments (v.page.form.attachments.filter (· != attachmentId))
           removed := v.removed ++ [attachmentId] }

/-- Crear otro: the form comes back empty, with a new field. -/
def CreateView.createAnother (v : CreateView) : CreateView :=
  { v with page := v.page.resetForm, field := {}, resets := v.resets + 1 }

inductive CreateEvent where
  | edit (form : CreateForm)
  | select (fileList : List File)
  | presign (i : Nat) (r : Except ClientError Uuid)
  | put (i : Nat) (ok : Bool)
  | quitar (attachmentId : Uuid)
  | submit (generated : String)
  | settle (r : Except SubmitError Ticket)
  | createAnother

/-- The success panel stands in for the form once a ticket is created. -/
def CreateView.next (v : CreateView) : CreateEvent → Option CreateView
  | .edit form =>
    if v.page.created.isSome then none
    else some { v with page := { v.page with form :=
      { form with attachments := v.page.form.attachments } } }
  | .select fileList => if v.page.created.isSome then none else some (v.handleFiles fileList)
  | .presign i r =>
    match v.uploads[i]? with
    | none => none
    | some u =>
      if u.files.isEmpty || u.presign.isSome then none
      else
        match r with
        | .ok attachmentId =>
          some { v with presigned := v.presigned ++ [attachmentId]
                        uploads := v.uploads.set i { u with presign := some attachmentId } }
        | .error _ => some (v.proceed i u.fails)
  | .put i ok =>
    match v.uploads[i]? with
    | none => none
    | some u =>
      match u.presign with
      | none => none
      | some attachmentId =>
        if ok then
          some (CreateView.proceed
            { v with completed := v.completed ++ [(u.resets, attachmentId)] } i
            (u.succeeds attachmentId))
        else some (v.proceed i u.fails)
  | .quitar attachmentId =>
    if v.page.created.isSome || !v.page.form.attachments.contains attachmentId then none
    else some (v.quitar attachmentId)
  | .submit generated =>
    if v.page.created.isSome then none
    else some { v with page := (v.page.onSubmit generated).1 }
  | .settle r => if v.page.submitting then some { v with page := v.page.settle r } else none
  | .createAnother => if v.page.created.isSome then some v.createAnother else none

end TicketSystem
