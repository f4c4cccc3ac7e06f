import TicketSystem.TicketsService

namespace TicketSystem

open Interleaved

def UPLOAD_TTL_SECONDS : Nat := 600

def DOWNLOAD_TTL_SECONDS : Nat := 300

def PENDING_TTL_MS : Int := 24 * 60 * 60 * 1000

/-- The text of what a lookup in an object literal finds in `Object.prototype`. -/
def inheritedProperty (name : String) : Option String :=
  if name = "__proto__" then some "[object Object]"
  else if name = "constructor" then some "function Object() { [native code] }"
  else if name ∈ ["hasOwnProperty", "isPrototypeOf", "propertyIsEnumerable", "toLocaleString",
      "toString", "valueOf", "__defineGetter__", "__defineSetter__", "__lookupGetter__",
      "__lookupSetter__"] then
    some ("function " ++ name ++ "() { [native code] }")
  else none

def MIME_EXTENSION (contentType : String) : Option String :=
  match contentType with
  | "application/pdf" => some "pdf"
  | "image/png" => some "png"
  | "image/jpeg" => some "jpg"
  | "application/vnd.openxmlformats-officedocument.wordprocessingml.document" => some "docx"
  | "application/vnd.openxmlformats-officedocument.spreadsheetml.sheet" => some "xlsx"
  | "text/plain" => some "txt"
  | "text/x-log" => some "log"
  | _ => inheritedProperty contentType

structure UploadTicket where
  attachmentId : Uuid
  key : String
  uploadUrl : String
  expiresIn : Nat
  deriving DecidableEq, Repr

structure Download where
  downloadUrl : String
  expiresIn : Nat
  deriving DecidableEq, Repr

def attachmentNotFound : HttpException := .notFound "Adjunto no encontrado"

def pendingAttachment (dto : CreateAttachmentDto) (user : User) (key : String) (now : Time) :
    AttachmentCreate where
  s3Key := key
  originalFilename := dto.filename
  contentType := dto.contentType
  sizeBytes := dto.sizeBytes
  uploaderId := user.id
  status := .pending
  expiresAt := some (now + PENDING_TTL_MS)

def createUpload (dto : CreateAttachmentDto) (user : User) : Service UploadTicket :=
  match MIME_EXTENSION dto.contentType with
  | none =>
    throwHttp (.unprocessableEntity none ("content_type no permitido: " ++ dto.contentType))
  | some ext =>
    if dto.sizeBytes > MAX_ATTACHMENT_BYTES then
      throwHttp (.unprocessableEntity none "El archivo excede el tamaño máximo (10 MB)")
    else do
      let uuid : Uuid ← call .randomUUID
      let key := uuid.text ++ "." ++ ext
      let now : Time ← call .now
      let attachment : Attachment ← call (.attachmentCreate (pendingAttachment dto user key now))
      let uploadUrl : String ← call (.presignPut key dto.contentType UPLOAD_TTL_SECONDS)
      pure { attachmentId := attachment.id, key := key, uploadUrl := uploadUrl,
             expiresIn := UPLOAD_TTL_SECONDS }

def assertCanAccess (att : Attachment) (user : User) : Service Unit :=
  if user.role ≠ .reportante then pure ()
  else
    match att.ticketId with
    | some ticketId => do
      let ticket : Option Ticket ← call (.ticketFindUnique ticketId)
      if ticket.all (·.reporterId ≠ user.id) then throwHttp attachmentNotFound else pure ()
    | none => if att.uploaderId ≠ user.id then throwHttp attachmentNotFound else pure ()

def adjuntoDescargadoEvent (att : Attachment) (ticketId : Uuid) (user : User) :
    TicketEventCreate where
  ticketId := ticketId
  actorId := user.id
  eventType := .adjuntoDescargado
  payload := .adjuntoDescargado att.id att.s3Key

def recordDownload (att : Attachment) (user : User) : Service Unit :=
  match att.ticketId with
  | some ticketId => do
    let _ ← call (.ticketEventCreate (adjuntoDescargadoEvent att ticketId user))
    pure ()
  | none => pure ()

def getDownload (id : Uuid) (user : User) : Service Download := do
  let att : Option Attachment ← call (.attachmentFindUnique id)
  match att with
  | none => throwHttp attachmentNotFound
  | some att => do
    assertCanAccess att user
    let downloadUrl : String ← call (.presignGet att.s3Key DOWNLOAD_TTL_SECONDS)
    recordDownload att user
    pure { downloadUrl := downloadUrl, expiresIn := DOWNLOAD_TTL_SECONDS }

end TicketSystem
