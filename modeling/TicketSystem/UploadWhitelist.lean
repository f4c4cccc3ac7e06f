import TicketSystem.AttachmentsService
import TicketSystem.Attachments

namespace TicketSystem

open Relational Interleaved

/-- The content types the table lists, with their extensions. -/
def listedTypes : List (String × String) :=
  [("application/pdf", "pdf"), ("image/png", "png"), ("image/jpeg", "jpg"),
   ("application/vnd.openxmlformats-officedocument.wordprocessingml.document", "docx"),
   ("application/vnd.openxmlformats-officedocument.spreadsheetml.sheet", "xlsx"),
   ("text/plain", "txt"), ("text/x-log", "log")]

def listedExtension (contentType : String) : Option String := listedTypes.lookup contentType

/-- A lookup in the table finds what it lists, and what every object inherits. -/
theorem MIME_EXTENSION_eq (contentType : String) : MIME_EXTENSION contentType =
    (listedExtension contentType).or (inheritedProperty contentType) := by
  unfold MIME_EXTENSION
  split
  next => rfl
  next => rfl
  next => rfl
  next => rfl
  next => rfl
  next => rfl
  next => rfl
  next h₁ h₂ h₃ h₄ h₅ h₆ h₇ =>
    have hnone : listedExtension contentType = none := by
      refine List.lookup_eq_none_iff.mpr fun p hp => bne_iff_ne.mpr fun hc => ?_
      simp only [listedTypes, List.mem_cons, List.not_mem_nil, or_false] at hp
      rcases hp with rfl | rfl | rfl | rfl | rfl | rfl | rfl
      · exact h₁ hc
      · exact h₂ hc
      · exact h₃ hc
      · exact h₄ hc
      · exact h₅ hc
      · exact h₆ hc
      · exact h₇ hc
    rw [hnone, Option.none_or]

/-- No listed type is a name that objects inherit. -/
theorem inheritedProperty_of_listed {contentType ext : String}
    (h : listedExtension contentType = some ext) : inheritedProperty contentType = none := by
  have hall : ∀ p ∈ listedTypes, inheritedProperty p.1 = none := by decide
  obtain ⟨l₁, l₂, hsplit, _⟩ := List.lookup_eq_some_iff.mp h
  exact hall (contentType, ext) (hsplit ▸ List.mem_append_right l₁ List.mem_cons_self)

def uploadKey (uuid : Uuid) (ext : String) : String := uuid.text ++ "." ++ ext

/-- The whitelist is exact: only a listed type leaves a row or gets a signed url, under a key
made of a fresh id and the extension of the type; any other is refused with 422. -/
structure UploadsExactly (dto : CreateAttachmentDto) (user : User) (os : Nat → Oracle)
    (w : World) : Prop where
  written : ∀ a ∈ ((createUpload dto user).alone Cmd.exec os w).2.attachments.rows,
    a ∉ w.attachments.rows →
      ∃ ext, listedExtension dto.contentType = some ext ∧ a.s3Key = uploadKey (os 0).uuid ext
  returned : ∀ ticket, ((createUpload dto user).alone Cmd.exec os w).1 = .ok ticket →
    ∃ ext, listedExtension dto.contentType = some ext ∧ ticket.key = uploadKey (os 0).uuid ext
  refused : listedExtension dto.contentType = none →
    ∃ detail, (createUpload dto user).alone Cmd.exec os w =
      (.error (.http (.unprocessableEntity none detail)), w)

section

variable {dto : CreateAttachmentDto} {user : User} {os : Nat → Oracle} {w : World}

theorem World.Uploaded.row_of_new {a b : Attachment} {w' : World} (h : w.Uploaded b w')
    (ha : a ∈ w'.attachments.rows) (hnew : a ∉ w.attachments.rows) : a = b := by
  rw [Table.insert?_rows h.attachments] at ha
  exact List.mem_singleton.mp ((List.mem_append.mp ha).resolve_left hnew)

theorem createUpload_refused (user : User) (os : Nat → Oracle) (w : World)
    (h : MIME_EXTENSION dto.contentType = none) :
    (createUpload dto user).alone Cmd.exec os w = (.error (.http (.unprocessableEntity none
      ("content_type no permitido: " ++ dto.contentType))), w) := by
  simp only [createUpload, h, throwHttp, Prog.alone]

/-- A type that the lookup finds is not refused: the row is inserted, unless the database
fails, and then the url is signed, unless that fails. -/
theorem createUpload_found (user : User) (os : Nat → Oracle) (w : World) {ext : String}
    (h : MIME_EXTENSION dto.contentType = some ext) :
    (∃ err, (createUpload dto user).alone Cmd.exec os w = (.error err, w) ∧
      ∀ e, err ≠ .http e) ∨
    ∃ a w', w.Uploaded a w' ∧ a.s3Key = uploadKey (os 0).uuid ext ∧
      ((createUpload dto user).alone Cmd.exec os w = (.error .failed, w') ∨
        ∃ ticket, (createUpload dto user).alone Cmd.exec os w = (.ok ticket, w') ∧
          ticket.key = uploadKey (os 0).uuid ext) := by
  -- the size was checked with the body
  have hsize : ¬ dto.sizeBytes > MAX_ATTACHMENT_BYTES := Nat.not_lt.mpr dto.sizeRange.2
  have huuid : Cmd.exec (os 0) (.one .randomUUID) w = (.ok (os 0).uuid, w) := by
    simp [Cmd.exec, Stmt.fallible, Stmt.exec]
  have hnow : Cmd.exec (os 1) (.one .now) w = (.ok (os 1).now, w) := by
    simp [Cmd.exec, Stmt.fallible, Stmt.exec]
  generalize hd : pendingAttachment dto user (uploadKey (os 0).uuid ext) (os 1).now = d
  have hrun : (createUpload dto user).alone Cmd.exec os w =
      ((call (.attachmentCreate d)).bind fun attachment =>
        (call (.presignPut (uploadKey (os 0).uuid ext) dto.contentType UPLOAD_TTL_SECONDS)).bind
          fun uploadUrl => Prog.pure (UploadTicket.mk attachment.id
            (uploadKey (os 0).uuid ext) uploadUrl UPLOAD_TTL_SECONDS)).alone Cmd.exec
              (fun n => os (n + 2)) w := by
    simp only [createUpload, h, if_neg hsize]
    exact (Prog.alone_bind_ok huuid).trans ((Prog.alone_bind_ok hnow).trans (hd ▸ rfl))
  have hfails : ∀ {err}, Cmd.exec (os 2) (.one (.attachmentCreate d)) w = (.error err, w) →
      (createUpload dto user).alone Cmd.exec os w = (.error err, w) := fun hc =>
    hrun.trans (Prog.alone_bind_of_error (Prog.alone_perform hc))
  rcases Cmd.exec_one (os 2) (.attachmentCreate d) w with hc | hc
  · exact .inl ⟨.failed, hfails hc, by simp⟩
  · rw [Stmt.exec] at hc
    split at hc
    next attachments hi =>
      refine .inr ⟨d.row (os 2), { w with attachments := attachments }, ⟨hi, rfl, rfl, rfl⟩,
        by rw [← hd]; rfl, ?_⟩
      have hstep := hrun.trans (Prog.alone_bind_ok hc)
      rcases Cmd.exec_one (os 3) (.presignPut (uploadKey (os 0).uuid ext) dto.contentType
        UPLOAD_TTL_SECONDS) { w with attachments := attachments } with hp | hp
      · exact .inl (hstep.trans (Prog.alone_bind_of_error (Prog.alone_perform hp)))
      · exact .inr ⟨_, hstep.trans (Prog.alone_bind_ok (hp.trans rfl)), rfl⟩
    next => exact .inl ⟨_, hfails hc, by simp⟩

/-- Whatever is stored or answered then bears the extension that was found. -/
theorem createUpload_keyed (user : User) (os : Nat → Oracle) (w : World) {ext : String}
    (h : MIME_EXTENSION dto.contentType = some ext) :
    (∀ a ∈ ((createUpload dto user).alone Cmd.exec os w).2.attachments.rows,
      a ∉ w.attachments.rows → a.s3Key = uploadKey (os 0).uuid ext) ∧
    ∀ ticket, ((createUpload dto user).alone Cmd.exec os w).1 = .ok ticket →
      ticket.key = uploadKey (os 0).uuid ext := by
  rcases createUpload_found user os w h with
    ⟨err, hrun, _⟩ | ⟨b, w', hup, hkey, hrun | ⟨ticket', hrun, hticket⟩⟩
  · rw [hrun]
    exact ⟨fun a ha hnew => absurd ha hnew, fun ticket ht => nomatch ht⟩
  · rw [hrun]
    exact ⟨fun a ha hnew => hup.row_of_new ha hnew ▸ hkey, fun ticket ht => nomatch ht⟩
  · rw [hrun]
    refine ⟨fun a ha hnew => hup.row_of_new ha hnew ▸ hkey, fun ticket ht => ?_⟩
    cases ht
    exact hticket

theorem createUpload_unrefused (user : User) (os : Nat → Oracle) (w : World) {ext : String}
    (h : MIME_EXTENSION dto.contentType = some ext) (detail : String) :
    (createUpload dto user).alone Cmd.exec os w ≠
      (.error (.http (.unprocessableEntity none detail)), w) := by
  intro hrefused
  rcases createUpload_found user os w h with
    ⟨err, hrun, herr⟩ | ⟨a, w', _, _, hrun | ⟨ticket, hrun, _⟩⟩
  · cases hrun.symm.trans hrefused
    exact absurd rfl (herr _)
  · cases hrun.symm.trans hrefused
  · cases hrun.symm.trans hrefused

end

theorem createUpload_exact_iff (dto : CreateAttachmentDto) (user : User) (os : Nat → Oracle)
    (w : World) :
    UploadsExactly dto user os w ↔ inheritedProperty dto.contentType = none := by
  constructor
  · intro h
    cases hl : listedExtension dto.contentType with
    | some ext => exact inheritedProperty_of_listed hl
    | none =>
      cases hi : inheritedProperty dto.contentType with
      | none => rfl
      | some ext =>
        have hfound : MIME_EXTENSION dto.contentType = some ext := by
          rw [MIME_EXTENSION_eq, hl, hi, Option.none_or]
        obtain ⟨detail, hrefused⟩ := h.refused hl
        exact absurd hrefused (createUpload_unrefused user os w hfound detail)
  · intro hi
    have hlookup : MIME_EXTENSION dto.contentType = listedExtension dto.contentType := by
      rw [MIME_EXTENSION_eq, hi, Option.or_none]
    cases hl : listedExtension dto.contentType with
    | none =>
      have hrun := createUpload_refused user os w (hlookup.trans hl)
      refine ⟨fun a ha hnew => ?_, fun ticket ht => ?_, fun _ => ⟨_, hrun⟩⟩
      · rw [hrun] at ha
        exact absurd ha hnew
      · rw [hrun] at ht
        cases ht
    | some ext =>
      obtain ⟨hwritten, hreturned⟩ := createUpload_keyed user os w (hlookup.trans hl)
      exact ⟨fun a ha hnew => ⟨ext, hl, hwritten a ha hnew⟩,
        fun ticket ht => ⟨ext, hl, hreturned ticket ht⟩, fun hn => nomatch hl.symm.trans hn⟩

namespace Sample

/-- A file whose type is the name of a property that every object inherits. -/
def constructorFile : CreateAttachmentDto :=
  { file with contentType := "constructor", contentTypeLength := by decide }

end Sample

open Sample in
/-- A type outside the whitelist is not refused: a row is written, under a key that ends with
the text of a function. -/
theorem constructor_not_refused : ¬ ∀ (dto : CreateAttachmentDto) (user : User)
    (os : Nat → Oracle) (w : World), UploadsExactly dto user os w := by
  intro h
  obtain ⟨detail, hrefused⟩ := (h constructorFile reportante (fun _ => { uuid := 7 }) {}).refused
    (by decide)
  have hrun : ((createUpload constructorFile reportante).alone Cmd.exec
      (fun _ => { uuid := 7 }) {}).1.toOption.isSome = true := by decide +kernel
  rw [hrefused] at hrun
  cases hrun

end TicketSystem
