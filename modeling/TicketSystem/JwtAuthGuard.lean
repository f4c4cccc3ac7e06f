import TicketSystem.Effects
import TicketSystem.FormTexts
import TicketSystem.FullWalk
import TicketSystem.Server
import TicketSystem.Lib.Base64url
import TicketSystem.Lib.JsonText
import TicketSystem.Lib.Utf8

namespace TicketSystem

open Relational Interleaved

/-- The headers the guard looks at, by the two spellings it tries. -/
structure AuthHeaders where
  authorization : Option String := none
  Authorization : Option String := none
  deriving DecidableEq, Repr

def AuthHeaders.header (h : AuthHeaders) : Option String := h.authorization.or h.Authorization

def bearer : List Char := "Bearer ".toList

/-- The token of a header that begins as it should. -/
def bearerToken? (header : String) : Option String :=
  if bearer.isPrefixOf header.toList then
    some (trim (String.ofList (header.toList.drop bearer.length)))
  else none

/-- The text a part of the token is the base64url of, read as JSON. -/
def decodePart (part : List Char) : Option JsonText.Value :=
  JsonText.parse (Utf8.decode (Base64url.decode part))

def payloadSub (payload : JsonText.Value) : Option String :=
  ((payload.get? "sub").bind JsonText.Value.string?).filter (· ≠ "")

def decodeSub (token : String) : Option String :=
  match token.toList.splitOn '.' with
  | [_, payload, _] => (decodePart payload).bind payloadSub
  | _ => none

def findById (id : String) : Service (Option User) := do
  let id ← Service.ofExcept (uuidArg id)
  call (.userFindUnique id)

/-- What becomes the user of the request; a public route has none. -/
def canActivate (isPublic : Bool) (headers : AuthHeaders) : Service (Option User) :=
  if isPublic then pure none
  else
    match headers.header.bind bearerToken? with
    | none => throwHttp (.unauthorized "Falta el header Authorization: Bearer")
    | some token =>
      match decodeSub token with
      | none => throwHttp (.unauthorized "JWT mal formado")
      | some sub => do
        let user : Option User ← findById sub
        match user with
        | none => throwHttp (.unauthorized "El sujeto del token no existe")
        | some user => pure (some user)

/-- The header bears a token of three parts, whose middle one is a JSON object with a `sub`. -/
inductive Bears (headers : AuthHeaders) (sub : String) : Prop
  | mk {header : String} {rest first payload last : List Char}
      {fields : List (String × JsonText.Value)} (present : headers.header = some header)
      (scheme : header.toList = bearer ++ rest)
      (parts : (trim (String.ofList rest)).toList.splitOn '.' = [first, payload, last])
      (json : decodePart payload = some (.object fields))
      (subject : (JsonText.Value.object fields).get? "sub" = some (.string sub))
      (nonempty : sub ≠ "")

def AuthHeaders.sub? (headers : AuthHeaders) : Option String :=
  (headers.header.bind bearerToken?).bind decodeSub

theorem payloadSub_eq_some {payload : JsonText.Value} {sub : String}
    (h : payloadSub payload = some sub) :
    ∃ fields, payload = .object fields ∧ payload.get? "sub" = some (.string sub) ∧ sub ≠ "" := by
  obtain ⟨hget, hne⟩ := Option.filter_eq_some_iff.mp h
  obtain ⟨v, hv, hstring⟩ := Option.bind_eq_some_iff.mp hget
  have hv : payload.get? "sub" = some (.string sub) := by
    cases v <;> cases hstring
    exact hv
  cases payload with
  | object fields => exact ⟨fields, rfl, hv, of_decide_eq_true hne⟩
  | _ => cases hv

theorem bears_of_sub? {headers : AuthHeaders} {sub : String} (h : headers.sub? = some sub) :
    Bears headers sub := by
  obtain ⟨token, htoken, hsub⟩ := Option.bind_eq_some_iff.mp h
  obtain ⟨header, hheader, htoken⟩ := Option.bind_eq_some_iff.mp htoken
  unfold bearerToken? at htoken
  split at htoken
  next hprefix =>
    obtain ⟨rest, hrest⟩ := List.isPrefixOf_iff_prefix.mp hprefix
    rw [← hrest, List.drop_left] at htoken
    have htoken : trim (String.ofList rest) = token := Option.some.inj htoken
    subst htoken
    unfold decodeSub at hsub
    split at hsub
    next first payload last hparts =>
      obtain ⟨v, hv, hpayload⟩ := Option.bind_eq_some_iff.mp hsub
      obtain ⟨fields, rfl, hget, hne⟩ := payloadSub_eq_some hpayload
      exact .mk hheader hrest.symm hparts hv hget hne
    next => cases hsub
  next => cases htoken

/-- The guard answers with the user whose id the header bears, or with 401. -/
def GuardAnswers (headers : AuthHeaders) (os : Nat → Oracle) (w : World) : Prop :=
  (∃ user ∈ w.users.rows, (canActivate false headers).alone Cmd.exec os w = (.ok (some user), w) ∧
    ∃ sub, Bears headers sub ∧ Uuid.parseStr? sub = some user.id) ∨
  ∃ message, (canActivate false headers).alone Cmd.exec os w =
    (.error (.http (.unauthorized message)), w)

section

variable {headers : AuthHeaders} {os : Nat → Oracle} {w : World}

theorem canActivate_without_sub (h : headers.sub? = none) :
    ∃ message, canActivate false headers = throwHttp (.unauthorized message) := by
  unfold canActivate
  rw [if_neg (by simp)]
  cases ht : headers.header.bind bearerToken? with
  | none => exact ⟨_, rfl⟩
  | some token =>
    rw [AuthHeaders.sub?, ht, Option.bind_some] at h
    simp only [h]
    exact ⟨_, rfl⟩

theorem canActivate_of_sub {sub : String} (h : headers.sub? = some sub) :
    canActivate false headers = (findById sub).bind fun user =>
      match user with
      | none => throwHttp (.unauthorized "El sujeto del token no existe")
      | some user => pure (some user) := by
  obtain ⟨token, htoken, hsub⟩ := Option.bind_eq_some_iff.mp h
  unfold canActivate
  rw [if_neg (by simp)]
  simp only [htoken, hsub]
  rfl

/-- A `sub` that spells a UUID is looked up. -/
theorem findById_spelled {sub : String} {id : Uuid} (hid : Uuid.parseStr? sub = some id)
    (hf : (os 0).fault = none) :
    (findById sub).alone Cmd.exec os w = (.ok (w.users.lookup User.id id), w) := by
  unfold findById
  simp only [uuidArg, hid]
  exact Prog.alone_perform (Cmd.exec_one_of_ok hf _ w)

/-- Then the answer is the row, or 401 if there is none. -/
theorem canActivate_spelled {sub : String} {id : Uuid} (h : headers.sub? = some sub)
    (hid : Uuid.parseStr? sub = some id) (hf : (os 0).fault = none) :
    (canActivate false headers).alone Cmd.exec os w =
      match w.users.lookup User.id id with
      | none => (.error (.http (.unauthorized "El sujeto del token no existe")), w)
      | some user => (.ok (some user), w) := by
  obtain ⟨n, hrun⟩ := Prog.alone_bind_of_ok (f := fun user : Option User =>
    match user with
    | none => throwHttp (.unauthorized "El sujeto del token no existe")
    | some user => pure (some user)) (findById_spelled (w := w) hid hf)
  rw [canActivate_of_sub h]
  refine hrun.trans ?_
  cases w.users.lookup User.id id <;> rfl

theorem findById_unspelled {sub : String} (h : ¬ uuidSpelled sub = true) :
    findById sub = .throw (.prisma .P2023) := by
  unfold findById
  rw [uuidArg_error h]
  rfl

end

theorem canActivate_answers_iff (headers : AuthHeaders) (w : World) (os : Nat → Oracle)
    (hf : (os 0).fault = none) :
    GuardAnswers headers os w ↔ ∀ sub, headers.sub? = some sub → uuidSpelled sub = true := by
  cases hsub : headers.sub? with
  | none =>
    obtain ⟨message, hcode⟩ := canActivate_without_sub hsub
    have hanswers : GuardAnswers headers os w := .inr ⟨message, by rw [hcode]; rfl⟩
    simp [hanswers]
  | some sub =>
    constructor
    · rintro hanswers sub' ⟨⟩
      by_contra hshape
      rw [GuardAnswers, canActivate_of_sub hsub, findById_unspelled hshape] at hanswers
      rcases hanswers with ⟨user, _, hrun, _⟩ | ⟨message, hrun⟩
      · cases hrun
      · cases hrun
    · intro hshape
      obtain ⟨id, _, hid⟩ := uuidArg_ok (hshape sub rfl)
      have hrun := canActivate_spelled (w := w) hsub hid hf
      cases hlookup : w.users.lookup User.id id with
      | none =>
        rw [hlookup] at hrun
        exact .inr ⟨_, hrun⟩
      | some user =>
        rw [hlookup] at hrun
        have hkey : user.id = id := Table.lookup_key hlookup
        exact .inl ⟨user, Table.lookup_mem hlookup, hrun, sub, bears_of_sub? hsub,
          hid.trans (congrArg some hkey.symm)⟩

namespace Sample

/-- The token of the user with id 1. -/
def reportanteHeaders : AuthHeaders where
  authorization := some ("Bearer eyJhbGciOiJub25lIn0." ++
    "eyJzdWIiOiIwMDAwMDAwMC0wMDAwLTAwMDAtMDAwMC0wMDAwMDAwMDAwMDEifQ.sig")

/-- A token whose `sub` is `ghost`. -/
def ghostHeaders : AuthHeaders where
  authorization := some "Bearer eyJhbGciOiJub25lIn0.eyJzdWIiOiJnaG9zdCJ9.sig"

theorem reportante_sub :
    reportanteHeaders.sub? = some "00000000-0000-0000-0000-000000000001" := by
  decide +kernel

end Sample

open Sample in
theorem answers_reportante : GuardAnswers reportanteHeaders (fun n => { uuid := n }) world := by
  refine (canActivate_answers_iff reportanteHeaders world (fun n => { uuid := n }) rfl).mpr ?_
  intro sub hsub
  cases reportante_sub.symm.trans hsub
  decide

open Sample in
/-- A `sub` that spells no UUID is answered with an error of the database client. -/
theorem ghost_not_answered : ¬ ∀ (headers : AuthHeaders) (w : World) (os : Nat → Oracle),
    (os 0).fault = none → GuardAnswers headers os w := by
  intro h
  have hsub : ghostHeaders.sub? = some "ghost" := by decide +kernel
  have hcode := canActivate_of_sub hsub
  rw [findById_unspelled (by decide)] at hcode
  rcases h ghostHeaders world (fun n => { uuid := n }) rfl with ⟨user, _, hrun, _⟩ | ⟨message, hrun⟩
  · rw [hcode] at hrun
    cases hrun
  · rw [hcode] at hrun
    cases hrun

end TicketSystem
