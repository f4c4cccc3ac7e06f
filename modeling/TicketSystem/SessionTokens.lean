import TicketSystem.CognitoService
import TicketSystem.JwtAuthGuard

namespace TicketSystem

open Relational Interleaved

/-- The base64url of the JSON of a value. -/
def encodePart (v : JsonText.Value) : List Char :=
  Base64url.encode (Utf8.encode (JsonText.stringify v))

def tokenHeader : JsonText.Value := .object [("alg", .string "none")]

def tokenPayload (userId : String) (iat : Int) : JsonText.Value :=
  .object [("sub", .string userId), ("iat", .number (.ofInt iat))]

def tokenText (userId : String) (iat : Int) : String :=
  String.ofList (encodePart tokenHeader ++
    '.' :: (encodePart (tokenPayload userId iat) ++ '.' :: "sig".toList))

def buildSessionToken (userId : String) (now : Time) : String := tokenText userId (now / 1000)

def authorized (token : String) : AuthHeaders where
  authorization := some ("Bearer " ++ token)

theorem decodePart_encodePart (v : JsonText.Value) : decodePart (encodePart v) = some v := by
  rw [decodePart, encodePart, Base64url.decode_encode fun _ => Utf8.encode_lt, Utf8.decode_encode,
    JsonText.parse_stringify]

/-- A part has no dot. -/
theorem dot_notMem_encodePart (v : JsonText.Value) : '.' ∉ encodePart v := by
  intro hdot
  cases Base64url.isDigit_encode (fun _ => Utf8.encode_lt) '.' hdot

theorem payloadSub_tokenPayload {userId : String} (h : userId ≠ "") (iat : Int) :
    payloadSub (tokenPayload userId iat) = some userId :=
  Option.filter_eq_some_iff.mpr ⟨rfl, decide_eq_true h⟩

/-- What the guard reads of a session token is what it was built from. -/
structure TokenRoundTrips (userId : String) (now : Time) : Prop where
  dots : (buildSessionToken userId now).toList.count '.' = 2
  trimmed : trim (buildSessionToken userId now) = buildSessionToken userId now
  decoded : (authorized (buildSessionToken userId now)).sub? = some userId
  distinct : ∀ userId' now', userId' ≠ "" → userId' ≠ userId →
    (authorized (buildSessionToken userId' now')).sub? ≠
      (authorized (buildSessionToken userId now)).sub?

section

variable {userId : String} {now : Time}

theorem buildSessionToken_toList (userId : String) (now : Time) :
    (buildSessionToken userId now).toList = encodePart tokenHeader ++
      '.' :: (encodePart (tokenPayload userId (now / 1000)) ++ '.' :: "sig".toList) :=
  String.toList_ofList

theorem buildSessionToken_dots : (buildSessionToken userId now).toList.count '.' = 2 := by
  have hnone := fun v => List.count_eq_zero.mpr (dot_notMem_encodePart v)
  rw [buildSessionToken_toList, List.count_append, List.count_cons_self, List.count_append,
    List.count_cons_self, hnone, hnone]
  rfl

theorem buildSessionToken_splitOn : (buildSessionToken userId now).toList.splitOn '.' =
    [encodePart tokenHeader, encodePart (tokenPayload userId (now / 1000)), "sig".toList] := by
  rw [buildSessionToken_toList,
    List.splitOn_append_cons_self_of_not_mem (dot_notMem_encodePart _),
    List.splitOn_append_cons_self_of_not_mem (dot_notMem_encodePart _)]
  rfl

theorem buildSessionToken_trimmed : trim (buildSessionToken userId now) =
    buildSessionToken userId now := by
  refine trim_of_isTrimmed ⟨fun c hc => ?_, fun c hc => ?_⟩
  · have hfirst : (encodePart tokenHeader).head? = some 'e' := by decide +kernel
    rw [buildSessionToken_toList, List.head?_append, hfirst] at hc
    cases hc
    rfl
  · have hlast : (buildSessionToken userId now).toList.getLast? = some 'g' := by
      simp [buildSessionToken_toList, List.getLast?_append, List.getLast?_cons]
    rw [hlast] at hc
    cases hc
    rfl

theorem bearerToken?_append (token : String) :
    bearerToken? ("Bearer " ++ token) = some (trim token) := by
  have htext : ("Bearer " ++ token).toList = bearer ++ token.toList := String.toList_append
  rw [bearerToken?, htext, if_pos (List.isPrefixOf_iff_prefix.mpr (List.prefix_append _ _)),
    List.drop_left, String.ofList_toList]

theorem authorized_header (token : String) :
    (authorized token).header = some ("Bearer " ++ token) := rfl

theorem authorized_sub? (hid : userId ≠ "") :
    (authorized (buildSessionToken userId now)).sub? = some userId := by
  rw [AuthHeaders.sub?, authorized_header, Option.bind_some, bearerToken?_append, Option.bind_some,
    buildSessionToken_trimmed]
  unfold decodeSub
  rw [buildSessionToken_splitOn]
  dsimp only
  rw [decodePart_encodePart, Option.bind_some, payloadSub_tokenPayload hid]

end

/-- The token of an id that is not empty says exactly that id. -/
theorem session_token_round_trip {userId : String} (hid : userId ≠ "") (now : Time) :
    TokenRoundTrips userId now where
  dots := buildSessionToken_dots
  trimmed := buildSessionToken_trimmed
  decoded := authorized_sub? hid
  distinct userId' now' hid' hne heq := by
    rw [authorized_sub? hid, authorized_sub? hid'] at heq
    exact hne (Option.some.inj heq)

theorem session_token_round_trip_ana : TokenRoundTrips "ana" 1700000000123 :=
  session_token_round_trip (by decide) 1700000000123

/-! ### The token of a session -/

def SessionToken.text (t : SessionToken) : String := tokenText t.sub.text t.iat

/-- The guard resolves the token of a session to the row that the session was built for. -/
theorem session_resolves {w w' : World} {user : User} {session : SessionResult}
    {os os' : Nat → Oracle} (hu : user ∈ w.users.rows) (hid : user.id < 16 ^ 32)
    (hsession : (buildSession user).alone Cmd.exec os w = (.ok session, w'))
    (hf : (os' 0).fault = none) :
    (canActivate false (authorized session.token.text)).alone Cmd.exec os' w =
      (.ok (some user), w) := by
  have hnow : Cmd.exec (os 0) (.one .now) w = (.ok (os 0).now, w) := by
    simp [Cmd.exec, Stmt.fallible, Stmt.exec]
  have htext : session.token.text = buildSessionToken user.id.text (os 0).now := by
    cases (Prog.alone_bind_ok hnow).symm.trans hsession
    rfl
  have hlookup : w.users.lookup User.id user.id = some user :=
    Table.lookup_of_mem (fun _ _ h => .inl h) hu
  have hsub : (authorized (buildSessionToken user.id.text (os 0).now)).sub? = some user.id.text :=
    authorized_sub? (Uuid.text_ne_empty user.id)
  rw [htext, canActivate_spelled hsub (Uuid.parseStr?_text hid) hf, hlookup]

end TicketSystem
