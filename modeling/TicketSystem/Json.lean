import Mathlib.Data.List.Basic

namespace TicketSystem

/-- A property of a JSON object: a string, or the text of anything else. -/
inductive JsonField where
  | string (s : String)
  | other (json : String)
  deriving DecidableEq, Repr

/-- A JSON value: the properties of an object, or the text of anything else. -/
inductive Json where
  | object (fields : List (String × JsonField))
  | other (json : String)
  deriving DecidableEq, Repr

def Json.string? : Json → String → Option String
  | .object fields, name =>
    match fields.lookup name with
    | some (.string s) => some s
    | _ => none
  | .other _, _ => none

/-- The body of a message: the text of a JSON value, or a text that `JSON.parse` refuses. -/
inductive SqsBody where
  | stringify (v : Json)
  | text (s : String)
  deriving DecidableEq, Repr

/-- `JSON.parse` undoes `JSON.stringify`. -/
def SqsBody.parse? : SqsBody → Option Json
  | .stringify v => some v
  | .text _ => none

structure SqsMessage where
  messageId : String
  body : SqsBody
  deriving DecidableEq, Repr

end TicketSystem
