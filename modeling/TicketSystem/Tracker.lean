import TicketSystem.Lib.Objects
import TicketSystem.Schema

namespace TicketSystem

open Interleaved

/-- A ticket of a tracker without requests, rows or events. Its operations are atomic: each looks at
the ticket it names and changes it in one step, or is refused. -/
structure Item where
  reporter : Uuid
  status : TicketStatus := .abierto
  assignee : Option Uuid := none
  level : Nat := 0
  version : Nat := 0
  rootCause : Option String := none
  solution : Option String := none
  deriving DecidableEq, Repr

inductive Op where
  | opens (id reporter : Uuid)
  | assigns (id assignee : Uuid) (version : Nat)
  | starts (id : Uuid) (actor : User) (version : Nat)
  | resolves (id : Uuid) (actor : User) (version : Nat) (rootCause solution : String)
  | escalates (id : Uuid) (current target : Nat)
  deriving DecidableEq, Repr

/-- Who may work on a ticket: an administrator on any, an agent on those assigned to them. -/
def User.WorksOn (u : User) (x : Item) : Prop :=
  u.role = .administrador ∨ u.role = .agente ∧ x.assignee = some u.id

instance (u : User) (x : Item) : Decidable (u.WorksOn x) := inferInstanceAs (Decidable (_ ∨ _))

def Item.assign (x : Item) (assignee : Uuid) (version : Nat) : Option Item :=
  if x.version = version then some { x with assignee := some assignee, version := version + 1 }
  else none

def Item.start (x : Item) (actor : User) (version : Nat) : Option Item :=
  if x.version = version ∧ x.status = .abierto ∧ x.assignee ≠ none ∧ actor.WorksOn x then
    some { x with status := .enProgreso, version := version + 1 }
  else none

/-- An open ticket is resolved by an administrator only. -/
def Item.resolve (x : Item) (actor : User) (version : Nat) (rootCause solution : String) :
    Option Item :=
  if x.version = version ∧ x.status ≠ .resuelto ∧ actor.WorksOn x ∧
      (x.status = .abierto → actor.role = .administrador) ∧ rootCause ≠ "" ∧ solution ≠ "" then
    some { x with status := .resuelto, version := version + 1, rootCause := some rootCause,
                  solution := some solution }
  else none

def Item.escalate (x : Item) (current target : Nat) : Option Item :=
  if x.status ≠ .resuelto ∧ x.level = current then some { x with level := target } else none

def Op.id : Op → Uuid
  | .opens id _ | .assigns id _ _ | .starts id _ _ | .resolves id _ _ _ _ | .escalates id _ _ => id

def Op.write : Op → Option Item → Option Item
  | .opens _ reporter, none => some { reporter := reporter }
  | .opens _ _, some _ => none
  | .assigns _ assignee version, x => x.bind (·.assign assignee version)
  | .starts _ actor version, x => x.bind (·.start actor version)
  | .resolves _ actor version rootCause solution, x =>
    x.bind (·.resolve actor version rootCause solution)
  | .escalates _ current target, x => x.bind (·.escalate current target)

def tracker : Objects Uuid Item Op where
  target := Op.id
  write := Op.write

end TicketSystem
