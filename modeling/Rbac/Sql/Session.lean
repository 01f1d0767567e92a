import Rbac.Sql.Row
import Rbac.Supply

namespace Rbac.Sql

/-- An error raised by the database driver. -/
structure Raised where
  error : DatabaseError
  message : Text
deriving DecidableEq

def Raised.failure (raised : Raised) : Failure :=
  .database raised.error raised.message

/-- What the database answers to a statement. -/
abbrev Reply (statement : Statement) := Except Raised (List statement.Row)

inductive Session (α : Type) where
  | done (value : α)
  | fail (failure : Failure)
  | draw (next : Uuid → Session α)
  | send (statement : Statement) (next : Reply statement → Session α)

namespace Session

variable {α β : Type}

def bind : Session α → (α → Session β) → Session β
  | .done value, f => f value
  | .fail failure, _ => .fail failure
  | .draw next, f => .draw fun id => (next id).bind f
  | .send statement next, f => .send statement fun reply => (next reply).bind f

instance : Monad Session where
  pure := .done
  bind := bind

def ofExcept : Except Failure α → Session α
  | .ok value => .done value
  | .error failure => .fail failure

/-- Sends a statement; an error is passed on. -/
def query (statement : Statement) : Session (List statement.Row) :=
  .send statement fun
    | .ok rows => .done rows
    | .error raised => .fail raised.failure

def execute (statement : Statement) : Session Unit := do
  let _ ← query statement

/-- Sends a write that a unique index can refuse, which is then the given failure. -/
def executeUnique (statement : Statement) (refused : Failure) : Session Unit :=
  .send statement fun
    | .ok _ => .done ()
    | .error raised =>
      .fail (if raised.error = .uniqueViolation then refused else raised.failure)

end Session
end Rbac.Sql
