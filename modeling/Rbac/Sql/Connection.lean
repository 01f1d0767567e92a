import Rbac.Service
import Rbac.Sql.Repository

namespace Rbac.Sql

inductive LogEntry where
  /-- A connection is asked for, with a limit of seconds. -/
  | connect (timeout : String)
  | sent (statement : Statement)
  | commit
  | rollback

/-- An answer given beforehand: rows of cells, or an error. -/
abbrev Scripted := Except Raised (List (List Cell))

def misfit : Raised :=
  ⟨.other "TypeError", "row does not fit the statement"⟩

def Scripted.reply (scripted : Scripted) (statement : Statement) : Reply statement :=
  match scripted with
  | .error raised => .error raised
  | .ok rows => (((statement.readable rows).mapM statement.readRow?).map .ok).getD (.error misfit)

/-- A connection with the answers still to come and all that has happened on it. The identifiers
drawn and the events published beside it are kept here too. -/
structure Connection where
  replies : List Scripted
  supply : Supply
  log : List LogEntry := []
  published : List Event := []

namespace Connection

def note (entry : LogEntry) (connection : Connection) : Connection :=
  { connection with log := connection.log ++ [entry] }

def send (statement : Statement) (connection : Connection) : Reply statement × Connection :=
  let connection := connection.note (.sent statement)
  match connection.replies with
  | [] => (.ok [], connection)
  | scripted :: replies => (scripted.reply statement, { connection with replies })

end Connection

variable {α : Type}

def Session.run : Session α → Connection → Except Failure α × Connection
  | .done value, connection => (.ok value, connection)
  | .fail failure, connection => (.error failure, connection)
  | .draw next, connection =>
    (next connection.supply.next).run { connection with supply := connection.supply.advance }
  | .send statement next, connection =>
    let (reply, connection) := connection.send statement
    (next reply).run connection

namespace Connection

def execute : Execution Connection := fun useCase connection =>
  match (ofTransaction useCase).run connection with
  | (.ok answer, connection) => (answer, connection.note .commit)
  | (.error failure, connection) => (.error failure, connection.note .rollback)

def publish : Publish Connection := fun events connection =>
  (.ok (), { connection with published := connection.published ++ events })

def dispatcher (pattern : Pattern) (clock : Clock) :
    Dispatcher Request RequestType Connection Answer :=
  Service.dispatcher pattern execute (some publish) clock

/-- Whether the first cell of a row is the number one; a true value counts as one. -/
def isOne : Cell → Bool
  | .int value => value == 1
  | .bool value => value
  | .real value => value == .ofInt 1
  | _ => false

/-- Whether the connection can answer a fixed query; an error of the driver counts as no, and is
handed on to be logged. -/
def ping (timeout : Option String) (connection : Connection) : Except Raised Bool × Connection :=
  let connection := timeout.elim connection fun timeout => connection.note (.connect timeout)
  let (reply, connection) := connection.send .ping
  match reply with
  | .ok rows => (.ok (rows.head?.any isOne), connection)
  | .error raised => (.error raised, connection)

end Connection
end Rbac.Sql
