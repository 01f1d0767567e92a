import Rbac.Json.Basic
import Rbac.Text.Blank
import Rbac.Text.Percent
import Rbac.Text.Upper

namespace Rbac.Http

structure Incoming where
  method : String
  path : String
  query : String := ""
  headers : List (String × String) := []
  body : List UInt8 := []

namespace Incoming

/-- The headers that have one value: of several that are sent the last one counts. -/
def singleHeaders : List String :=
  ["content-length", "content-type", "cookie", "expect", "from", "host", "max-forwards", "referer",
   "user-agent"]

/-- Adds a header to those that came before. Values of one name are joined by a comma. -/
def collect (headers : List (String × String)) (name value : String) : List (String × String) :=
  match headers.lookup name with
  | none => headers ++ [(name, value)]
  | some before =>
    let value := if singleHeaders.contains name then value else s!"{before},{value}"
    headers.map fun header => if header.1 == name then (name, value) else header

def lengthHeader : String := "content-length"

def splitTarget (path query : String) : String × String :=
  match Text.cutAt? '?' path.toList with
  | some (path, query) => (String.ofList path, String.ofList query)
  | none => (path, query)

/-- A request as it comes over the wire: the path is decoded, the method put into upper case, and
each header stripped of blanks around its value. A body brings its length with it. -/
def receive (method path query : String) (headers : List (String × String))
    (body : Option (List UInt8)) : Incoming :=
  let (path, query) := splitTarget path query
  let length := body.toList.map fun body => (lengthHeader, toString body.length)
  { method := Text.upper method, path := Text.Percent.decode path, query,
    headers := (headers ++ length).foldl (fun headers (name, value) =>
      collect headers (Text.lower name) (Text.trim value)) [],
    body := body.getD [] }

def header? (request : Incoming) (name : String) : Option String :=
  (request.headers.find? (·.1 == name)).map (·.2)

end Incoming

/-- A status: its number and the words that go with it. -/
structure Status where
  code : Nat
  reason : String
deriving DecidableEq, Repr

namespace Status

def ok : Status := ⟨200, "OK"⟩
def created : Status := ⟨201, "Created"⟩
def noContent : Status := ⟨204, "No Content"⟩
def badRequest : Status := ⟨400, "Bad Request"⟩
def unauthorized : Status := ⟨401, "Unauthorized"⟩
def notFound : Status := ⟨404, "Not Found"⟩
def methodNotAllowed : Status := ⟨405, "Method Not Allowed"⟩
def conflict : Status := ⟨409, "Conflict"⟩
def unsupportedMediaType : Status := ⟨415, "Unsupported Media Type"⟩
def unprocessable : Status := ⟨422, "Unprocessable Entity"⟩
def internalError : Status := ⟨500, "Internal Server Error"⟩
def unavailable : Status := ⟨503, "Service Unavailable"⟩

def text (status : Status) : String :=
  s!"{status.code} {status.reason}"

end Status

structure Response where
  status : Status
  headers : List (String × String) := []
  body : Option Json := none

namespace Response

/-- Sets a header in place of an earlier one of its name. -/
def setHeader (name value : String) (response : Response) : Response :=
  { response with headers := response.headers.filter (·.1 != name) ++ [(name, value)] }

def header? (response : Response) (name : String) : Option String :=
  (response.headers.find? (·.1 == name)).map (·.2)

def jsonType : String := "application/json"
def problemType : String := "application/problem+json"

def json (status : Status) (body : Json) : Response :=
  ⟨status, [("content-type", jsonType)], some body⟩

def empty (status : Status) : Response :=
  ⟨status, [], none⟩

end Response
end Rbac.Http
