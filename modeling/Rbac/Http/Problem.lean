import Rbac.Failure
import Rbac.Http.Message
import Rbac.Json.Shown
import Rbac.Log
import Rbac.Payload
import Rbac.Validation

namespace Rbac.Http

inductive Problem where
  | unauthorized (detail : String)
  | noRoute
  | noMethod (allowed : List String)
  | unknownMethod
  /-- The method is not one of requests. -/
  | noRequest
  | emptyBody
  | malformedBody
  | malformedForm (byte position : Nat)
  /-- A header does not say what it has to. -/
  | badHeader (name reason : String)
  /-- The body cannot be read for reasons of this service's own. -/
  | unreadable
  | unsupportedMedia (mediaType : String)
  | flawed (flaws : Flaws)
  | failed (failure : Failure)

def describedAt (status : Status) : String :=
  let page := "https://tools.ietf.org/html/rfc9110#section-15."
  match status.code with
  | 400 => page ++ "5.1"
  | 401 => page ++ "5.2"
  | 404 => page ++ "5.5"
  | 405 => page ++ "5.6"
  | 409 => page ++ "5.10"
  | 415 => page ++ "5.16"
  | 422 => page ++ "5.21"
  | 500 => page ++ "6.1"
  | _ => "about:blank"

namespace Problem

def shownByte (byte : Nat) : String :=
  "0x" ++ String.ofList (Text.hexDigits 2 byte)

def status : Problem → Status
  | .unauthorized _ => .unauthorized
  | .noRoute => .notFound
  | .noMethod _ => .methodNotAllowed
  | .unknownMethod | .noRequest | .emptyBody | .malformedBody | .malformedForm .. | .badHeader ..
  | .flawed _ => .badRequest
  | .unreadable => .internalError
  | .unsupportedMedia _ => .unsupportedMediaType
  | .failed failure =>
    match failure with
    | .notFound .. => .notFound
    | .conflict _ => .conflict
    | .domain _ => .unprocessable
    | .invalid _ => .badRequest
    | _ => .internalError

def internalTitle : String := Status.internalError.reason
def internalDetail : String := "An unexpected error occurred."

def title : Problem → String
  | .unauthorized _ => "Unauthorized"
  | .noRoute => Status.notFound.text
  | .noMethod _ => Status.methodNotAllowed.text
  | .unknownMethod => "Bad request"
  | .noRequest => Status.badRequest.text
  | .emptyBody | .malformedBody => "Invalid JSON"
  | .malformedForm .. => "Invalid URL-encoded"
  | .badHeader .. => "Invalid header value"
  | .unreadable => internalTitle
  | .unsupportedMedia _ => Status.unsupportedMediaType.text
  | .flawed _ => "Validation Error"
  | .failed failure =>
    match failure with
    | .notFound .. => "Not Found"
    | .conflict _ => "Conflict"
    | .domain _ => "Domain Error"
    | .invalid _ => "Validation Error"
    | _ => internalTitle

def detail : Problem → Option Text
  | .unauthorized detail => some detail
  | .noRoute | .noMethod _ | .noRequest => none
  | .unknownMethod => some "Invalid HTTP method"
  | .emptyBody => some "Could not parse an empty JSON body"
  | .malformedBody => some "Could not parse JSON body"
  | .malformedForm byte position => some <|
    s!"Could not parse URL-encoded body - 'ascii' codec can't decode byte {shownByte byte} "
      ++ s!"in position {position}: ordinal not in range(128)"
  | .badHeader name reason => some
      s!"The value provided for the \"{name}\" header is invalid. {reason}"
  | .unreadable => some internalDetail
  | .unsupportedMedia mediaType => some s!"{mediaType} is an unsupported media type."
  | .flawed _ => some (Failure.invalid []).message
  | .failed failure =>
    match failure with
    | .notFound .. | .conflict _ | .domain _ | .invalid _ => some failure.message
    | _ => some internalDetail

def errors? : Problem → Option (List (String × List String))
  | .flawed flaws => some (Validation.group flaws)
  | .failed (.invalid errors) => some errors
  | _ => none

def internalLine (request : Incoming) : LogLine :=
  .problem .error s!"Unhandled exception on {request.method} {request.path}"

def errorsJson (errors : List (String × List String)) : Json :=
  .obj (errors.map fun (place, messages) => (.ofString place, .ofStrings messages))

def logLine? (request : Incoming) : Problem → Option LogLine
  | .unauthorized detail => some (.problem .warning s!"Unauthorized: {detail}")
  | .flawed flaws => some <|
    .problem .warning s!"Malformed request: {(errorsJson (Validation.group flaws)).nested}"
  | .failed failure => some <|
    match failure with
    | .notFound .. => .problem .warning ("Not found: " ++ failure.message)
    | .conflict _ => .problem .warning ("Conflict: " ++ failure.message)
    | .domain _ => .problem .warning ("Domain rule violated: " ++ failure.message)
    | .invalid errors => .problem .warning s!"Validation failed: {(errorsJson errors).nested}"
    | _ => internalLine request
  | .unreadable => some (internalLine request)
  | _ => none

def errorsMember (errors : List (String × List String)) : Text × Json :=
  ("errors", errorsJson errors)

def body (problem : Problem) (path : String) (correlation : Option String) : Json :=
  let members : List (Text × Json) := [
    ("type", .str (describedAt problem.status)),
    ("title", .str problem.title),
    ("status", .ofNat problem.status.code),
    ("detail", .ofText? problem.detail),
    ("instance", .str path),
    ("correlationId", .ofText? (correlation.map .ofString))]
  .obj (members ++ problem.errors?.toList.map errorsMember)

def headers : Problem → List (String × String)
  | .unauthorized _ => [("www-authenticate", "Bearer")]
  | .noMethod allowed => [("allow", ", ".intercalate allowed)]
  | _ => []

def response (problem : Problem) (path : String) (correlation : Option String) : Response :=
  { status := problem.status,
    headers := ("content-type", Response.problemType) :: problem.headers,
    body := some (problem.body path correlation) }

end Problem
end Rbac.Http
