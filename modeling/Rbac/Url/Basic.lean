import Rbac.Number.Integer
import Rbac.Text.Quoted
import Rbac.Url.Host

namespace Rbac

structure Url where
  /-- Empty if there is none. -/
  scheme : String := ""
  userinfo : String := ""
  host : String := ""
  port : Option Int := none
  path : String := ""
  query : Option String := none
  fragment : Option String := none
deriving DecidableEq, Repr

namespace Url

/-- Why a text is no URL. -/
inductive Flaw where
  | tooLong
  | unprintable (c : Char) (position : Nat)
  | port (text : String)
  | host (flaw : Host.Flaw) (text : String)
  /-- A part of a URL that is put together from parts. -/
  | partTooLong (part : String)
  /-- A relative URL would be taken for one with a host. -/
  | doubledSlash
  /-- A relative URL would be taken for one with a scheme. -/
  | colonFirst
deriving DecidableEq, Repr

def Flaw.message : Flaw → String
  | .tooLong => "URL too long"
  | .partTooLong part => s!"URL component '{part}' too long"
  | .unprintable c position =>
    let shown := Text.quoted (String.ofList [c])
    s!"Invalid non-printable ASCII character in URL, {shown} at position {position}."
  | .port text => s!"Invalid port: {Text.quoted text}"
  | .host .address4 text => s!"Invalid IPv4 address: {Text.quoted text}"
  | .host .address6 text => s!"Invalid IPv6 address: {Text.quoted text}"
  | .host .name text => s!"Invalid IDNA hostname: {Text.quoted text}"
  | .doubledSlash => "Relative URLs cannot have a path starting with '//'"
  | .colonFirst => "Relative URLs cannot have a path starting with ':'"

def maxLength : Nat := 65536

def isUnprintable (c : Char) : Bool :=
  c.toNat < 0x20 || c.toNat == 0x7F

def ownPorts : List (String × Int) :=
  [("ftp", 21), ("http", 80), ("https", 443), ("ws", 80), ("wss", 443)]

/-- A port that is its scheme's own is left out. -/
def dropOwnPort (scheme : String) (port : Option Int) : Option Int :=
  port.filter fun port => !ownPorts.contains (scheme, port)

def resolve (path : String) : String :=
  let segments := Text.splitOn '/' path.toList
  let step (reached : List (List Char)) (segment : List Char) : List (List Char) :=
    if segment == ['.'] then reached
    else if segment == ['.', '.'] then if reached == [[]] then reached else reached.drop 1
    else segment :: reached
  String.ofList (List.intercalate ['/'] (segments.foldl step []).reverse)

def hasAuthority (url : Url) : Bool :=
  !url.userinfo.isEmpty || !url.host.isEmpty || url.port.isSome

/-- Puts a path and a query into their normal form, and into a URL. -/
def withParts (path : String) (query : Option String) (url : Url) : Except Flaw Url :=
  let isBare := url.scheme.isEmpty && !url.hasAuthority
  if isBare && path.startsWith "//" then .error .doubledSlash
  else if isBare && path.startsWith ":" then .error .colonFirst
  else .ok { url with
    path := Escape.part Escape.inPath (if isBare then path else resolve path)
    query := query.map (Escape.part Escape.inQuery) }

/-- A scheme off the front of a text. It may be empty before its colon. -/
def splitScheme (text : List Char) : List Char × List Char :=
  let isLater (c : Char) : Bool := c.isAlphanum || c == '+' || c == '.' || c == '-'
  let scheme := if text.head?.any Char.isAlpha then text.takeWhile isLater else []
  match text.drop scheme.length with
  | ':' :: rest => (scheme, rest)
  | _ => ([], text)

/-- User, host and port: what stands before the last `@`, a host in brackets or up to a colon, and
the rest. -/
def splitAuthority (text : List Char) : List Char × List Char × List Char :=
  let place := text.reverse.takeWhile (· != '@')
  let user := (text.take (text.length - place.length)).dropLast
  let rest := place.reverse
  let bracketed := (rest.reverse.dropWhile (· != ']')).reverse
  let host := if rest.head? == some '[' && !bracketed.isEmpty then bracketed
    else rest.takeWhile (· != ':')
  match rest.drop host.length with
  | ':' :: port => (user, host, port)
  | port => (user, host, port)

def readPort (scheme text : String) : Except Flaw (Option Int) :=
  if text.isEmpty then .ok none
  else match Number.Integer.read? 10 text.toList with
    | some port => .ok (dropOwnPort scheme (some port))
    | none => .error (.port text)

def cutBefore (ends : Char → Bool) (text : List Char) : List Char × List Char :=
  (text.takeWhile (!ends ·), text.dropWhile (!ends ·))

def readParts (text : List Char) : Except Flaw Url := do
  let (scheme, rest) := splitScheme text
  let (authority, rest) := match rest with
    | '/' :: '/' :: rest => cutBefore (fun c => c == '/' || c == '?' || c == '#') rest
    | rest => ([], rest)
  let (path, rest) := cutBefore (fun c => c == '?' || c == '#') rest
  let (query, rest) := match rest with
    | '?' :: rest => let (query, rest) := cutBefore (· == '#') rest; (some query, rest)
    | rest => (none, rest)
  let fragment := if rest.isEmpty then none else some (String.ofList (rest.drop 1))
  let (user, host, port) := splitAuthority authority
  let hostText := String.ofList host
  let url : Url := {
    scheme := Text.lowerAscii (String.ofList scheme)
    userinfo := Escape.part Escape.inUserinfo (String.ofList user)
    host := ← (Host.read hostText).mapError (.host · hostText)
    port := ← readPort (String.ofList scheme) (String.ofList port)
    fragment := fragment.map (Escape.part Escape.inFragment) }
  url.withParts (String.ofList path) (query.map String.ofList)

def read (text : String) : Except Flaw Url :=
  let chars := text.toList
  if maxLength < chars.length then .error .tooLong
  else match chars.findIdx? isUnprintable with
    | some position => .error (.unprintable (chars.getD position ' ') position)
    | none => readParts chars

def authority (url : Url) : String :=
  (if url.userinfo.isEmpty then "" else url.userinfo ++ "@")
    ++ (if url.host.toList.contains ':' then s!"[{url.host}]" else url.host)
    ++ (url.port.map fun port => s!":{port}").getD ""

def text (url : Url) : String :=
  (if url.scheme.isEmpty then "" else url.scheme ++ ":")
    ++ (if url.authority.isEmpty then "" else "//" ++ url.authority)
    ++ url.path
    ++ (url.query.map ("?" ++ ·)).getD ""
    ++ (url.fragment.map ("#" ++ ·)).getD ""

/-- The path, at least a slash, and the query behind it. -/
def target (url : Url) : String :=
  (if url.path.isEmpty then "/" else url.path) ++ (url.query.map ("?" ++ ·)).getD ""

/-- The same place with another path and query. Here the scheme is in lower case, so that its own
port is left out where it was kept before, and so are the escapes in the name of a host. -/
def withPath (path : String) (query : Option String) (url : Url) : Except Flaw Url :=
  let parts := [("scheme", url.scheme), ("authority", url.authority), ("path", path),
    ("query", query.getD ""), ("fragment", url.fragment.getD "")]
  match parts.find? fun (_, text) => maxLength < text.length with
  | some (part, _) => .error (.partTooLong part)
  | none =>
    let host := if url.host.toList.contains ':' then url.host else Text.lowerAscii url.host
    { url with host, port := dropOwnPort url.scheme url.port }.withParts path query

def withTarget (target : String) (url : Url) : Except Flaw Url :=
  match Text.cutAt? '?' target.toList with
  | some (path, query) => url.withPath (String.ofList path) (some (String.ofList query))
  | none => url.withPath target none

def isAbsolute (url : Url) : Bool :=
  !url.scheme.isEmpty && !url.host.isEmpty

/-- A base of other URLs: its target ends in a slash. -/
def asBase (url : Url) : Except Flaw Url :=
  if url.target.endsWith "/" then .ok url else url.withTarget (url.target ++ "/")

def readBase (text : String) : Except Flaw Url := do
  (← read text).asBase

def dropSlashes (text : String) : String :=
  String.ofList (text.toList.dropWhile (· == '/'))

/-- What a URL means beside a base: a relative one goes on where the base ends. -/
def join (base url : Url) : Except Flaw Url :=
  if url.isAbsolute then .ok url else base.withTarget (base.target ++ dropSlashes url.target)

/-- Whether a text starts with a scheme: something before a colon that no slash comes before. -/
def namesScheme (text : String) : Bool :=
  let name := text.toList.takeWhile fun c => c != ':' && c != '/' && c != '#'
  !name.isEmpty && (text.toList.drop name.length).head? == some ':'

def unknownKind (text : String) : String :=
  s!"unknown url type: {Text.quoted text}"

def credentials? (url : Url) : Option (String × String) :=
  let (user, password) := match Text.cutAt? ':' url.userinfo.toList with
    | some (user, password) => (String.ofList user, String.ofList password)
    | none => (url.userinfo, "")
  if user.isEmpty && password.isEmpty then none
  else some (Text.Percent.decode user, Text.Percent.decode password)

end Url
end Rbac
