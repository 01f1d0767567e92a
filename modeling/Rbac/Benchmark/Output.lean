import Rbac.Text.Blank
import Rbac.Text.Quoted

namespace Rbac.Benchmark.Output

def parts (path : String) : List String :=
  (Text.splitOn '/' path.toList).map String.ofList

/-- Follows the parts of a path down from the working directory; nothing if it leaves it. -/
def follow : List String → List String → Option (List String)
  | reached, [] => some reached
  | reached, part :: rest =>
    if part.isEmpty || part == "." then follow reached rest
    else if part == ".." then
      match reached.reverse with
      | [] => none
      | _ :: above => follow above.reverse rest
    else follow (reached ++ [part]) rest

def relative? (path : String) : Option String :=
  if path.startsWith "/" then none
  else (follow [] (parts path)).map ("/".intercalate ·)

def maxPart : Nat := 255

def maxPath : Nat := 4095

/-- A path up to its first part with which it gets too long, if there is one. -/
def tooLong? (before : List String) : List String → Option String
  | [] => none
  | part :: rest =>
    let before := before ++ [part]
    let path := "/".intercalate before
    if maxPart < part.utf8ByteSize || maxPath < path.utf8ByteSize then some path
    else tooLong? before rest

def refusal? (path : String) : Option String :=
  if path.isEmpty then some s!"[Errno 2] No such file or directory: {Text.quoted path}"
  else match tooLong? [] (parts path) with
    | some start => some s!"[Errno 36] File name too long: {Text.quoted start}"
    | none =>
      match (parts path).getLast? with
      | some "" | some "." | some ".." => some s!"[Errno 21] Is a directory: {Text.quoted path}"
      | _ => none

def isBroken (path : String) : Bool :=
  path.toList.contains '\x00'

def report (path : String) : String :=
  match refusal? path with
  | some reason => s!"Could not write {path}: {reason}"
  | none => s!"Wrote {path}"

def files (path text : String) : List (String × String) :=
  match refusal? path with
  | some _ => []
  | none => (relative? path).toList.map (·, text)

end Rbac.Benchmark.Output
