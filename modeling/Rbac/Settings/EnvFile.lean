import Rbac.Text.Blank

namespace Rbac.EnvFile

abbrev Variables := List (String × Option String)

def unifyNewlines : List Char → List Char
  | '\r' :: '\n' :: rest => '\n' :: unifyNewlines rest
  | '\r' :: rest => '\n' :: unifyNewlines rest
  | c :: rest => c :: unifyNewlines rest
  | [] => []

def isInlineBlank (c : Char) : Bool :=
  Text.isBlankChar c && c != '\n'

def dropLine (text : List Char) : List Char :=
  (text.dropWhile (· != '\n')).drop 1

/-- The rest behind a comment, if there is one, and the end of the line; nothing if anything else
stands before it. -/
def lineEnd? (text : List Char) : Option (List Char) :=
  let uncommented := match text.dropWhile isInlineBlank with
    | '#' :: comment => comment.dropWhile (· != '\n')
    | rest => rest
  match uncommented with
  | [] => some []
  | '\n' :: rest => some rest
  | _ => none

/-- A word before a name that counts for nothing. -/
def dropExport (text : List Char) : List Char :=
  let word := "export".toList
  if word.isPrefixOf text then
    let rest := text.drop word.length
    if rest.head?.any isInlineBlank then rest.dropWhile isInlineBlank else text
  else text

/-- A name off the front of a text, bare or in single quotes. -/
def name? (text : List Char) : Option (String × List Char) :=
  match text with
  | '\'' :: quoted =>
    match Text.cutAt? '\'' quoted with
    | some (c :: name, rest) => some (String.ofList (c :: name), rest)
    | _ => none
  | text =>
    let stops (c : Char) : Bool := c == '=' || c == '#' || Text.isBlankChar c
    let name := text.takeWhile (!stops ·)
    if name.isEmpty then none else some (String.ofList name, text.dropWhile (!stops ·))

/-- The text up to the closing quote, and the rest. A quote behind a backslash does not close. -/
def untilQuote? (quote : Char) : List Char → Option (List Char × List Char)
  | [] => none
  | '\\' :: next :: rest =>
    (untilQuote? quote rest).map fun (value, after) => ('\\' :: next :: value, after)
  | c :: rest =>
    if c == quote then some ([], rest)
    else (untilQuote? quote rest).map fun (value, after) => (c :: value, after)

def singleEscape? (c : Char) : Option Char :=
  if c == '\\' || c == '\'' then some c else none

def doubleEscape? : Char → Option Char
  | '\\' => some '\\'
  | '\'' => some '\''
  | '"' => some '"'
  | 'a' => some (Char.ofNat 7)
  | 'b' => some (Char.ofNat 8)
  | 'f' => some (Char.ofNat 12)
  | 'n' => some '\n'
  | 'r' => some '\r'
  | 't' => some '\t'
  | 'v' => some (Char.ofNat 11)
  | _ => none

/-- Resolves escapes; a backslash without one stays. -/
def unescape (escape? : Char → Option Char) : List Char → List Char
  | [] => []
  | [c] => [c]
  | c :: next :: rest =>
    match if c == '\\' then escape? next else none with
    | some value => value :: unescape escape? rest
    | none => c :: unescape escape? (next :: rest)

def dropComment : List Char → List Char
  | [] => []
  | c :: rest =>
    if Text.isBlankChar c && (rest.dropWhile Text.isBlankChar).head? == some '#' then []
    else c :: dropComment rest

def bareValue (text : List Char) : List Char :=
  Text.trimBy Text.isBlankChar (dropComment text)

def value? (text : List Char) : Option (List Char × List Char) :=
  match text.dropWhile isInlineBlank with
  | '\'' :: quoted =>
    (untilQuote? '\'' quoted).map fun (value, rest) => (unescape singleEscape? value, rest)
  | '"' :: quoted =>
    (untilQuote? '"' quoted).map fun (value, rest) => (unescape doubleEscape? value, rest)
  | _ => some (bareValue (text.takeWhile (· != '\n')), text.dropWhile (· != '\n'))

abbrev Binding := String × Option (List Char)

/-- Closes a binding at the end of its line; with anything else on the line it does not count. -/
def close (binding : Binding) (text : List Char) : Option Binding × List Char :=
  match lineEnd? text with
  | some rest => (some binding, rest)
  | none => (none, dropLine text)

/-- The binding that starts a text without white space in front, if its line holds one, and the
rest. A name without `=` is bound to nothing. -/
def binding (text : List Char) : Option Binding × List Char :=
  match text with
  | '#' :: _ => (none, dropLine text)
  | text =>
    let text := dropExport text
    match name? text with
    | none => (none, dropLine text)
    | some (name, rest) =>
      match rest.dropWhile isInlineBlank with
      | '=' :: rest =>
        match value? rest with
        | some (value, rest) => close (name, some value) rest
        | none => (none, dropLine rest)
      | rest => close (name, none) rest

def bindings (text : List Char) : List Binding :=
  let start := text.dropWhile Text.isBlankChar
  if start.isEmpty then []
  else
    let (found, rest) := binding start
    if rest.length < text.length then found.toList ++ bindings rest else found.toList
termination_by text.length

/-- A reference off the front of a text: the variable's name, and what stands for it if it is not
set. -/
def reference? (text : List Char) : Option ((String × String) × List Char) :=
  match text with
  | '$' :: '{' :: rest =>
    let stops (c : Char) : Bool := c == '}' || c == ':'
    let name := String.ofList (rest.takeWhile (!stops ·))
    match rest.dropWhile (!stops ·) with
    | '}' :: rest => some ((name, ""), rest)
    | ':' :: '-' :: rest =>
      (Text.cutAt? '}' rest).map fun (default, rest) => ((name, String.ofList default), rest)
    | _ => none
  | _ => none

/-- The value of a variable: the last one given before, else the one in the environment. A variable
that is bound to nothing is empty. -/
def lookup (environment : List (String × String)) (before : Variables) (name default : String) :
    String :=
  match before.find? (·.1 == name) with
  | some (_, value) => value.getD ""
  | none => ((environment.find? (·.1 == name)).map (·.2)).getD default

def resolve (lookup : String → String → String) : List Char → List Char
  | [] => []
  | c :: rest =>
    match reference? (c :: rest) with
    | some ((name, default), after) =>
      if after.length ≤ rest.length then (lookup name default).toList ++ resolve lookup after
      else (lookup name default).toList
    | none => c :: resolve lookup rest
termination_by text => text.length

/-- Binds a name anew; a name that was bound before keeps its place. -/
def bind (name : String) (value : Option String) (before : Variables) : Variables :=
  if before.any (·.1 == name) then
    before.map fun bound => if bound.1 == name then (name, value) else bound
  else before ++ [(name, value)]

def dropByteOrderMark : List Char → List Char
  | '\ufeff' :: text => text
  | text => text

/-- The variables of a file, in the order of their names' first lines. -/
def read (environment : List (String × String)) (text : String) : Variables :=
  (bindings (unifyNewlines (dropByteOrderMark text.toList))).foldl (fun before (name, value) =>
    let resolved := value.map fun value =>
      String.ofList (resolve (lookup environment before) value)
    bind name resolved before) []

end Rbac.EnvFile
