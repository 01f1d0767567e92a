import Rbac.Text.Percent

namespace Rbac.Url.Escape

def isPlain (c : Char) : Bool :=
  c.isAlphanum || c == '-' || c == '.' || c == '_' || c == '~'

def isVisible (c : Char) : Bool :=
  0x20 < c.toNat && c.toNat < 0x7F

def inFragment (c : Char) : Bool :=
  isVisible c && !"\"<>`".toList.contains c

def inQuery (c : Char) : Bool :=
  isVisible c && !"\"#<>".toList.contains c

def inPath (c : Char) : Bool :=
  inQuery c && !"?`\x7b\x7d".toList.contains c

def inUserinfo (c : Char) : Bool :=
  inPath c && !"/;=@[\\]^|".toList.contains c

def inHost (c : Char) : Bool :=
  "!$&'()*+,;=\"`\x7b\x7d%|\\".toList.contains c

/-- A part of a URL with everything escaped that neither `mayStand` nor is plain. -/
def part (mayStand : Char → Bool) (text : String) : String :=
  String.ofList <| text.toList.flatMap fun c =>
    if isPlain c || mayStand c then [c]
    else (Text.Utf8.encode (String.ofList [c])).flatMap Text.Percent.escape

end Rbac.Url.Escape
