import Rbac.Text.Basic
import Rbac.Text.Digits
import Rbac.Text.Printable

namespace Rbac.Text.Quoted

def escapeChar (quote c : Char) : List Char :=
  if c == quote || c == '\\' then ['\\', c]
  else if c == '\n' then ['\\', 'n']
  else if c == '\r' then ['\\', 'r']
  else if c == '\t' then ['\\', 't']
  else if isPrintable c then [c]
  else if c.toNat < 0x100 then '\\' :: 'x' :: hexDigits 2 c.toNat
  else if c.toNat < 0x10000 then '\\' :: 'u' :: hexDigits 4 c.toNat
  else '\\' :: 'U' :: hexDigits 8 c.toNat

def escape (quote : Char) (point : CodePoint) : List Char :=
  match point with
  | .char c => escapeChar quote c
  | .half _ => '\\' :: 'u' :: hexDigits 4 point.value

def quoteOf (text : Text) : Char :=
  if text.points.contains '\'' && !text.points.contains '"' then '"' else '\''

end Quoted

def quoted (text : Text) : String :=
  let quote := Quoted.quoteOf text
  String.ofList (quote :: text.points.flatMap (Quoted.escape quote) ++ [quote])

end Rbac.Text
