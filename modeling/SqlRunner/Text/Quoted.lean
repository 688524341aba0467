import SqlRunner.Text.Printable

/-!
# Quoted text — a text as a message shows it

Messages and descriptions show a text between quotes, with everything that could not be read off
the page written as an escape. The quotes are single ones, unless the text holds a single quote and
no double quote; so at most one of the two quotes ever needs a backslash.
-/

set_option autoImplicit false

namespace SqlRunner.Text

/-- The digit `0`–`9`, `a`–`f` of a number below sixteen. -/
def hexDigit (n : Nat) : Char :=
  if n < 10 then Char.ofNat (48 + n) else Char.ofNat (87 + n)

/-- The last `width` hexadecimal digits of a number. -/
def hexDigits : Nat → Nat → List Char
  | 0, _ => []
  | width + 1, n => hexDigits width (n / 16) ++ [hexDigit (n % 16)]

/-- The quote that goes around a text. -/
def quoteFor (s : List Char) : Char :=
  if s.contains '\'' && !s.contains '"' then '"' else '\''

/-- One character of a quoted text. -/
def quoteChar (quote c : Char) : List Char :=
  if c == quote || c == '\\' then ['\\', c]
  else if c == '\n' then ['\\', 'n']
  else if c == '\r' then ['\\', 'r']
  else if c == '\t' then ['\\', 't']
  else if isPrintable c then [c]
  else if c.toNat < 0x100 then '\\' :: 'x' :: hexDigits 2 c.toNat
  else if c.toNat < 0x10000 then '\\' :: 'u' :: hexDigits 4 c.toNat
  else '\\' :: 'U' :: hexDigits 8 c.toNat

/-- The text between quotes, escaped where needed. -/
def quoted (s : String) : String :=
  let quote := quoteFor s.toList
  String.ofList (quote :: s.toList.flatMap (quoteChar quote) ++ [quote])

/-- One octet of quoted binary data. Only the printable characters of ASCII stand for
    themselves. -/
def quoteOctet (quote : Char) (octet : UInt8) : List Char :=
  let c := Char.ofNat octet.toNat
  if octet.toNat < 0x80 then quoteChar quote c else '\\' :: 'x' :: hexDigits 2 octet.toNat

/-- Binary data between quotes. -/
def quotedOctets (data : List UInt8) : String :=
  let quote := quoteFor (data.map fun o => Char.ofNat o.toNat)
  String.ofList (quote :: data.flatMap (quoteOctet quote) ++ [quote])

end SqlRunner.Text
