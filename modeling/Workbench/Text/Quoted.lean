import Workbench.Text.Printable

namespace Workbench.Text

/-- A code in hexadecimal, with leading zeros up to a width. -/
def hex (width : Nat) (code : Nat) : List Char :=
  let written := Nat.toDigits 16 code
  List.replicate (width - written.length) '0' ++ written

/-- Escapes for line breaks and tabs, else by the smallest of three hexadecimal forms. -/
def escapeCode (code : Nat) : List Char :=
  if code = 9 then ['\\', 't']
  else if code = 10 then ['\\', 'n']
  else if code = 13 then ['\\', 'r']
  else if code < 0x100 then '\\' :: 'x' :: hex 2 code
  else if code < 0x10000 then '\\' :: 'u' :: hex 4 code
  else '\\' :: 'U' :: hex 8 code

/-- One character within quotes. -/
def quoteChar (mark c : Char) : List Char :=
  if c = mark || c = '\\' then ['\\', c]
  else if isPrintable c then [c]
  else escapeCode c.toNat

/-- Single quotes, unless the text holds a single quote and no double one. -/
def quoteMark (cs : List Char) : Char :=
  if cs.contains '\'' && !cs.contains '"' then '"' else '\''

/-- A text between quotes with every unprintable character escaped. -/
def quoted (s : String) : String :=
  let cs := s.toList
  let mark := quoteMark cs
  String.ofList (mark :: (cs.flatMap (quoteChar mark) ++ [mark]))

/-- A byte string between quotes; bytes outside printable ASCII are escaped. -/
def quotedBytes (bytes : List UInt8) : String :=
  let cs := bytes.map fun b => Char.ofNat b.toNat
  let mark := quoteMark cs
  let shown (c : Char) : List Char :=
    if c = mark || c = '\\' then ['\\', c]
    else if 0x20 ≤ c.toNat && c.toNat ≤ 0x7E then [c]
    else escapeCode c.toNat
  String.ofList ('b' :: mark :: (cs.flatMap shown ++ [mark]))

end Workbench.Text
