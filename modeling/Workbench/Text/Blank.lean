namespace Workbench.Text

/-- White space by its Unicode property. The zero-width space and the byte order mark do not have it. -/
def isSpace (c : Char) : Bool :=
  let code := c.toNat
  (0x9 ≤ code && code ≤ 0xD) || code == 0x20 || code == 0x85 || code == 0xA0 || code == 0x1680 ||
    (0x2000 ≤ code && code ≤ 0x200A) || code == 0x2028 || code == 0x2029 || code == 0x202F ||
    code == 0x205F || code == 0x3000

/-- White space as text is cut at it: with the four ASCII separators U+001C to U+001F. -/
def isBlank (c : Char) : Bool :=
  isSpace c || (0x1C ≤ c.toNat && c.toNat ≤ 0x1F)

def dropTrailing (blank : Char → Bool) (cs : List Char) : List Char :=
  (cs.reverse.dropWhile blank).reverse

/-- Characters without the blanks at both ends. -/
def trim (blank : Char → Bool) (cs : List Char) : List Char :=
  dropTrailing blank (cs.dropWhile blank)

/-- Text without the white space at both ends. -/
def strip (s : String) : String :=
  String.ofList (trim isBlank s.toList)

def stripEnd (s : String) : String :=
  String.ofList (dropTrailing isBlank s.toList)

/-- The maximal runs of characters that are not blank, the current one held in reverse. -/
def wordsFrom (blank : Char → Bool) : List Char → List Char → List (List Char)
  | [], [] => []
  | [], word => [word.reverse]
  | c :: rest, word =>
    if blank c then
      if word.isEmpty then wordsFrom blank rest [] else word.reverse :: wordsFrom blank rest []
    else wordsFrom blank rest (c :: word)

/-- The words of a text: its maximal runs without white space. -/
def words (s : String) : List String :=
  (wordsFrom isBlank s.toList []).map String.ofList

end Workbench.Text
