import Workbench.Files.Store

namespace Workbench.Index

/-- The entity for a character with a meaning of its own in markup. -/
def entity (c : Char) : List Char :=
  if c = '&' then "&amp;".toList
  else if c = '<' then "&lt;".toList
  else if c = '>' then "&gt;".toList
  else if c = '"' then "&quot;".toList
  else if c = '\'' then "&#x27;".toList
  else [c]

def escape (s : String) : String :=
  String.ofList (s.toList.flatMap entity)

def item (path : String) : String :=
  "    <li><a href=\"" ++ escape path ++ "\">" ++ escape path ++ "</a></li>"

def pageHead : String :=
  "<!DOCTYPE html>\n<html>\n<head><meta charset=\"utf-8\"><title>LIA Studio</title></head>\n" ++
    "<body>\n  <h1>Virtual File System</h1>\n  <ul>\n"

def pageFoot : String := "\n  </ul>\n</body>\n</html>\n"

/-- The paths that a page lists: all but that of the page itself, in code point order. -/
def listed (paths : List String) : List String :=
  (paths.mergeSort fun a b => decide (a ≤ b)).filter fun path => path ≠ Store.previewRoot

/-- The preview page: a link to every path. -/
def page (paths : List String) : String :=
  pageHead ++ Text.join "\n" ((listed paths).map item) ++ pageFoot

/-- Put an up-to-date preview page into the store. -/
def refresh (store : Store) : Store :=
  Fields.put store Store.previewRoot (.text (page (Store.paths store)))

end Workbench.Index
