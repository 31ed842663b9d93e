import AxisGrid.Json.Document

/-!
Writing documents without blanks. Marks, backslashes and control characters of a string are
escaped, and nothing else is.
-/

namespace AxisGrid.Json

def escape (c : Char) : List Char :=
  if c = '"' then ['\\', '"']
  else if c = '\\' then ['\\', '\\']
  else if c = '\x08' then ['\\', 'b']
  else if c = '\x0c' then ['\\', 'f']
  else if c = '\n' then ['\\', 'n']
  else if c = '\r' then ['\\', 'r']
  else if c = '\t' then ['\\', 't']
  else if c.toNat < 0x20 then ['\\', 'u'] ++ Text.Hex.fixed 4 c.toNat
  else [c]

def writeString (text : String) : List Char :=
  '"' :: text.toList.flatMap escape ++ ['"']

namespace Atom

/-- Writes a value without parts; one that stands for nothing leaves no text. -/
def write : Atom → List Char
  | null => ['n', 'u', 'l', 'l']
  | bool true => ['t', 'r', 'u', 'e']
  | bool false => ['f', 'a', 'l', 's', 'e']
  | number value => (value.map fun n => n.text.toList).getD []
  | string text => (text.map writeString).getD []

end Atom

namespace Document

mutual

/-- Writes a document. A bracket that was not closed stays open. -/
def write : Document → List Char
  | atom value => value.write
  | array items closed => '[' :: writeItems items ++ if closed then [']'] else []
  | object members closed =>
    '{' :: writeMembers members ++ if closed then ['}'] else []
  | missing => []

def writeItems : List Document → List Char
  | [] => []
  | [d] => write d
  | d :: rest => write d ++ ',' :: writeItems rest

def writeMembers : List (Option String × Document) → List Char
  | [] => []
  | [(key, d)] => (Atom.string key).write ++ ':' :: write d
  | (key, d) :: rest => (Atom.string key).write ++ ':' :: write d ++ ',' :: writeMembers rest

end

def toText (d : Document) : String := String.ofList d.write

end Document

end AxisGrid.Json
