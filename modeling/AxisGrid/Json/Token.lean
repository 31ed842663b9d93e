import AxisGrid.Json.Numeral
import AxisGrid.Text.Hex

/-!
JSON text cut into tokens, blanks left out. What is not a token ends the row with a token that says
so. Literals that are well formed but stand for nothing, a string with half a surrogate pair or a
number too large, are tokens without a value.
-/

namespace AxisGrid.Json

inductive Atom
  | null
  | bool (value : Bool)
  | number (value : Option Number)
  | string (text : Option String)

inductive Token
  | beginArray
  | endArray
  | beginObject
  | endObject
  | comma
  | colon
  | atom (value : Atom)
  | malformed

/-- One step of a string: a character, or one half of a surrogate pair. -/
inductive Piece
  | char (c : Char)
  | half (unit : Nat)
  deriving DecidableEq, Repr

namespace Piece

def ofUnit (unit : Nat) : Piece :=
  if 0xd800 ≤ unit ∧ unit < 0xe000 then half unit else char (Char.ofNat unit)

/-- Joins the halves of surrogate pairs; a half without its other half has no text. -/
def join : List Piece → Option (List Char)
  | [] => some []
  | char c :: rest => (join rest).map (c :: ·)
  | half hi :: half lo :: rest =>
    if hi < 0xdc00 ∧ 0xdc00 ≤ lo then
      (join rest).map (Char.ofNat (0x10000 + 0x400 * (hi - 0xd800) + (lo - 0xdc00)) :: ·)
    else none
  | half _ :: _ => none

end Piece

namespace Token

/-- The character that a letter stands for behind a backslash. -/
def escaped? (c : Char) : Option Char :=
  if c = '"' ∨ c = '\\' ∨ c = '/' then some c
  else if c = 'b' then some '\x08'
  else if c = 'f' then some '\x0c'
  else if c = 'n' then some '\n'
  else if c = 'r' then some '\r'
  else if c = 't' then some '\t'
  else none

/-- The pieces of a string up to its closing mark, and what follows. -/
def stringBody? : List Char → Option (List Piece × List Char)
  | [] => none
  | c :: rest =>
    if c = '"' then some ([], rest)
    else if c = '\\' then
      match rest with
      | [] => none
      | e :: rest =>
        if e = 'u' then
          match rest with
          | a :: b :: c :: d :: rest =>
            match Text.Hex.value? [a, b, c, d], stringBody? rest with
            | some unit, some (pieces, after) => some (.ofUnit unit :: pieces, after)
            | _, _ => none
          | _ => none
        else
          match escaped? e, stringBody? rest with
          | some char, some (pieces, after) => some (.char char :: pieces, after)
          | _, _ => none
    else if c.toNat < 0x20 then none
    else
      match stringBody? rest with
      | some (pieces, after) => some (.char c :: pieces, after)
      | none => none

/-- The leading digits, and what follows. -/
def digits (cs : List Char) : List Nat × List Char :=
  ((cs.takeWhile Char.isDigit).map (·.toNat - 0x30), cs.dropWhile Char.isDigit)

/-- The digits behind a point, if there is a point; then there must be one digit at least. -/
def fraction? : List Char → Option (List Nat × List Char)
  | '.' :: rest => if (digits rest).1.isEmpty then none else some (digits rest)
  | cs => some ([], cs)

/-- The number behind a sign, which may be missing; there must be one digit at least. -/
def signed? (cs : List Char) : Option (Int × List Char) :=
  let (sign, body) : Int × List Char :=
    match cs with
    | '+' :: rest => (1, rest)
    | '-' :: rest => (-1, rest)
    | cs => (1, cs)
  if (digits body).1.isEmpty then none
  else some (sign * ((digits body).1.foldl (fun n d => 10 * n + d) 0 : Nat), (digits body).2)

def exponent? : List Char → Option (Option Int × List Char)
  | 'e' :: rest => (signed? rest).map fun s => (some s.1, s.2)
  | 'E' :: rest => (signed? rest).map fun s => (some s.1, s.2)
  | cs => some (none, cs)

/-- A numeral without its sign. Zero stands alone before the point. -/
def numeral? (negative : Bool) (cs : List Char) : Option (Numeral × List Char) := do
  let (whole, rest) := digits cs
  guard (whole ≠ [] ∧ (whole.head? = some 0 → whole.length = 1))
  let (fraction, rest) ← fraction? rest
  let (exponent, rest) ← exponent? rest
  return (⟨negative, whole, fraction, exponent⟩, rest)

def after? (word : List Char) (cs : List Char) : Option (List Char) :=
  if word.isPrefixOf cs then some (cs.drop word.length) else none

/-- A token that begins with the given character, and what follows; `none` if there is none. -/
def token? (c : Char) (rest : List Char) : Option (Token × List Char) :=
  if c = '[' then some (beginArray, rest)
  else if c = ']' then some (endArray, rest)
  else if c = '{' then some (beginObject, rest)
  else if c = '}' then some (endObject, rest)
  else if c = ',' then some (comma, rest)
  else if c = ':' then some (colon, rest)
  else if c = '"' then (stringBody? rest).map fun s =>
    (atom (.string ((Piece.join s.1).map String.ofList)), s.2)
  else if c = 'n' then (after? ['u', 'l', 'l'] rest).map (atom .null, ·)
  else if c = 't' then (after? ['r', 'u', 'e'] rest).map (atom (.bool true), ·)
  else if c = 'f' then (after? ['a', 'l', 's', 'e'] rest).map (atom (.bool false), ·)
  else if c = '-' then (numeral? true rest).map fun n => (atom (.number n.1.value?), n.2)
  else if c.isDigit then (numeral? false (c :: rest)).map fun n => (atom (.number n.1.value?), n.2)
  else none

def isBlank (c : Char) : Bool := c = ' ' || c = '\n' || c = '\t' || c = '\r'

/-- Cuts text into tokens, one at most for each unit of fuel. -/
def scanWith : Nat → List Char → List Token
  | 0, _ => []
  | fuel + 1, cs =>
    match cs.dropWhile isBlank with
    | [] => []
    | c :: rest =>
      match token? c rest with
      | none => [malformed]
      | some (token, after) => token :: scanWith fuel after

/-- Cuts text into tokens. There are no more tokens than characters. -/
def scan (cs : List Char) : List Token := scanWith cs.length cs

end Token

end AxisGrid.Json
