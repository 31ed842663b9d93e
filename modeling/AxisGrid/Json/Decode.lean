import AxisGrid.DeclarationError
import AxisGrid.Json.Document
import AxisGrid.PointError

/-!
Taking values out of documents. A text is malformed where its document breaks; where the document
holds something other than what is wanted, the cause is told. Whatever comes first in the text is
what is reported.
-/

namespace AxisGrid.Json

/-- Why well-formed text is not what is wanted. -/
inductive DataError
  | invalidType (found : Kind) (expected : String)
  | invalidValue (found : Kind) (expected : String)
  | invalidLength (found : Nat) (expected : String)
  | missingField (name : String)
  | duplicateField (name : String)
  | unknownVariant (name expected : String)
  | declaration (cause : DeclarationError)
  | point (cause : PointError)

inductive DecodeError
  | malformed
  | data (cause : DataError)

namespace Kind

def describe : Kind → String
  | null => "null"
  | boolean value => "boolean \x60" ++ toString value ++ "\x60"
  | number (.natural n) => "integer \x60" ++ (Number.natural n).text ++ "\x60"
  | number (.negative n) => "integer \x60" ++ (Number.negative n).text ++ "\x60"
  | number (.real x) => "floating point \x60" ++ (Number.real x).text ++ "\x60"
  | string text => "string " ++ Text.Quoted.ofString text
  | sequence => "sequence"
  | map => "map"

end Kind

namespace DataError

/-- The number at the end of a row of characters and what stands before it, if the row ends with
digits that fit 64 bits. -/
def numberAtEnd? (cs : List Char) : Option (List Char) :=
  let digits := (cs.reverse.takeWhile Char.isDigit).reverse
  let value := digits.foldl (fun n c => 10 * n + (c.toNat - 0x30)) 0
  if digits.isEmpty ∨ Word.bound ≤ value then none
  else some (cs.take (cs.length - digits.length))

def before? (word cs : List Char) : Option (List Char) :=
  if word.isSuffixOf cs then some (cs.take (cs.length - word.length)) else none

/-- A place in a text at the end of a message is not part of the message. -/
def dropPlace (message : String) : String :=
  let front := do
    let cs ← numberAtEnd? message.toList
    let cs ← before? " column ".toList cs
    let cs ← numberAtEnd? cs
    before? " at line ".toList cs
  (front.map String.ofList).getD message

def message (e : DataError) : String :=
  dropPlace <| match e with
    | invalidType found expected =>
      "invalid type: " ++ found.describe ++ ", expected " ++ expected
    | invalidValue found expected =>
      "invalid value: " ++ found.describe ++ ", expected " ++ expected
    | invalidLength found expected =>
      "invalid length " ++ toString found ++ ", expected " ++ expected
    | missingField name => "missing field \x60" ++ name ++ "\x60"
    | duplicateField name => "duplicate field \x60" ++ name ++ "\x60"
    | unknownVariant name expected =>
      "unknown variant \x60" ++ name ++ "\x60, expected " ++ expected
    | declaration cause => cause.message
    | point cause => cause.message

end DataError

/-- The error for a document of another kind than wanted. -/
def mismatch (found : Option Kind) (expected : String) : DecodeError :=
  match found with
  | none => .malformed
  | some kind => .data (.invalidType kind expected)

namespace Document

def string (expected : String) (d : Document) : Except DecodeError String :=
  match d.kind? with
  | some (.string text) => .ok text
  | found => .error (mismatch found expected)

def character (d : Document) : Except DecodeError Char := do
  let text ← d.string "a character"
  match text.toList with
  | [c] => .ok c
  | _ => .error (.data (.invalidValue (.string text) "a character"))

def natural32 (d : Document) : Except DecodeError UInt32 :=
  match d.kind? with
  | some (.number (.natural n)) =>
    if n < UInt32.size then .ok (UInt32.ofNat n)
    else .error (.data (.invalidValue (.number (.natural n)) "u32"))
  | some (.number (.negative n)) =>
    .error (.data (.invalidValue (.number (.negative n)) "u32"))
  | found => .error (mismatch found "u32")

def unit (d : Document) : Except DecodeError Unit :=
  match d.kind? with
  | some .null => .ok ()
  | found => .error (mismatch found "unit")

def items {α : Type} (item : Document → Except DecodeError α) (d : Document) :
    Except DecodeError (List α) :=
  match d with
  | array items closed => do
    let values ← items.mapM item
    if closed then .ok values else .error .malformed
  | d => .error (mismatch d.kind? "a sequence")

/-- Takes the members of an object one after the other into a state. -/
def members {m : Type → Type} [Monad m] [MonadExcept DecodeError m] {σ : Type}
    (member : σ → String → Document → m σ) (start : σ)
    (entries : List (Option String × Document)) (closed : Bool) : m σ := do
  let final ← entries.foldlM (fun state e =>
    match e.1 with
    | some key => member state key e.2
    | none => throw .malformed) start
  if closed then pure final else throw .malformed

/-- Takes a field that was not there before. -/
def field {α : Type} (name : String) (earlier : Option α) (value : Except DecodeError α) :
    Except DecodeError (Option α) :=
  if earlier.isSome then .error (.data (.duplicateField name)) else value.map some

end Document

/-- Takes a value out of a text that must end behind it. -/
def decode {m : Type → Type} [Monad m] [MonadExcept DecodeError m] {α : Type}
    (value : Document → m α) (text : String) : m α := do
  let reading := Reading.ofText text
  let result ← value reading.document
  if reading.ended then pure result else throw .malformed

end AxisGrid.Json
