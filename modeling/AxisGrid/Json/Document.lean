import AxisGrid.Json.Token

/-!
What a JSON text says, as far as it can be read. A text that breaks off or goes wrong still has a
document: the brackets that are open there end without being closed. So whoever walks a document
from left to right meets everything that stands before the fault first, and then the fault.
-/

namespace AxisGrid.Json

inductive Kind
  | null
  | boolean (value : Bool)
  | number (value : Number)
  | string (text : String)
  | sequence
  | map

/-- A JSON value, or the readable front of one. -/
inductive Document
  | atom (value : Atom)
  | array (items : List Document) (closed : Bool)
  /-- A key with half a surrogate pair has no text. -/
  | object (members : List (Option String × Document)) (closed : Bool)
  /-- No value begins where one should. -/
  | missing

/-- The kind of a value without parts, unless it has no value. -/
def Atom.kind? : Atom → Option Kind
  | null => some .null
  | bool value => some (.boolean value)
  | number value => value.map .number
  | string text => text.map .string

namespace Document

def kind? : Document → Option Kind
  | atom value => value.kind?
  | array .. => some .sequence
  | object .. => some .map
  | missing => none

def text (text : String) : Document := atom (.string (some text))

def natural (n : Nat) : Document := atom (.number (some (.natural n)))

def list (items : List Document) : Document := array items true

def record (members : List (String × Document)) : Document :=
  object (members.map fun m => (some m.1, m.2)) true

end Document

/-- An open bracket with what was read behind it, latest first. -/
inductive Frame
  | array (items : List Document)
  | object (members : List (Option String × Document))
  /-- An object behind one more key. -/
  | member (members : List (Option String × Document)) (key : Option String)

namespace Frame

def plug (d : Document) : Frame → Frame
  | array items => array (d :: items)
  | object members => object members
  | member members key => object ((key, d) :: members)

/-- What is there when the text goes wrong inside the bracket. -/
def abandon : Frame → Document
  | array items => .array items.reverse false
  | object members => .object members.reverse false
  | member members key => .object ((key, .missing) :: members).reverse false

def close : Frame → Document
  | array items => .array items.reverse true
  | object members => .object members.reverse true
  | member members key => .object ((key, .missing) :: members).reverse false

end Frame

inductive Awaited
  | value
  | itemOrEnd
  | key
  | keyOrEnd
  | colon
  | commaOrEnd
  deriving DecidableEq, Repr

/-- The state of reading: what may come next, and the open brackets, innermost first. -/
structure Reader where
  awaited : Awaited
  frames : List Frame

namespace Reader

inductive Step
  | more (r : Reader)
  | done (d : Document)
  | fault (d : Document)

def complete (d : Document) : List Frame → Step
  | [] => .done d
  | f :: rest => .more ⟨.commaOrEnd, f.plug d :: rest⟩

/-- Leaves all open brackets, the innermost holding a document that is not whole. -/
def unwind (d : Document) (frames : List Frame) : Document :=
  frames.foldl (fun d f => (f.plug d).abandon) d

/-- The document of a text that goes wrong here. -/
def breakOff (r : Reader) : Document :=
  match r.awaited, r.frames with
  | .value, frames | .itemOrEnd, frames => unwind .missing frames
  | _, [] => .missing
  | _, f :: rest => unwind f.abandon rest

def beginValue (r : Reader) : Token → Step
  | .beginArray => .more ⟨.itemOrEnd, .array [] :: r.frames⟩
  | .beginObject => .more ⟨.keyOrEnd, .object [] :: r.frames⟩
  | .atom value => complete (.atom value) r.frames
  | _ => .fault r.breakOff

/-- Takes a key; no value but a string is one. -/
def beginMember (r : Reader) (t : Token) : Step :=
  match t, r.frames with
  | .atom (.string key), .object members :: rest => .more ⟨.colon, .member members key :: rest⟩
  | _, _ => .fault r.breakOff

def step (r : Reader) (t : Token) : Step :=
  match r.awaited, t, r.frames with
  | .itemOrEnd, .endArray, f :: rest => complete f.close rest
  | .keyOrEnd, .endObject, f :: rest => complete f.close rest
  | .commaOrEnd, .endArray, .array items :: rest => complete (Frame.array items).close rest
  | .commaOrEnd, .endObject, .object members :: rest => complete (Frame.object members).close rest
  | .commaOrEnd, .comma, .array items :: rest => .more ⟨.value, .array items :: rest⟩
  | .commaOrEnd, .comma, .object members :: rest => .more ⟨.key, .object members :: rest⟩
  | .colon, .colon, frames => .more ⟨.value, frames⟩
  | .value, t, _ | .itemOrEnd, t, _ => r.beginValue t
  | .key, t, _ | .keyOrEnd, t, _ => r.beginMember t
  | _, _, _ => .fault r.breakOff

/-- Reads one value off the front of a row of tokens. The second component is what follows it, or
the row itself from the token that is wrong. -/
def run (r : Reader) : List Token → Document × List Token
  | [] => (r.breakOff, [])
  | t :: rest =>
    match r.step t with
    | .more r => run r rest
    | .done d => (d, rest)
    | .fault d => (d, t :: rest)

end Reader

/-- The document of a text, and whether nothing follows it. -/
structure Reading where
  document : Document
  ended : Bool

def Reading.ofText (text : String) : Reading :=
  let (document, rest) := Reader.run ⟨.value, []⟩ (Token.scan text.toList)
  ⟨document, rest.isEmpty⟩

end AxisGrid.Json
