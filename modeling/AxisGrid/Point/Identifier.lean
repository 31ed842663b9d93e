import AxisGrid.Point
import AxisGrid.Report
import AxisGrid.Text.Cut

/-!
The text of a point: its entries ascending by name, each a name and a value around the pair
separator, with the entry separator between them, or the reserved name when there is no entry.
Nothing is escaped, so a point whose names or values hold separators is written but not read back.
-/

namespace AxisGrid.Point

def writeEntries (entrySep pairSep : Char) (entries : List (String × String)) : String :=
  String.ofList <| [entrySep].intercalate <|
    entries.map fun e => e.1.toList ++ pairSep :: e.2.toList

def renderWith (p : Point) (entrySep pairSep : Char) : String :=
  if p.isEmpty then Format.reservedName else writeEntries entrySep pairSep p.entries

def render (p : Point) (f : Format) : String := p.renderWith f.entrySep f.pairSep

def identifier (p : Point) : String := p.render .canonical

def fingerprint (p : Point) (kind : Fingerprint) : String := kind.ofText p.identifier

/-- The pieces of a text between entry separators, without the empty ones. -/
def tokens (entrySep : Char) (text : String) : List (List Char) :=
  (text.toList.splitOn entrySep).filter fun token => !token.isEmpty

/-- The name and the value of each token, or the first token without a pair separator. -/
def pairs (pairSep : Char) (tokens : List (List Char)) :
    Except (List Char) (List (String × String)) :=
  tokens.mapM fun token =>
    match Text.cutAt? pairSep token with
    | some halves => .ok (String.ofList halves.1, String.ofList halves.2)
    | none => .error token

/-- Reads a text in a format, with its events: none for the reserved name or a refused format. -/
def parseReport (f : Format) (text : String) : Report PointError Point :=
  match f.check with
  | .error e => .quiet (.error (.invalidFormat e))
  | .ok () =>
    if text = Format.reservedName then .quiet (.ok empty)
    else
      match pairs f.pairSep (tokens f.entrySep text) with
      | .error token => ⟨.error (.unreadable text), [.unpaired text (String.ofList token)]⟩
      | .ok pairs => ⟨.ok (ofPairs pairs), [.parsed text (ofPairs pairs).size]⟩

def parseWith (f : Format) (text : String) : Except PointError Point := (parseReport f text).outcome

def parse (text : String) : Except PointError Point := parseWith .canonical text

end AxisGrid.Point
