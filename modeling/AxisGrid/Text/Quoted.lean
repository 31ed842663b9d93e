import AxisGrid.Text.Hex
import AxisGrid.Text.Unprintable

/-!
Quoted text for messages. The mark that closes the quotation and the backslash are written behind a
backslash, four controls have a letter, and what does not show is written by its number.
-/

namespace AxisGrid.Text.Quoted

/-- One character inside a quotation that ends with `mark`. -/
def escape (mark c : Char) : List Char :=
  if c = mark ∨ c = '\\' then ['\\', c]
  else if c = '\x00' then ['\\', '0']
  else if c = '\t' then ['\\', 't']
  else if c = '\r' then ['\\', 'r']
  else if c = '\n' then ['\\', 'n']
  else if isUnprintable c then ['\\', 'u', '{'] ++ Hex.digits c.toNat ++ ['}']
  else [c]

def ofString (text : String) : String :=
  String.ofList ('"' :: text.toList.flatMap (escape '"') ++ ['"'])

def ofChar (c : Char) : String :=
  String.ofList ('\x27' :: escape '\x27' c ++ ['\x27'])

end AxisGrid.Text.Quoted
