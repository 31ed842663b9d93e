/-!
The bytes of a text, as a list. They are the bytes in which the text is stored (`utf8_eq_toUTF8`).
-/

namespace AxisGrid.Text

/-- The UTF-8 bytes of the characters, one character after the other. -/
def utf8 (text : String) : List UInt8 :=
  text.toList.flatMap String.utf8EncodeChar

theorem utf8_eq_toUTF8 (text : String) : utf8 text = text.toUTF8.data.toList := by
  have encoded : text.toUTF8 = text.toList.utf8Encode := String.utf8Encode_toList.symm
  rw [encoded, List.utf8Encode, List.toList_data_toByteArray, utf8]

end AxisGrid.Text
