import AxisGrid.Json.Write
import Mathlib.Data.Nat.Digits.Defs

/-! Every token takes at least one character, so cutting a text into tokens never runs out of fuel, and
what stands behind a token is cut by itself (`scan_cons`). A written string is cut back whatever its
characters are, a written integer of 64 bits if nothing behind it goes on with the numeral. -/
namespace AxisGrid.Json

namespace Token

section Progress

variable {cs after : List Char}

theorem length_digits (cs : List Char) : (digits cs).2.length ≤ cs.length :=
  (List.dropWhile_sublist _).length_le

theorem length_stringBody? {pieces : List Piece} (read : stringBody? cs = some (pieces, after)) :
    after.length ≤ cs.length := by
  fun_induction stringBody? cs generalizing pieces after with
  | case2 rest =>
    cases read
    exact Nat.le_succ _
  | case4 a b c d rest unit pieces' after' body _ _ ih =>
    cases read
    have shorter := ih body
    simp only [List.length_cons]
    omega
  | case7 e rest _ char pieces' after' body _ _ ih =>
    cases read
    have shorter := ih body
    simp only [List.length_cons]
    omega
  | case10 c rest _ _ _ pieces' after' body ih =>
    cases read
    exact Nat.le_succ_of_le (ih body)
  | _ => cases read

theorem length_fraction? {fraction : List Nat} (read : fraction? cs = some (fraction, after)) :
    after.length ≤ cs.length := by
  unfold fraction? at read
  split at read
  · rename_i rest
    have left := length_digits rest
    split at read
    · cases read
    · cases read
      exact Nat.le_succ_of_le left
  · cases read
    exact Nat.le_refl _

theorem length_signed? {n : Int} (read : signed? cs = some (n, after)) : after.length ≤ cs.length := by
  simp only [signed?, Option.ite_none_left_eq_some] at read
  obtain ⟨-, same⟩ := read
  cases same
  refine (length_digits _).trans ?_
  split <;> simp

theorem length_exponent? {exponent : Option Int} (read : exponent? cs = some (exponent, after)) :
    after.length ≤ cs.length := by
  unfold exponent? at read
  split at read
  · obtain ⟨⟨n, rest⟩, sign, same⟩ := Option.map_eq_some_iff.mp read
    cases same
    exact Nat.le_succ_of_le (length_signed? sign)
  · obtain ⟨⟨n, rest⟩, sign, same⟩ := Option.map_eq_some_iff.mp read
    cases same
    exact Nat.le_succ_of_le (length_signed? sign)
  · cases read
    exact Nat.le_refl _

theorem length_numeral? {negative : Bool} {n : Numeral} (read : numeral? negative cs = some (n, after)) :
    after.length ≤ (digits cs).2.length := by
  simp only [numeral?, Option.bind_eq_bind, Option.bind_eq_some_iff] at read
  obtain ⟨-, -, ⟨fraction, rest⟩, point, ⟨exponent, rest'⟩, power, same⟩ := read
  cases same
  exact (length_exponent? power).trans (length_fraction? point)

theorem length_after? {word : List Char} (read : after? word cs = some after) : after.length ≤ cs.length := by
  unfold after? at read
  split at read
  · cases read
    simp
  · cases read

theorem length_token? {c : Char} {t : Token} (read : token? c cs = some (t, after)) :
    after.length ≤ cs.length := by
  unfold token? at read
  -- the brackets, the comma and the colon
  iterate 6
    rcases ite_eq_iff.mp read with ⟨-, same⟩ | ⟨-, read⟩
    · cases same
      exact Nat.le_refl _
  rcases ite_eq_iff.mp read with ⟨-, same⟩ | ⟨-, read⟩
  · obtain ⟨⟨pieces, rest⟩, body, same⟩ := Option.map_eq_some_iff.mp same
    cases same
    exact length_stringBody? body
  -- the three words
  iterate 3
    rcases ite_eq_iff.mp read with ⟨-, same⟩ | ⟨-, read⟩
    · obtain ⟨rest, word, same⟩ := Option.map_eq_some_iff.mp same
      cases same
      exact length_after? word
  rcases ite_eq_iff.mp read with ⟨-, same⟩ | ⟨-, read⟩
  · obtain ⟨⟨n, rest⟩, numeral, same⟩ := Option.map_eq_some_iff.mp same
    cases same
    exact (length_numeral? numeral).trans (length_digits cs)
  rcases ite_eq_iff.mp read with ⟨digit, same⟩ | ⟨-, read⟩
  · obtain ⟨⟨n, rest⟩, numeral, same⟩ := Option.map_eq_some_iff.mp same
    cases same
    have first : (digits (c :: cs)).2 = (digits cs).2 := List.dropWhile_cons_of_pos digit
    exact (length_numeral? numeral).trans (first ▸ length_digits cs)
  · cases read

end Progress

section Scan

/-- More fuel than characters changes nothing. -/
theorem scanWith_congr {cs : List Char} {m n : Nat} (hm : cs.length ≤ m) (hn : cs.length ≤ n) :
    scanWith m cs = scanWith n cs := by
  -- either fuel outlasts the characters, and a token takes one of each at least
  induction m generalizing cs n with
  | zero =>
    cases List.eq_nil_of_length_eq_zero (Nat.le_zero.mp hm)
    cases n <;> simp [scanWith]
  | succ m ih =>
    cases n with
    | zero =>
      cases List.eq_nil_of_length_eq_zero (Nat.le_zero.mp hn)
      simp [scanWith]
    | succ n =>
      have shorter : (cs.dropWhile isBlank).length ≤ cs.length := (List.dropWhile_sublist _).length_le
      simp only [scanWith]
      cases blank : cs.dropWhile isBlank with
      | nil => rfl
      | cons c rest =>
        rw [blank, List.length_cons] at shorter
        cases read : token? c rest with
        | none => simp only [read]
        | some found =>
          have progress := length_token? read
          have tail : scanWith m found.2 = scanWith n found.2 := ih (by omega) (by omega)
          simp only [read, tail]

theorem scan_cons {c : Char} {cs after : List Char} {t : Token} (visible : isBlank c = false)
    (read : token? c cs = some (t, after)) : scan (c :: cs) = t :: scan after := by
  have progress := length_token? read
  rw [scan, List.length_cons, scanWith, List.dropWhile_cons_of_neg (by simp [visible])]
  simp only [read]
  rw [scan, scanWith_congr progress (Nat.le_refl _)]

end Scan

end Token

namespace Piece

theorem join_map_char (cs : List Char) : join (cs.map char) = some cs := by
  induction cs with
  | nil => rfl
  | cons c cs ih => simp [join, ih]

end Piece

namespace Token

section Strings

theorem stringBody?_quote (cs : List Char) : stringBody? ('"' :: cs) = some ([], cs) := by
  rw [stringBody?.eq_def]
  simp

theorem stringBody?_letter {e c : Char} (letter : e ≠ 'u') (stands : escaped? e = some c)
    (cs : List Char) :
    stringBody? ('\\' :: e :: cs) = (stringBody? cs).map fun s => (.char c :: s.1, s.2) := by
  rw [stringBody?.eq_def]
  simp only [stands]
  cases stringBody? cs <;> simp [letter]

theorem stringBody?_number {a b c d : Char} {unit : Nat} (hex : Text.Hex.value? [a, b, c, d] = some unit)
    (cs : List Char) :
    stringBody? ('\\' :: 'u' :: a :: b :: c :: d :: cs)
      = (stringBody? cs).map fun s => (.ofUnit unit :: s.1, s.2) := by
  rw [stringBody?.eq_def]
  simp only [hex]
  cases stringBody? cs <;> simp

theorem stringBody?_plain {c : Char} (quote : c ≠ '"') (backslash : c ≠ '\\') (plain : ¬ c.toNat < 0x20)
    (cs : List Char) :
    stringBody? (c :: cs) = (stringBody? cs).map fun s => (.char c :: s.1, s.2) := by
  rw [stringBody?.eq_def]
  simp only [quote, backslash, plain, if_false]
  cases stringBody? cs <;> rfl

theorem stringBody?_fixed {c : Char} (control : c.toNat < 0x20) (cs : List Char) :
    stringBody? ('\\' :: 'u' :: Text.Hex.fixed 4 c.toNat ++ cs)
      = (stringBody? cs).map fun s => (.char c :: s.1, s.2) := by
  have unit : Piece.ofUnit c.toNat = .char c := by
    rw [Piece.ofUnit, if_neg (by omega), Char.ofNat_toNat]
  have value := Text.Hex.value?_fixed 4 c.toNat
  rw [Nat.mod_eq_of_lt (by simp; omega)] at value
  match digits : Text.Hex.fixed 4 c.toNat, Text.Hex.length_fixed 4 c.toNat with
  | [x, y, z, w], _ =>
    rw [digits] at value
    have read := stringBody?_number value cs
    rw [unit] at read
    exact read

theorem stringBody?_escape (c : Char) (cs : List Char) :
    stringBody? (escape c ++ cs) = (stringBody? cs).map fun s => (.char c :: s.1, s.2) := by
  unfold escape
  split_ifs with quote backslash
  -- the characters with a letter of their own behind the backslash
  iterate 7
    · subst c
      exact stringBody?_letter (by decide) (by decide) cs
  · exact stringBody?_fixed ‹_› cs
  · exact stringBody?_plain quote backslash ‹_› cs

theorem stringBody?_flatMap_escape (text cs : List Char) :
    stringBody? (text.flatMap escape ++ '"' :: cs) = some (text.map .char, cs) := by
  induction text with
  | nil => exact stringBody?_quote cs
  | cons c text ih =>
    rw [List.flatMap_cons, List.append_assoc, stringBody?_escape, ih]
    rfl

theorem scan_writeString (text : String) (cs : List Char) :
    scan (writeString text ++ cs) = atom (.string (some text)) :: scan cs := by
  have read : token? '"' (text.toList.flatMap escape ++ '"' :: cs) = some (atom (.string (some text)), cs) := by
    simp [token?, stringBody?_flatMap_escape, Piece.join_map_char]
  have cut := scan_cons (by decide) read
  simpa [writeString] using cut

end Strings

section Numerals

/-- Nothing here goes on with a numeral. -/
def Ends (cs : List Char) : Prop :=
  ∀ c ∈ cs.head?, c.isDigit = false ∧ c ≠ '.' ∧ c ≠ 'e' ∧ c ≠ 'E'

theorem Ends.cons {c : Char} (plain : c.isDigit = false ∧ c ≠ '.' ∧ c ≠ 'e' ∧ c ≠ 'E') (cs : List Char) :
    Ends (c :: cs) := by
  intro d first
  cases first
  exact plain

def decimal (n : Nat) : List Nat := (Nat.toDigits 10 n).map (·.toNat - 0x30)

theorem foldl_decimal (n : Nat) : (decimal n).foldl (fun m d => 10 * m + d) 0 = n := by
  have value := Nat.ofDigitChars_ten_toDigits (n := n)
  rw [Nat.ofDigitChars_eq_foldl] at value
  rw [decimal, List.foldl_map]
  exact value

theorem head?_decimal_ne_zero {n : Nat} (positive : 0 < n) : (decimal n).head? ≠ some 0 := by
  induction n using Nat.strong_induction_on with
  | _ n ih =>
    rcases Nat.lt_or_ge n 10 with small | large
    · rw [decimal, Nat.toDigits_of_lt_base small, List.map_singleton,
        Nat.toNat_digitChar_sub_48_of_lt_ten small]
      simpa using positive.ne'
    · have front := ih (n / 10) (by omega) (by omega)
      obtain ⟨d, ds, digits⟩ := List.exists_cons_of_ne_nil
        (show decimal (n / 10) ≠ [] by simp [decimal])
      rw [digits] at front
      rw [decimal, Nat.toDigits_of_base_le (by decide) large, List.map_append, ← decimal, digits]
      exact front

variable {cs : List Char}

theorem digits_append {ds : List Char} (all : ∀ c ∈ ds, c.isDigit = true) (ends : Ends cs) :
    digits (ds ++ cs) = (ds.map (·.toNat - 0x30), cs) := by
  have stop : cs.takeWhile Char.isDigit = [] ∧ cs.dropWhile Char.isDigit = cs := by
    cases cs with
    | nil => simp
    | cons c cs => simp [(ends c rfl).1]
  rw [digits, List.takeWhile_append_of_pos all, List.dropWhile_append_of_pos all, stop.1, stop.2,
    List.append_nil]

theorem fraction?_of_ends (ends : Ends cs) : fraction? cs = some ([], cs) := by
  unfold fraction?
  split
  · exact absurd rfl (ends _ rfl).2.1
  · rfl

theorem exponent?_of_ends (ends : Ends cs) : exponent? cs = some (none, cs) := by
  unfold exponent?
  split
  · exact absurd rfl (ends _ rfl).2.2.1
  · exact absurd rfl (ends _ rfl).2.2.2
  · rfl

theorem numeral?_toDigits (negative : Bool) (n : Nat) (ends : Ends cs) :
    numeral? negative (Nat.toDigits 10 n ++ cs) = some (⟨negative, decimal n, [], none⟩, cs) := by
  have all : ∀ c ∈ Nat.toDigits 10 n, c.isDigit = true := fun c =>
    Nat.isDigit_of_mem_toDigits (by decide) (by decide)
  have whole : decimal n ≠ [] ∧ ((decimal n).head? = some 0 → (decimal n).length = 1) := by
    refine ⟨by simp [decimal], fun zero => ?_⟩
    rcases Nat.eq_zero_or_pos n with rfl | positive
    · rfl
    · exact absurd zero (head?_decimal_ne_zero positive)
  rw [numeral?, digits_append all ends, ← decimal]
  simp only [guard, if_pos whole, fraction?_of_ends ends, pure, Option.bind_eq_bind, Option.bind_some,
    exponent?_of_ends ends]

end Numerals

end Token

namespace Numeral

theorem le_foldl (ds : List Nat) (n : Nat) : n ≤ ds.foldl (fun m d => 10 * m + d) n := by
  induction ds generalizing n with
  | nil => exact Nat.le_refl n
  | cons d ds ih =>
    have grown := ih (10 * n + d)
    rw [List.foldl_cons]
    omega

theorem takeDigits_of_lt {ds : List Nat} {n : Nat}
    (fits : ds.foldl (fun m d => 10 * m + d) n < Word.bound) :
    takeDigits n ds = (ds.foldl (fun m d => 10 * m + d) n, []) := by
  induction ds generalizing n with
  | nil => rfl
  | cons d ds ih =>
    rw [List.foldl_cons] at fits ⊢
    -- no front of the digits stands for more than all of them
    have front : 10 * n + d < Word.bound := Nat.lt_of_le_of_lt (le_foldl ds _) fits
    rw [takeDigits, Word.narrow?_eq_some_iff.mpr ⟨front, rfl⟩]
    exact ih fits

theorem takeDigits_decimal {n : Nat} (fits : n < Word.bound) :
    takeDigits 0 (Token.decimal n) = (n, []) := by
  have whole := Token.foldl_decimal n
  rw [takeDigits_of_lt (by rw [whole]; exact fits), whole]

theorem value?_natural {n : Nat} (fits : n < Word.bound) :
    value? ⟨false, Token.decimal n, [], none⟩ = some (.natural n) := by
  simp [value?, takeDigits_decimal fits]

theorem value?_negative {n : Nat} (positive : 0 < n) (fits : 2 * n ≤ Word.bound) :
    value? ⟨true, Token.decimal n, [], none⟩ = some (.negative n) := by
  have small : n < Word.bound := by omega
  simp [value?, takeDigits_decimal small, positive, fits]

end Numeral

/-- A value without parts that is read back as it is: a string with a text, or a number that is an
integer of 64 bits. -/
def Atom.Exact : Atom → Prop
  | null | bool _ => True
  | number (some (.natural n)) => n < Word.bound
  | number (some (.negative n)) => 0 < n ∧ 2 * n ≤ Word.bound
  | number _ => False
  | string text => text.isSome

namespace Token

section Digit

variable {c : Char} (digit : c.isDigit = true)
include digit

theorem ne_of_isDigit (d : Char) (other : d.isDigit = false) : c ≠ d := by
  rintro rfl
  rw [digit] at other
  cases other

theorem isBlank_digit : isBlank c = false := by
  simp [isBlank, ne_of_isDigit digit ' ' rfl, ne_of_isDigit digit '\n' rfl,
    ne_of_isDigit digit '\t' rfl, ne_of_isDigit digit '\r' rfl]

theorem token?_digit (cs : List Char) :
    token? c cs = (numeral? false (c :: cs)).map fun n => (atom (.number n.1.value?), n.2) := by
  have apart := ne_of_isDigit digit
  simp only [token?, apart '[' rfl, apart ']' rfl, apart '{' rfl, apart '}' rfl, apart ',' rfl,
    apart ':' rfl, apart '"' rfl, apart 'n' rfl, apart 't' rfl, apart 'f' rfl, apart '-' rfl, digit,
    if_true, if_false]

end Digit

theorem scan_natural {n : Nat} {cs : List Char} (fits : n < Word.bound) (ends : Ends cs) :
    scan (Nat.toDigits 10 n ++ cs) = atom (.number (some (.natural n))) :: scan cs := by
  have cut := numeral?_toDigits false n ends
  obtain ⟨d, ds, digits⟩ := List.exists_cons_of_ne_nil (Nat.toDigits_ne_nil (b := 10) (n := n))
  have digit : d.isDigit = true :=
    Nat.isDigit_of_mem_toDigits (by decide) (by decide) (digits ▸ List.mem_cons_self)
  rw [digits, List.cons_append] at cut ⊢
  refine scan_cons (isBlank_digit digit) ?_
  rw [token?_digit digit, cut, Option.map_some, Numeral.value?_natural fits]

theorem scan_negative {n : Nat} {cs : List Char} (positive : 0 < n) (fits : 2 * n ≤ Word.bound)
    (ends : Ends cs) :
    scan ('-' :: Nat.toDigits 10 n ++ cs) = atom (.number (some (.negative n))) :: scan cs := by
  have read : token? '-' (Nat.toDigits 10 n ++ cs) = some (atom (.number (some (.negative n))), cs) := by
    simp [token?, numeral?_toDigits _ _ ends, Numeral.value?_negative positive fits]
  exact scan_cons (by decide) read

theorem scan_writeAtom {value : Atom} {cs : List Char} (exact : value.Exact) (ends : Ends cs) :
    scan (value.write ++ cs) = atom value :: scan cs := by
  cases value with
  | null => exact scan_cons (t := atom .null) (by decide) (by simp [token?, after?])
  | bool value =>
    cases value
    · exact scan_cons (t := atom (.bool false)) (by decide) (by simp [token?, after?])
    · exact scan_cons (t := atom (.bool true)) (by decide) (by simp [token?, after?])
  | number value =>
    match value, exact with
    | some (.natural n), fits =>
      have cut := scan_natural fits ends
      simpa [Atom.write, Number.text, Nat.toString_eq_ofList_toDigits] using cut
    | some (.negative n), ⟨positive, fits⟩ =>
      have cut := scan_negative positive fits ends
      simpa [Atom.write, Number.text, Nat.toString_eq_ofList_toDigits] using cut
  | string text =>
    match text, exact with
    | some text, _ => exact scan_writeString text cs

end Token

end AxisGrid.Json
