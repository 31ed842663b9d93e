import AxisGrid.Fingerprint

/-! What a fingerprint keeps of a text can be read off it. Its digits are of one width and none is dropped,
so they give back the folded hash, and their pairs the bytes at the head of the digest. -/
namespace AxisGrid.Fingerprint

open Text

theorem isLowerDigit_of_mem_ofText {f : Fingerprint} {text : String} {c : Char}
    (member : c ∈ (f.ofText text).toList) : Hex.IsLowerDigit c := by
  cases f with
  | sha256 =>
    apply Hex.isLowerDigit_ofBytes
    rwa [ofText, shortSha256, String.toList_ofList] at member
  | fnv1a =>
    apply Hex.isLowerDigit_fixed
    rwa [ofText, shortFnv1a, String.toList_ofList] at member

theorem bytes?_shortSha256 (text : String) :
    Hex.bytes? (shortSha256 text).toList = some ((Sha256.digest (utf8 text)).take 4) := by
  rw [shortSha256, String.toList_ofList, Hex.bytes?_ofBytes]

theorem value?_shortFnv1a (text : String) :
    Hex.value? (shortFnv1a text).toList = some (Fnv1a.fold32 (Fnv1a.hash (utf8 text))).toNat := by
  have fits : (Fnv1a.fold32 (Fnv1a.hash (utf8 text))).toNat < Nat.pow 16 8 := UInt32.toNat_lt _
  rw [shortFnv1a, String.toList_ofList, Hex.value?_fixed, Nat.mod_eq_of_lt fits]

/-- A fingerprint has eight digits. Read as a number they are the xor of the halves of the hash, read in
pairs they are the first bytes of the digest, both of the bytes in which the text is stored. -/
theorem ofText_read_back (text : String) :
    (∀ f : Fingerprint, (f.ofText text).toList.length = 8 ∧
      ∀ c ∈ (f.ofText text).toList, Hex.IsLowerDigit c) ∧
    Hex.value? (fnv1a.ofText text).toList
      = some ((Fnv1a.hash text.toUTF8.data.toList).toNat / UInt32.size
          ^^^ (Fnv1a.hash text.toUTF8.data.toList).toNat % UInt32.size) ∧
    Hex.bytes? (sha256.ofText text).toList = some ((Sha256.digest text.toUTF8.data.toList).take 4) := by
  rw [← utf8_eq_toUTF8]
  refine ⟨fun f => ⟨length_ofText f text, fun c => isLowerDigit_of_mem_ofText⟩, ?_, bytes?_shortSha256 text⟩
  rw [← Fnv1a.toNat_fold32]
  exact value?_shortFnv1a text

theorem ofText_read_back_leading_zeros :
    fnv1a.ofText "jdk=1781" = "00486636" ∧ sha256.ofText "jdk=1781" = "0516a365" ∧
    '0' ∈ (fnv1a.ofText "jdk=1781").toList ∧ Hex.IsLowerDigit '0' ∧
    Hex.bytes? "0516a365".toList = some ((Sha256.digest "jdk=1781".toUTF8.data.toList).take 4) := by
  obtain ⟨digits, -, bytes⟩ := ofText_read_back "jdk=1781"
  have folded : fnv1a.ofText "jdk=1781" = "00486636" := by decide +kernel
  have digested : sha256.ofText "jdk=1781" = "0516a365" := by decide +kernel
  have zero : '0' ∈ (fnv1a.ofText "jdk=1781").toList := by
    rw [folded]
    decide
  rw [digested] at bytes
  exact ⟨folded, digested, zero, (digits fnv1a).2 '0' zero, bytes⟩

end AxisGrid.Fingerprint
