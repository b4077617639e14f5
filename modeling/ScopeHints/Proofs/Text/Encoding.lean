import ScopeHints.Proofs.Text.Boundary

/-! The conversion of byte offsets inverts the UTF-8 form of a text: each byte is converted to the
number of the character that it encodes. An ASCII text is converted without a table, as the table
would convert it. -/
namespace ScopeHints.Text

theorem utf8ByteSize_ofList (text : List Char) :
    (String.ofList text).utf8ByteSize = byteLength text := by
  induction text with
  | nil => rfl
  | cons c text ih =>
    rw [← String.size_toByteArray, String.toByteArray_ofList] at ih ⊢
    rw [List.utf8Encode_cons, ByteArray.size_append, ih, List.utf8Encode_singleton]
    simp [byteLength]

/-- The bytes that the first `count` characters of a text take in UTF-8. -/
def bytesBefore (text : String) (count : Nat) : Nat :=
  (String.ofList (text.toList.take count)).utf8ByteSize

theorem bytesBefore_eq (text : String) (count : Nat) :
    bytesBefore text count = byteLength (text.toList.take count) :=
  utf8ByteSize_ofList _

theorem utf8ByteSize_eq (text : String) : text.utf8ByteSize = byteLength text.toList := by
  rw [← utf8ByteSize_ofList, String.ofList_toList]

/-! ### Tables -/

theorem getElem?_byteOwners_within (m : Nat) (text : List Char) {i byte : Nat}
    (hle : byteLength (text.take i) ≤ byte) (hlt : byte < byteLength (text.take (i + 1))) :
    (byteOwners m text)[byte]? = some (m + i) := by
  induction text generalizing m i byte with
  | nil => simp [byteLength] at hlt
  | cons c text ih =>
    rw [byteOwners_cons]
    cases i with
    | zero =>
      have hsize : byte < c.utf8Size := by simpa [byteLength] using hlt
      rw [List.getElem?_append_left (by simpa using hsize)]
      simp [hsize]
    | succ i =>
      simp only [List.take_succ_cons, byteLength] at hle hlt
      rw [List.getElem?_append_right (by rw [List.length_replicate]; omega), List.length_replicate,
        ih (m + 1) (i := i) (by omega) (by omega)]
      congr 1
      omega

theorem getElem?_offsetTable_within {text : List Char} {i byte : Nat}
    (hle : byteLength (text.take i) ≤ byte) (hlt : byte < byteLength (text.take (i + 1))) :
    (offsetTable text)[byte]? = some i := by
  have h := getElem?_byteOwners_within 0 text hle hlt
  obtain ⟨hbyte, -⟩ := List.getElem?_eq_some_iff.1 h
  rw [Nat.zero_add] at h
  exact (List.getElem?_append_left hbyte).trans h

theorem getElem?_offsetTable_of_isAscii {text : List Char} (h : isAscii text = true) {byte : Nat}
    (hle : byte ≤ text.length) : (offsetTable text)[byte]? = some byte := by
  have hstart := getElem?_byteOwners 0 text hle
  rw [byteLength_of_isAscii (isAscii_take h byte), List.length_take, Nat.min_eq_left hle] at hstart
  simpa [offsetTable, byteOwners] using hstart

namespace OffsetMap

theorem toChar?_within {text : List Char} {i byte : Nat}
    (hle : byteLength (text.take i) ≤ byte) (hlt : byte < byteLength (text.take (i + 1))) :
    (ofText text).toChar? byte = some i := by
  have htable := getElem?_offsetTable_within hle hlt
  unfold ofText
  split
  · rename_i ha
    -- Here a byte is a character, so that the table has the same answer.
    have hlast : byteLength (text.take (i + 1)) ≤ text.length := by
      rw [byteLength_of_isAscii (isAscii_take ha (i + 1))]
      exact List.length_take_le' _ _
    rw [getElem?_offsetTable_of_isAscii ha (by omega)] at htable
    exact htable
  · simpa [toChar?] using htable

theorem toChar?_eq_none_iff {text : List Char} (h : isAscii text = false) {byte : Nat} :
    (ofText text).toChar? byte = none ↔ byteLength text < byte := by
  rw [ofText, if_neg (by simp [h]), toChar?, List.getElem?_toArray, List.getElem?_eq_none_iff,
    length_offsetTable, Nat.succ_le_iff]

/-- What a conversion of offsets says about the UTF-8 form of a text: where a character starts, and
anywhere within it, it gives the number of the character, and it keeps the order of offsets. -/
structure Inverts (offsets : OffsetMap) (text : String) : Prop where
  start : ∀ i ≤ text.length, offsets.toChar? (bytesBefore text i) = some i
  within : ∀ i < text.length, ∀ byte, bytesBefore text i ≤ byte → byte < bytesBefore text (i + 1) →
    offsets.toChar? byte = some i
  mono : ∀ a b, a ≤ b → b ≤ text.utf8ByteSize →
    ∃ x y, offsets.toChar? a = some x ∧ offsets.toChar? b = some y ∧ x ≤ y

theorem inverts_ofText (text : String) : (ofText text.toList).Inverts text := by
  refine ⟨?_, ?_, ?_⟩
  · intro i hi
    rw [bytesBefore_eq]
    exact toChar?_take (by rwa [String.length_toList])
  · intro i _ byte hle hlt
    rw [bytesBefore_eq] at hle hlt
    exact toChar?_within hle hlt
  · intro a b hab hb
    rw [utf8ByteSize_eq] at hb
    obtain ⟨x, hx, -⟩ := toChar?_of_le (Nat.le_trans hab hb)
    obtain ⟨y, hy, -⟩ := toChar?_of_le hb
    exact ⟨x, y, hx, hy, toChar?_mono hab hx hy⟩

/-- The offsets of a text invert its UTF-8 form. If it is no ASCII text, no other offset than those
up to its end is converted; if it is one, no table is made, and up to the end of the text a table
would not convert offsets otherwise. -/
theorem ofText_inverts (text : String) :
    (ofText text.toList).Inverts text ∧
    ((∃ c ∈ text.toList, 128 ≤ c.toNat) → ∀ byte,
      (ofText text.toList).toChar? byte = none ↔ text.utf8ByteSize < byte) ∧
    ((∀ c ∈ text.toList, c.toNat < 128) → ofText text.toList = identity ∧
      ∀ byte ≤ text.length, (ofText text.toList).toChar? byte =
        (table (offsetTable text.toList).toArray).toChar? byte) := by
  refine ⟨inverts_ofText text, ?_, ?_⟩
  · rintro ⟨c, hc, hlarge⟩ byte
    have hascii : isAscii text.toList = false := by
      rw [isAscii, List.all_eq_false]
      exact ⟨c, hc, by simpa using hlarge⟩
    rw [utf8ByteSize_eq]
    exact toChar?_eq_none_iff hascii
  · intro hsmall
    have hascii : isAscii text.toList = true := by simpa [isAscii] using hsmall
    have hmap : ofText text.toList = identity := if_pos hascii
    refine ⟨hmap, ?_⟩
    intro byte hbyte
    rw [← String.length_toList] at hbyte
    rw [hmap, toChar?, toChar?, List.getElem?_toArray, getElem?_offsetTable_of_isAscii hascii hbyte]

theorem ofText_inverts_mixed :
    (∃ c ∈ "aß€\n😀".toList, 128 ≤ c.toNat) ∧
    bytesBefore "aß€\n😀" 2 = 3 ∧ bytesBefore "aß€\n😀" 3 = 6 ∧
    (ofText "aß€\n😀".toList).toChar? 5 = some 2 ∧
    (ofText "aß€\n😀".toList).toChar? (bytesBefore "aß€\n😀" 5) = some 5 ∧
    (ofText "aß€\n😀".toList).toChar? 12 = none ∧
    (∀ c ∈ "var".toList, c.toNat < 128) ∧
    (ofText "var".toList).toChar? 3 = (table (offsetTable "var".toList).toArray).toChar? 3 := by
  have hlarge : ∃ c ∈ "aß€\n😀".toList, 128 ≤ c.toNat := ⟨'ß', by decide, by decide⟩
  have hascii : isAscii "var".toList = true := by decide
  have hsmall : ∀ c ∈ "var".toList, c.toNat < 128 := by
    intro c hc
    exact of_decide_eq_true (List.all_eq_true.1 hascii c hc)
  have htwo : bytesBefore "aß€\n😀" 2 = 3 := by decide +kernel
  have hthree : bytesBefore "aß€\n😀" 3 = 6 := by decide +kernel
  obtain ⟨hinverts, hnone, -⟩ := ofText_inverts "aß€\n😀"
  obtain ⟨-, -, htable⟩ := ofText_inverts "var"
  exact ⟨hlarge, htwo, hthree,
    hinverts.within 2 (by decide) 5 (by rw [htwo]; decide) (by rw [hthree]; decide),
    hinverts.start 5 (by decide), (hnone hlarge 12).2 (by decide +kernel), hsmall,
    (htable hsmall).2 3 (by decide)⟩

end OffsetMap

end ScopeHints.Text
