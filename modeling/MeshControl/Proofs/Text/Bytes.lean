import Mathlib.Data.String.Basic
import Mathlib.Tactic.SplitIfs
import MeshControl.SortedMap

/-!
# Texts in byte order

Maps and sorted lists compare texts by their code points. This is the lexicographic order of their UTF-8 bytes
(`Text.bytes_lt_iff`): an encoded character precedes every greater one within the bytes of both, whatever follows
them.
-/

namespace MeshControl.Text

/-- The bytes of a text in UTF-8. -/
def bytes (text : String) : List UInt8 := text.toUTF8.data.toList

/-- The bytes of a text are those of its characters, one after the other. -/
theorem bytes_eq_flatMap (text : String) : bytes text = text.toList.flatMap String.utf8EncodeChar := by
  have encoded : text.toUTF8 = text.toList.utf8Encode := by
    rw [String.toUTF8_eq_toByteArray, ← String.toByteArray_ofList, String.ofList_toList]
  rw [bytes, encoded, List.utf8Encode, List.data_toByteArray, List.toList_toArray]

theorem ofNat_lt_ofNat_iff {first second : Nat} (firstSmall : first < 256) (secondSmall : second < 256) :
    UInt8.ofNat first < UInt8.ofNat second ↔ first < second := by
  rw [UInt8.lt_iff_toNat_lt, UInt8.toNat_ofNat_of_lt' firstSmall, UInt8.toNat_ofNat_of_lt' secondSmall]

theorem ofNat_eq_ofNat_iff {first second : Nat} (firstSmall : first < 256) (secondSmall : second < 256) :
    UInt8.ofNat first = UInt8.ofNat second ↔ first = second := by
  rw [← UInt8.toNat_inj, UInt8.toNat_ofNat_of_lt' firstSmall, UInt8.toNat_ofNat_of_lt' secondSmall]

/-- Of two characters the smaller one has the smaller encoding, whatever follows both. -/
theorem utf8EncodeChar_append_lt {first second : Char} (below : first < second) (rest otherRest : List UInt8) :
    String.utf8EncodeChar first ++ rest < String.utf8EncodeChar second ++ otherRest := by
  have values : first.val.toNat < second.val.toNat := UInt32.lt_iff_toNat_lt.1 below
  have bound : second.val.toNat < 1114112 := by
    rcases second.valid with low | ⟨_, high⟩ <;> omega
  -- The bytes hold digits to the base 64, so that every digit is the remainder of a shifted value.
  have twice (value : Nat) : value / 4096 = value / 64 / 64 := by omega
  have thrice (value : Nat) : value / 262144 = value / 64 / 64 / 64 := by omega
  unfold String.utf8EncodeChar
  dsimp only
  split_ifs <;>
    simp (disch := omega) only [List.cons_append, List.nil_append, List.cons_lt_cons_iff, ofNat_lt_ofNat_iff,
      ofNat_eq_ofNat_iff, twice, thrice] <;> omega

theorem flatMap_utf8EncodeChar_lt {left right : List Char} (below : left < right) :
    left.flatMap String.utf8EncodeChar < right.flatMap String.utf8EncodeChar := by
  induction left generalizing right with
  | nil =>
    cases right with
    | nil => exact absurd below (List.lt_irrefl _)
    | cons char rest =>
      -- Every encoding has a first byte, so what follows the empty text is greater.
      rw [List.flatMap_nil, List.flatMap_cons, String.utf8EncodeChar]
      split_ifs <;> exact List.nil_lt_cons _ _
  | cons char rest inductionHypothesis =>
    cases right with
    | nil => exact absurd below (List.not_lt_nil _)
    | cons other otherRest =>
      rw [List.flatMap_cons, List.flatMap_cons]
      rcases List.cons_lt_cons_iff.1 below with smaller | ⟨rfl, later⟩
      · exact utf8EncodeChar_append_lt smaller _ _
      · exact List.append_left_lt (inductionHypothesis later)

/-- Texts are compared like their bytes. -/
theorem bytes_lt_iff {left right : String} : bytes left < bytes right ↔ compare left right = .lt := by
  rw [Std.LawfulLTCmp.eq_lt_iff_lt, String.lt_iff_toList_lt, bytes_eq_flatMap, bytes_eq_flatMap]
  refine ⟨fun below => ?_, flatMap_utf8EncodeChar_lt⟩
  by_contra notBelow
  rcases List.le_iff_lt_or_eq.1 (List.not_lt.1 notBelow) with above | same
  · exact List.lt_asymm below (flatMap_utf8EncodeChar_lt above)
  · rw [same] at below
    exact List.lt_irrefl _ below

end MeshControl.Text
