import Mathlib.Data.List.Lex
import Mathlib.Data.String.Basic
import CallContracts.Members

/-!
# The order of keys

Keys are ordered by their code points. In UTF-8 a character with a higher code is never spelled with
a lower byte where the spellings first differ, so this is also the order of the keys' bytes.
-/

namespace CallContracts.Text

/-- The bytes of a text in UTF-8. -/
def bytes (text : String) : List UInt8 :=
  text.toUTF8.data.toList

theorem bytes_ofList (chars : List Char) :
    bytes (.ofList chars) = chars.flatMap String.utf8EncodeChar := by
  induction chars with
  | nil => simp [bytes]
  | cons first chars ih =>
      have rest : chars.utf8Encode.data.toList = chars.flatMap String.utf8EncodeChar := by
        simpa [bytes] using ih
      simp only [bytes, String.toUTF8_eq_toByteArray, String.toByteArray_ofList]
      rw [List.utf8Encode_cons, List.utf8Encode_singleton]
      simp [rest]

theorem utf8EncodeChar_append_lt {left right : Char} (below : left < right)
    (lefts rights : List UInt8) :
    String.utf8EncodeChar left ++ lefts < String.utf8EncodeChar right ++ rights := by
  have codes : left.val.toNat < right.val.toNat := below
  have bounded : right.val.toNat < 1114112 := by
    have valid := right.valid
    unfold UInt32.isValidChar Nat.isValidChar at valid
    omega
  -- Each further byte takes six bits off the code.
  have twice (code : Nat) : code / 4096 = code / 64 / 64 := by omega
  have thrice (code : Nat) : code / 262144 = code / 64 / 64 / 64 := by omega
  unfold String.utf8EncodeChar
  dsimp only
  generalize left.val.toNat = small at codes
  generalize right.val.toNat = large at codes bounded
  repeat' split
  all_goals
    simp only [List.cons_append, List.nil_append, List.cons_lt_cons_iff, UInt8.lt_iff_toNat_lt,
      ← UInt8.toNat_inj, UInt8.toNat_ofNat', twice, thrice]
    omega

theorem utf8EncodeChar_ne_nil (char : Char) : String.utf8EncodeChar char ≠ [] := by
  unfold String.utf8EncodeChar
  dsimp only
  repeat' split
  all_goals simp

theorem bytes_lt_bytes {left right : List Char} (below : left < right) :
    bytes (.ofList left) < bytes (.ofList right) := by
  rw [bytes_ofList, bytes_ofList]
  induction below with
  | nil =>
      rename_i first chars
      rw [List.flatMap_cons]
      cases spelled : String.utf8EncodeChar first with
      | nil => exact absurd spelled (utf8EncodeChar_ne_nil first)
      | cons byte bytes => exact List.Lex.nil
  | rel below => exact utf8EncodeChar_append_lt below _ _
  | cons below ih => exact List.Lex.append_left _ ih _

/-- Texts are ordered like their bytes. -/
theorem lt_iff_bytes_lt (left right : String) : left < right ↔ bytes left < bytes right := by
  have forward {left right : String} (below : left < right) : bytes left < bytes right := by
    simpa using bytes_lt_bytes (String.lt_iff_toList_lt.mp below)
  constructor
  · exact forward
  · intro below
    rcases lt_trichotomy left right with before | same | behind
    · exact before
    · exact absurd (same ▸ below) (List.lt_irrefl _)
    · exact absurd below (List.lt_asymm (forward behind))

end CallContracts.Text
