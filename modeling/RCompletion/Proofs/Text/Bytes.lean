import Mathlib.Data.List.Basic

/-!
# Texts as bytes

A text is read back from its bytes.  Only the encoding of a slash contains the
byte of a slash, so that bytes contain it exactly when their text contains a
slash.
-/

namespace RCompletion
namespace Text

/-! ## Texts of bytes -/

/-- Bytes are UTF-8 exactly when they are those of a text. -/
theorem fromUTF8?_eq_some_iff {bytes : ByteArray} {text : String} :
    String.fromUTF8? bytes = some text ↔ bytes = text.toUTF8 := by
  constructor
  · intro decoded
    unfold String.fromUTF8? at decoded
    split at decoded
    case isTrue valid =>
      cases decoded
      rfl
    case isFalse => cases decoded
  · rintro rfl
    rw [String.toUTF8_eq_toByteArray, String.fromUTF8?,
      dif_pos text.isValidUTF8]
    rfl

theorem fromUTF8?_toUTF8 (text : String) :
    String.fromUTF8? text.toUTF8 = some text :=
  fromUTF8?_eq_some_iff.mpr rfl

/-! ## Slashes -/

/-- The byte of a slash. -/
def slashByte : UInt8 := 47

theorem slashByte_ne_ofNat
    {value : Nat}
    (high : 128 ≤ value)
    (low : value < 256) :
    slashByte ≠ UInt8.ofNat value := by
  intro same
  have values := congrArg UInt8.toNat same
  rw [UInt8.toNat_ofNat_of_lt' low] at values
  exact absurd high (by rw [← values]; decide)

/-- Only a slash is encoded with the byte of a slash. -/
theorem slashByte_mem_utf8EncodeChar_iff (character : Char) :
    slashByte ∈ String.utf8EncodeChar character ↔ character = '/' := by
  have code : character = '/' ↔ character.val.toNat = 47 := by
    rw [← Char.toNat_inj]
    rfl
  rw [code]
  fun_cases String.utf8EncodeChar character
  case case1 value ascii =>
    rw [List.mem_singleton, ← UInt8.toNat_inj,
      UInt8.toNat_ofNat_of_lt' (Nat.lt_of_le_of_lt ascii (by decide))]
    exact eq_comm
  -- all bytes of a longer encoding are above those of single characters
  all_goals
    refine iff_of_false ?_ (by omega)
    simp only [List.mem_cons, List.not_mem_nil, or_false, not_or]
    and_intros
    all_goals exact slashByte_ne_ofNat (by omega) (by omega)

/-- The bytes of a text contain a slash exactly when the text does. -/
theorem slashByte_mem_toUTF8_iff (text : String) :
    slashByte ∈ text.toUTF8.data.toList ↔ '/' ∈ text.toList := by
  rw [String.toUTF8_eq_toByteArray, ← String.utf8Encode_toList,
    List.utf8Encode, List.toList_data_toByteArray, List.mem_flatMap]
  simp only [slashByte_mem_utf8EncodeChar_iff]
  exact ⟨fun ⟨_, present, same⟩ => same ▸ present,
    fun present => ⟨'/', present, rfl⟩⟩

end Text
end RCompletion
