import Mathlib.Algebra.Group.Nat.Defs
import Mathlib.Data.Finset.Card
import Mathlib.Data.List.Sort
import Mathlib.Logic.Relation

/-! Text predicates of the source: `str::trim` emptiness, the bytes of a text and their number. -/

set_option autoImplicit false

namespace Bastet.Core

/-- `char::is_whitespace`: the Unicode `White_Space` property. -/
def isWhitespace (character : Char) : Bool :=
  let code := character.toNat
  (0x09 ≤ code && code ≤ 0x0d) || code == 0x20 || code == 0x85 || code == 0xa0 || code == 0x1680 ||
    (0x2000 ≤ code && code ≤ 0x200a) || code == 0x2028 || code == 0x2029 || code == 0x202f ||
    code == 0x205f || code == 0x3000

/-- `value.trim().is_empty()`. -/
def isBlank (value : String) : Bool :=
  value.toList.all isWhitespace

/-- `value.len()`. -/
def byteLength (value : String) : Nat :=
  value.utf8ByteSize

/-- `value.as_bytes()`. -/
def asBytes (value : String) : List UInt8 :=
  value.toUTF8.data.toList

theorem length_asBytes (value : String) : (asBytes value).length = value.utf8ByteSize :=
  rfl

theorem asBytes_injective : Function.Injective asBytes := by
  intro value other same
  rw [asBytes, asBytes, Array.toList_inj, ← ByteArray.ext_iff] at same
  exact String.toByteArray_inj.mp same

theorem asBytes_append (value other : String) : asBytes (value ++ other) = asBytes value ++ asBytes other := by
  simp only [asBytes, String.toUTF8_eq_toByteArray, String.toByteArray_append, ByteArray.data_append, Array.toList_append]

theorem asBytes_eq (value : String) : asBytes value = value.toList.flatMap String.utf8EncodeChar := by
  rw [asBytes, String.toUTF8_eq_toByteArray, ← String.ofList_toList (s := value), String.toByteArray_ofList,
    String.toList_ofList]
  simp [List.utf8Encode]

/-- A byte below 128 is a character of its own. -/
theorem character_of_byte {value : String} {byte : UInt8} (member : byte ∈ asBytes value) (ascii : byte.toNat < 128) :
    ∃ character ∈ value.toList, character.toNat = byte.toNat := by
  rw [asBytes_eq] at member
  obtain ⟨character, found, coded⟩ := List.mem_flatMap.mp member
  refine ⟨character, found, ?_⟩
  change character.val.toNat = byte.toNat
  simp only [String.utf8EncodeChar] at coded
  split_ifs at coded <;> simp only [List.mem_cons, List.not_mem_nil, or_false] at coded
  -- One byte for a character below 128; else each byte has its top bit set.
  · rw [coded, UInt8.toNat_ofNat']
    omega
  · rcases coded with same | same <;> rw [same, UInt8.toNat_ofNat'] at ascii <;> omega
  · rcases coded with same | same | same <;> rw [same, UInt8.toNat_ofNat'] at ascii <;> omega
  · rcases coded with same | same | same | same <;> rw [same, UInt8.toNat_ofNat'] at ascii <;> omega

end Bastet.Core
