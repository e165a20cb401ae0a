import Mathlib.Data.List.Basic
import SessionGate.Proofs.Json.Written

/-!
# Visible characters

The ASCII characters from the space to the tilde are those that show. Each is carried by one byte,
and is the character of that byte.
-/

namespace SessionGate.Text

/-- A visible ASCII character, or the space. -/
def IsVisible (character : Char) : Prop :=
  0x20 ≤ character.toNat ∧ character.toNat ≤ 0x7e

instance (character : Char) : Decidable (IsVisible character) :=
  inferInstanceAs (Decidable (_ ∧ _))

namespace IsVisible

variable {character : Char}

theorem exists_code (visible : IsVisible character) :
    ∃ code < 127, 32 ≤ code ∧ character = Char.ofNat code :=
  ⟨character.toNat, Nat.lt_succ_of_le visible.2, visible.1, (Char.ofNat_toNat character).symm⟩

theorem utf8EncodeChar_eq (visible : IsVisible character) :
    String.utf8EncodeChar character = [character.toUInt8] := by
  have codes : ∀ code < 127, 32 ≤ code →
    String.utf8EncodeChar (Char.ofNat code) = [(Char.ofNat code).toUInt8] := by decide
  obtain ⟨code, high, low, rfl⟩ := visible.exists_code
  exact codes code high low

theorem toUInt8_bounds (visible : IsVisible character) :
    0x20 ≤ character.toUInt8 ∧ character.toUInt8 ≤ 0x7e := by
  have codes : ∀ code < 127, 32 ≤ code →
    0x20 ≤ (Char.ofNat code).toUInt8 ∧ (Char.ofNat code).toUInt8 ≤ 0x7e := by decide
  obtain ⟨code, high, low, rfl⟩ := visible.exists_code
  exact codes code high low

theorem ofUInt8_toUInt8 (visible : IsVisible character) :
    Char.ofUInt8 character.toUInt8 = character := by
  have codes : ∀ code < 127, 32 ≤ code →
    Char.ofUInt8 (Char.ofNat code).toUInt8 = Char.ofNat code := by decide
  obtain ⟨code, high, low, rfl⟩ := visible.exists_code
  exact codes code high low

theorem eq_of_toUInt8_eq {other : Char} (visible : IsVisible character)
    (otherVisible : IsVisible other) (same : character.toUInt8 = other.toUInt8) :
    character = other := by
  rw [← visible.ofUInt8_toUInt8, ← otherVisible.ofUInt8_toUInt8, same]

end IsVisible

/-- Bytes of ASCII are the UTF-8 bytes of the characters that they stand for. -/
theorem ofText_ofList_map_ofUInt8 {octets : Octets} (ascii : ∀ byte ∈ octets, byte < 0x80) :
    Octets.ofText (String.ofList (octets.map Char.ofUInt8)) = octets := by
  have codes : ∀ code < 128,
    String.utf8EncodeChar (Char.ofUInt8 (UInt8.ofNat code)) = [UInt8.ofNat code] := by decide
  have alone : ∀ byte ∈ octets, String.utf8EncodeChar (Char.ofUInt8 byte) = [byte] := by
    intro byte member
    have encoded := codes byte.toNat (UInt8.lt_iff_toNat_lt.mp (ascii byte member))
    rwa [UInt8.ofNat_toNat] at encoded
  rw [Octets.ofText_ofList, List.flatMap_map, List.flatMap_congr alone, List.flatMap_singleton']

section

variable {text : String} (visible : ∀ character ∈ text.toList, IsVisible character)

include visible

/-- A visible text is as long in bytes as in characters. -/
theorem ofText_eq_map_of_visible : Octets.ofText text = text.toList.map Char.toUInt8 := by
  rw [← String.ofList_toList (s := text), Octets.ofText_ofList, String.toList_ofList,
    List.map_eq_flatMap]
  exact List.flatMap_congr fun character member => (visible character member).utf8EncodeChar_eq

theorem bounds_of_mem_ofText : ∀ byte ∈ Octets.ofText text, 0x20 ≤ byte ∧ byte ≤ 0x7e := by
  intro byte member
  rw [ofText_eq_map_of_visible visible] at member
  obtain ⟨character, known, rfl⟩ := List.mem_map.mp member
  exact (visible character known).toUInt8_bounds

end

end SessionGate.Text
