/-!
# Byte sequences

Passwords, salts, records, header values and request bodies are finite sequences of bytes.
A text is carried by its UTF-8 bytes, and numbers enter hashes with the low byte first.
-/

namespace SessionGate

abbrev Octets := List UInt8

namespace Octets

/-- The UTF-8 bytes of a text. -/
def ofText (text : String) : Octets :=
  text.toByteArray.data.toList

/-- The text whose UTF-8 bytes these are, if they are well formed. -/
def toText? (octets : Octets) : Option String :=
  String.fromUTF8? ⟨octets.toArray⟩

/-- The low `count` bytes of a number, lowest first. -/
def littleEndian : Nat → Nat → Octets
  | 0, _ => []
  | count + 1, value => UInt8.ofNat value :: littleEndian count (value / 256)

/-- The low four bytes of a number, lowest first. -/
def littleEndian32 (value : Nat) : Octets :=
  littleEndian 4 value

@[simp] theorem length_littleEndian (count value : Nat) :
    (littleEndian count value).length = count := by
  induction count generalizing value with
  | zero => rfl
  | succ count ih => simp [littleEndian, ih]

theorem length_ofText (text : String) : (ofText text).length = text.utf8ByteSize :=
  rfl

theorem ofText_append (first second : String) :
    ofText (first ++ second) = ofText first ++ ofText second := by
  simp only [ofText, String.toByteArray_append, ByteArray.data_append, Array.toList_append]

theorem toText?_ofText (text : String) : toText? (ofText text) = some text := by
  have bytes : (⟨(ofText text).toArray⟩ : ByteArray) = text.toByteArray := rfl
  rw [toText?, bytes, String.fromUTF8?, dif_pos text.isValidUTF8]
  rfl

theorem toText?_eq_some_iff {octets : Octets} {text : String} :
    toText? octets = some text ↔ octets = ofText text := by
  constructor
  · intro read
    rw [toText?, String.fromUTF8?] at read
    split at read
    case isTrue valid =>
      cases read
      rfl
    case isFalse => cases read
  · rintro rfl
    exact toText?_ofText text

theorem ofText_injective {first second : String} (same : ofText first = ofText second) :
    first = second := by
  have read := congrArg toText? same
  rw [toText?_ofText, toText?_ofText] at read
  exact Option.some.inj read

end Octets

end SessionGate
