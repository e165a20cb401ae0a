import SessionGate.Text.Base64Url

/-!
# Reading base64 back

Four characters carry three bytes, and the two or three characters at the end carry one byte or two.
What is written can be read, so that different bytes are written differently.
-/

namespace SessionGate.Text.Base64Url

/-- What holds of the symbols of all values below 64 holds of all symbols. -/
theorem of_symbols {good : Char → Prop} (small : ∀ value < 64, good (symbol value)) (value : Nat) :
    good (symbol value) := by
  by_cases below : value < 64
  · exact small value below
  · have last : symbol value = symbol 63 := by
      rw [symbol, if_neg (by omega), if_neg (by omega), if_neg (by omega), if_neg (by omega)]
      rfl
    exact last ▸ small 63 (by decide)

theorem of_mem_encode {good : Char → Prop} (small : ∀ value < 64, good (symbol value))
    {octets : Octets} {character : Char} (member : character ∈ encode octets) :
    good character := by
  fun_induction encode octets with
  | case1 => cases member
  | case2 a =>
      simp only [List.mem_cons, List.not_mem_nil, or_false] at member
      rcases member with rfl | rfl <;> exact of_symbols small _
  | case3 a b =>
      simp only [List.mem_cons, List.not_mem_nil, or_false] at member
      rcases member with rfl | rfl | rfl <;> exact of_symbols small _
  | case4 a b c rest ih =>
      simp only [List.mem_cons] at member
      rcases member with rfl | rfl | rfl | rfl | later
      · exact of_symbols small _
      · exact of_symbols small _
      · exact of_symbols small _
      · exact of_symbols small _
      · exact ih later

theorem length_encode (octets : Octets) :
    (encode octets).length = (octets.length * 4 + 2) / 3 := by
  fun_induction encode octets with
  | case1 => rfl
  | case2 a => simp
  | case3 a b => simp
  | case4 a b c rest ih =>
      simp only [List.length_cons, ih]
      omega

/-- The value of a symbol. -/
def symbolValue (character : Char) : Nat :=
  if character = '-' then 62
  else if character = '_' then 63
  else if character ≤ '9' then character.toNat + 4
  else if character ≤ 'Z' then character.toNat - 65
  else character.toNat - 71

/-- The bytes of written characters. -/
def decode : List Char → Octets
  | a :: b :: rest =>
      UInt8.ofNat (symbolValue a * 4 + symbolValue b / 16) ::
        match rest with
        | [] => []
        | c :: rest =>
            UInt8.ofNat (symbolValue b % 16 * 16 + symbolValue c / 4) ::
              match rest with
              | [] => []
              | d :: rest => UInt8.ofNat (symbolValue c % 4 * 64 + symbolValue d) :: decode rest
  | _ => []

theorem symbolValue_symbol : ∀ value < 64, symbolValue (symbol value) = value := by
  decide

theorem ofNat_eq (byte : UInt8) {value : Nat} (same : value = byte.toNat) :
    UInt8.ofNat value = byte := by
  rw [same, UInt8.ofNat_toNat]

theorem decode_encode (octets : Octets) : decode (encode octets) = octets := by
  have read {value : Nat} (small : value < 64) : symbolValue (symbol value) = value :=
    symbolValue_symbol value small
  fun_induction encode octets with
  | case1 => rfl
  | case2 a =>
      have bound := a.toNat_lt
      rw [decode, read (by omega), read (by omega), ofNat_eq a (by omega)]
  | case3 a b =>
      have bound := a.toNat_lt
      have nextBound := b.toNat_lt
      simp only [decode]
      rw [read (by omega), read (by omega), read (by omega), ofNat_eq a (by omega),
        ofNat_eq b (by omega)]
  | case4 a b c rest ih =>
      have bound := a.toNat_lt
      have nextBound := b.toNat_lt
      have lastBound := c.toNat_lt
      simp only [decode, ih]
      rw [read (by omega), read (by omega), read (by omega), read (by omega), ofNat_eq a (by omega),
        ofNat_eq b (by omega), ofNat_eq c (by omega)]

theorem encode_injective : Function.Injective encode :=
  Function.LeftInverse.injective decode_encode

end SessionGate.Text.Base64Url
