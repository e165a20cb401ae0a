import SessionGate.Payload
import SessionGate.Proofs.Json.Members
import SessionGate.Proofs.Json.Written

/-!
# The payload of a session

An identity that has been written to a store is read back from it.
-/

namespace SessionGate

open Json

namespace Role

theorem name_isPlainText (role : Role) : (Octets.ofText role.name).all isPlainText = true := by
  cases role <;> decide

/-- The bytes of a written role. -/
theorem write_bytes (role : Role) :
    role.write.flatMap String.utf8EncodeChar = 0x22 :: (Octets.ofText role.name ++ [0x22]) := by
  cases role <;> decide

theorem read_write (role : Role) (tail : Octets) :
    read (0x22 :: (Octets.ofText role.name ++ 0x22 :: tail)) = .ok (role, tail) := by
  have blank : isBlank 0x22 = false := by decide
  have text := readText_of_plain role.name_isPlainText tail
  simp only [read, variant, skipBlanks_cons blank, variantName, text, bind, Except.bind, if_true]
  cases role <;> rfl

end Role

namespace Identity

/-- The bytes of a written identity, part by part. -/
theorem encode_eq (identity : Identity) :
    identity.encode =
      0x7b :: 0x22 :: (Octets.ofText "user_id" ++ 0x22 :: 0x3a ::
        (integerBytes identity.userId.toInt ++ 0x2c :: 0x22 ::
          (Octets.ofText "role" ++ 0x22 :: 0x3a :: 0x22 ::
            (Octets.ofText identity.role.name ++ [0x22, 0x7d])))) := by
  rw [encode, Octets.ofText_ofList, write, writeObject]
  have first : (writeText "user_id").flatMap String.utf8EncodeChar =
      0x22 :: (Octets.ofText "user_id" ++ [0x22]) := by decide
  have second : (writeText "role").flatMap String.utf8EncodeChar =
      0x22 :: (Octets.ofText "role" ++ [0x22]) := by decide
  have brace : String.utf8EncodeChar '\x7b' = [0x7b] := by decide
  have close : String.utf8EncodeChar '\x7d' = [0x7d] := by decide
  have colon : String.utf8EncodeChar ':' = [0x3a] := by decide
  have comma : String.utf8EncodeChar ',' = [0x2c] := by decide
  simp [List.intercalate, List.flatMap_append, first, second, brace, close, colon, comma,
    Role.write_bytes, integerBytes]

theorem read_userId (identity : Identity) (draft : PairDraft UserId Role) (rest : Octets) :
    (record.fields[0]).read draft (integerBytes identity.userId.toInt ++ 0x2c :: rest) =
      .ok ({ draft with first := some identity.userId }, 0x2c :: rest) := by
  have low : Decimal.IntegerRange.signed64.least ≤ identity.userId.toInt :=
    identity.userId.le_toInt
  have high : identity.userId.toInt ≤ Decimal.IntegerRange.signed64.greatest :=
    Int.le_of_lt_add_one identity.userId.toInt_lt
  have ends : EndsNumber (0x2c :: rest) := ⟨by decide, by decide, by decide, by decide⟩
  have read : integer .signed64 "i64" (integerBytes identity.userId.toInt ++ 0x2c :: rest) =
      .ok (identity.userId.toInt, 0x2c :: rest) :=
    integer_integerBytes low high (by decide) ends
  simp [record, read, bind, Except.bind, pure, Except.pure]

theorem read_role (identity : Identity) (draft : PairDraft UserId Role) (rest : Octets) :
    (record.fields[1]).read draft
        (0x22 :: (Octets.ofText identity.role.name ++ 0x22 :: rest)) =
      .ok ({ draft with second := some identity.role }, rest) := by
  simp [record, Role.read_write, bind, Except.bind, pure, Except.pure]

/-- An identity is read back from the bytes that stand for it in a store. -/
theorem decode_encode (identity : Identity) : decode identity.encode = .ok identity := by
  have idText : (Octets.ofText "user_id").all isPlainText = true := by decide
  have roleText : (Octets.ofText "role").all isPlainText = true := by decide
  rw [decode, encode_eq]
  apply Record.read_of_members
  · rw [Record.readMembers_of_field (nextKey_first idText _) rfl (takeColon_cons _)
        (identity.read_userId _ _),
      Record.readMembers_of_field (nextKey_later roleText _) rfl (takeColon_cons _)
        (identity.read_role _ _)]
    exact Record.readMembers_of_end (nextKey_end false [])
  · rfl

/-- Different identities are written differently. -/
theorem encode_injective : Function.Injective encode := by
  intro first second same
  have read := congrArg decode same
  rw [decode_encode, decode_encode] at read
  exact Except.ok.inj read

end Identity

end SessionGate
