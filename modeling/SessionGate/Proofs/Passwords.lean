import Mathlib.Algebra.Group.Nat.Defs
import Mathlib.Data.List.Basic
import SessionGate.Passwords

/-!
# Passwords and their records

A password has one record for each salt of the right length, and is accepted against that record
alone. Salts may be longer than those of records that are read; what is made with such a salt serves
no password. Beyond its verdict, what a check comes to depends only on lengths.
-/

namespace SessionGate

open Hash

/-- A text of so many letters. -/
def Text.letters (count : Nat) : String :=
  String.ofList (List.replicate count 'b')

theorem Octets.length_ofText_letters (count : Nat) :
    (Octets.ofText (Text.letters count)).length = count := by
  rw [length_ofText, Text.letters]
  induction count with
  | zero => rfl
  | succ count ih =>
      have one : (String.singleton 'b').utf8ByteSize = 1 := rfl
      rw [List.replicate_succ, String.ofList_cons, String.utf8ByteSize_append, ih, one,
        Nat.add_comm]

theorem Text.isEmpty_letters {count : Nat} (several : 0 < count) :
    (Text.letters count).isEmpty = false := by
  rw [String.isEmpty_eq_false_iff]
  rintro empty
  have sizes := Octets.length_ofText_letters count
  rw [empty] at sizes
  exact absurd sizes (Nat.ne_of_lt several)

namespace Hasher

variable {hasher : Hasher} {password salt : Octets} {stored : PasswordRecord}

/-- Accepted costs make keys of at least four bytes. -/
theorem four_le_keyLength (hasher : Hasher) : 4 ≤ hasher.costs.keyLength := by
  have accepted := hasher.accepted
  unfold Argon2id.Costs.refusal? at accepted
  repeat' split at accepted
  all_goals first
    | omega
    | cases accepted

/-- A password has a record with every salt of the right length unless it is too long to be
hashed. -/
theorem record_of_length (hasher : Hasher) (password : Octets) (size : salt.length = saltLength) :
    hasher.record password salt =
      if 0xffffffff < password.length then .error (.internal (.hashing .passwordTooLong))
      else .ok ⟨salt ++ Argon2id.key hasher.costs password salt⟩ := by
  rw [record, refusal?, size]
  by_cases long : 0xffffffff < password.length
  · rw [if_pos long, if_pos long]
  · rw [if_neg long, if_neg long]
    rfl

theorem record_salt (hasher : Hasher) (password : Octets) (salt : Salt) :
    hasher.record password salt.toList =
      if 0xffffffff < password.length then .error (.internal (.hashing .passwordTooLong))
      else .ok ⟨salt.toList ++ Argon2id.key hasher.costs password salt.toList⟩ :=
  record_of_length hasher password (by simp [saltLength])

theorem refusal?_eq_none_iff :
    refusal? password salt = none ↔
      password.length ≤ 0xffffffff ∧ 8 ≤ salt.length ∧ salt.length ≤ 0xffffffff := by
  unfold refusal?
  split_ifs <;> simp <;> omega

theorem record_eq_ok_iff :
    hasher.record password salt = .ok stored ↔
      password.length ≤ 0xffffffff ∧ 8 ≤ salt.length ∧ salt.length ≤ 0xffffffff ∧
        stored.octets = salt ++ Argon2id.key hasher.costs password salt := by
  have fits := @refusal?_eq_none_iff password salt
  cases refused : refusal? password salt with
  | some error =>
      rw [refused] at fits
      simp only [record, refused, reduceCtorEq, false_iff]
      rintro ⟨shortPassword, longSalt, shortSalt, -⟩
      cases fits.mpr ⟨shortPassword, longSalt, shortSalt⟩
  | none =>
      obtain ⟨shortPassword, longSalt, shortSalt⟩ := fits.mp refused
      cases stored
      simp only [record, refused, Except.ok.injEq, PasswordRecord.mk.injEq, shortPassword, longSalt,
        shortSalt, true_and]
      exact eq_comm

theorem octets_of_record (made : hasher.record password salt = .ok stored) :
    stored.octets = salt ++ Argon2id.key hasher.costs password salt :=
  (record_eq_ok_iff.mp made).2.2.2

/-! ## Comparing records -/

/-- The differences of two sequences of one length come to nothing only if the sequences are equal.
The induction is for any difference found before. -/
theorem foldl_zip_eq_zero_iff {left right : Octets} (sizes : left.length = right.length)
    (found : UInt8) :
    (left.zip right).foldl (fun difference (a, b) => difference ||| (a ^^^ b)) found = 0 ↔
      found = 0 ∧ left = right := by
  induction left generalizing right found with
  | nil =>
      have nothing : right = [] := List.eq_nil_of_length_eq_zero sizes.symm
      simp [nothing]
  | cons a left ih =>
      cases right with
      | nil => simp at sizes
      | cons b right =>
          have rest : left.length = right.length := by simpa using sizes
          rw [List.zip_cons_cons, List.foldl_cons, ih rest, UInt8.or_eq_zero_iff,
            UInt8.xor_eq_zero_iff, List.cons.injEq, and_assoc]

theorem sameOctets_iff {left right : Octets} : sameOctets left right = true ↔ left = right := by
  rw [sameOctets, Bool.and_eq_true, beq_iff_eq, beq_iff_eq]
  constructor
  · rintro ⟨sizes, same⟩
    exact ((foldl_zip_eq_zero_iff sizes 0).mp same).2
  · rintro rfl
    exact ⟨rfl, (foldl_zip_eq_zero_iff rfl 0).mpr ⟨rfl, rfl⟩⟩

theorem length_take_saltLength (whole : saltLength < stored.octets.length) :
    (stored.octets.take saltLength).length = saltLength := by
  rw [List.length_take]
  omega

private theorem take_append_eq_iff {whole back : Octets} {count : Nat} :
    whole.take count ++ back = whole ↔ back = whole.drop count := by
  conv_lhs => rhs; rw [← List.take_append_drop count whole]
  exact List.append_right_inj _

/-- The record that a password is compared with is made with the first eight bytes, so that nothing
but the bytes behind them decides. -/
theorem verifies_iff :
    hasher.verifies password stored = true ↔
      password.length ≤ 0xffffffff ∧
        stored.octets.length = saltLength + hasher.costs.keyLength ∧
        stored.octets.drop saltLength =
          Argon2id.key hasher.costs password (stored.octets.take saltLength) := by
  have long := hasher.four_le_keyLength
  rw [verifies, beq_iff_eq, check]
  by_cases short : stored.octets.length ≤ saltLength
  · rw [if_pos short]
    simp only [reduceCtorEq, false_iff]
    omega
  · have salted := length_take_saltLength (Nat.lt_of_not_le short)
    rw [if_neg short, record_of_length hasher password salted]
    by_cases tooLong : 0xffffffff < password.length
    · rw [if_pos tooLong]
      simp only [reduceCtorEq, false_iff]
      omega
    · rw [if_neg tooLong, Check.compared.injEq, sameOctets_iff, take_append_eq_iff]
      constructor
      · intro key
        have sizes := congrArg List.length key
        rw [Argon2id.length_key, List.length_drop] at sizes
        exact ⟨Nat.le_of_not_lt tooLong, by omega, key.symm⟩
      · rintro ⟨-, -, key⟩
        exact key.symm

/-- No password is that of a record which does not have the length of a salt and a key. -/
theorem length_of_verifies (right : hasher.verifies password stored = true) :
    stored.octets.length = saltLength + hasher.costs.keyLength :=
  (verifies_iff.mp right).2.1

/-- Of the records that start with the same salt, a password has one. -/
theorem eq_of_verifies {other : PasswordRecord} (right : hasher.verifies password stored = true)
    (alsoRight : hasher.verifies password other = true)
    (salts : other.octets.take saltLength = stored.octets.take saltLength) : other = stored := by
  have key := (verifies_iff.mp right).2.2
  have otherKey := (verifies_iff.mp alsoRight).2.2
  rw [salts, ← key] at otherKey
  cases other with
  | mk octets =>
      cases stored with
      | mk others =>
          rw [PasswordRecord.mk.injEq, ← List.take_append_drop saltLength octets, salts, otherKey,
            List.take_append_drop]

/-- A record serves the passwords that have its key, if its salt has the length of those that are
read, and no password otherwise. -/
theorem verifies_record_iff {other : Octets} (made : hasher.record password salt = .ok stored) :
    hasher.verifies other stored = true ↔
      other.length ≤ 0xffffffff ∧ salt.length = saltLength ∧
        Argon2id.key hasher.costs other salt = Argon2id.key hasher.costs password salt := by
  have octets := octets_of_record made
  have sizes := congrArg List.length octets
  rw [List.length_append, Argon2id.length_key] at sizes
  rw [verifies_iff]
  refine and_congr_right fun hashable => ?_
  by_cases size : salt.length = saltLength
  · have front : stored.octets.take saltLength = salt := by rw [octets, ← size, List.take_left]
    have back : stored.octets.drop saltLength = Argon2id.key hasher.costs password salt := by
      rw [octets, ← size, List.drop_left]
    rw [front, back, sizes]
    simp [size, eq_comm]
  · constructor
    · rintro ⟨whole, -⟩
      omega
    · rintro ⟨same, -⟩
      exact absurd same size

theorem verifies_of_record (size : salt.length = saltLength)
    (made : hasher.record password salt = .ok stored) :
    hasher.verifies password stored = true :=
  (verifies_record_iff made).mpr ⟨(record_eq_ok_iff.mp made).1, size, rfl⟩

/-- Against a record that is long enough, checking fails for a password that is too long to be
hashed and compares every other. -/
theorem check_of_length (hasher : Hasher) (password : Octets)
    (whole : saltLength < stored.octets.length) :
    hasher.check password stored =
      if 0xffffffff < password.length then .failed (.internal (.hashing .passwordTooLong))
      else .compared (hasher.verifies password stored) := by
  rw [verifies, check, if_neg (Nat.not_le.mpr whole),
    record_of_length hasher password (length_take_saltLength whole)]
  by_cases long : 0xffffffff < password.length
  · rw [if_pos long, if_pos long]
  · rw [if_neg long, if_neg long]
    dsimp only
    cases sameOctets _ stored.octets <;> rfl

/-- Beyond its verdict, checking depends only on how long the record is and on whether the password
can be hashed. -/
theorem check_congr {password' : Octets} {stored' : PasswordRecord}
    (sizes : stored.octets.length = stored'.octets.length)
    (long : 0xffffffff < password.length ↔ 0xffffffff < password'.length)
    (verdicts : hasher.verifies password stored = hasher.verifies password' stored') :
    hasher.check password stored = hasher.check password' stored' := by
  by_cases short : stored'.octets.length ≤ saltLength
  · rw [check, check, if_pos (sizes ▸ short), if_pos short]
  · have whole : saltLength < stored'.octets.length := Nat.not_le.mp short
    rw [check_of_length hasher password (sizes ▸ whole), check_of_length hasher password' whole,
      verdicts]
    simp only [long]

/-! ## What records come to -/

theorem costs_of_ofCosts {costs : HashCosts} (accepted : ofCosts costs = .ok hasher) :
    hasher.costs = costs := by
  unfold ofCosts at accepted
  split at accepted
  · rw [← Except.ok.inj accepted]
  · cases accepted

theorem verify_run_fst {σ : Type} (answer : (question : Question) → σ → question.Answer × σ)
    (state : σ) (hasher : Hasher) (password : Octets) (stored : PasswordRecord) :
    ((hasher.verify password stored).run answer state).1 = hasher.verifies password stored := by
  rw [verify, verifies]
  cases hasher.check password stored with
  | malformed | failed error => rfl
  | compared isSame => cases isSame <;> rfl

theorem verifies_eq_false_of_length
    (wrong : stored.octets.length ≠ saltLength + hasher.costs.keyLength) :
    hasher.verifies password stored = false := by
  by_contra right
  exact wrong (length_of_verifies (by simpa using right))

/-- A password does not serve a record that differs from its own in the key alone. -/
theorem verifies_set_eq_false {index : Nat} {byte : UInt8}
    (right : hasher.verifies password stored = true) (inKey : saltLength ≤ index)
    (inside : index < stored.octets.length) (other : stored.octets[index]? ≠ some byte) :
    hasher.verifies password ⟨stored.octets.set index byte⟩ = false := by
  by_contra alsoRight
  have salts : (stored.octets.set index byte).take saltLength = stored.octets.take saltLength := by
    rw [List.take_set_of_le inKey]
  have same : stored.octets.set index byte = stored.octets :=
    congrArg PasswordRecord.octets (eq_of_verifies right (by simpa using alsoRight) salts)
  apply other
  rw [← List.getElem?_set_self inside, same]

/-- Which records a hasher of accepted costs makes, and which passwords a record serves: those whose
key it holds behind its first eight bytes. -/
structure RecordsWith (hasher : Hasher) (costs : HashCosts) : Prop where
  keys : ∀ password salt, (Argon2id.key costs password salt).length = costs.keyLength
  made : ∀ password salt stored, password.length < 2 ^ 32 →
    (hasher.record password salt = .ok stored ↔ 8 ≤ salt.length ∧ salt.length < 2 ^ 32 ∧
      stored.octets = salt ++ Argon2id.key costs password salt)
  served : ∀ password stored, password.length < 2 ^ 32 →
    (hasher.verifies password stored = true ↔ stored.octets.length = 8 + costs.keyLength ∧
      stored.octets.drop 8 = Argon2id.key costs password (stored.octets.take 8))
  /-- Every check ends with its verdict, whatever it logs. -/
  verdicts : ∀ (σ : Type) (answer : (question : Question) → σ → question.Answer × σ) state
    password stored,
    ((hasher.verify password stored).run answer state).1 = hasher.verifies password stored
  compared : ∀ password stored, password.length < 2 ^ 32 →
    hasher.check password stored =
      if stored.octets.length ≤ 8 then .malformed
      else .compared (hasher.verifies password stored)
  short : ∀ password stored, stored.octets.length ≤ 8 → hasher.verifies password stored = false
  truncated : ∀ password stored count, hasher.verifies password stored = true →
    count < stored.octets.length → hasher.verifies password ⟨stored.octets.take count⟩ = false
  extended : ∀ password stored more, hasher.verifies password stored = true → more ≠ [] →
    hasher.verifies password ⟨stored.octets ++ more⟩ = false
  changed : ∀ password stored index byte, hasher.verifies password stored = true → 8 ≤ index →
    index < stored.octets.length → stored.octets[index]? ≠ some byte →
      hasher.verifies password ⟨stored.octets.set index byte⟩ = false
  serves : ∀ password other salt stored, other.length < 2 ^ 32 →
    hasher.record password salt = .ok stored →
      (hasher.verifies other stored = true ↔ salt.length = 8 ∧
        Argon2id.key costs other salt = Argon2id.key costs password salt)
  own : ∀ password salt, password.length < 2 ^ 32 → salt.length = 8 →
    ∃ stored, hasher.record password salt = .ok stored ∧ hasher.verifies password stored = true
  nobody : ∀ password salt stored, hasher.record password salt = .ok stored → 8 < salt.length →
    ∀ other, hasher.verifies other stored = false

theorem records_of_accepted_costs {costs : HashCosts} (accepted : ofCosts costs = .ok hasher) :
    hasher.RecordsWith costs := by
  obtain rfl := costs_of_ofCosts accepted
  have keyed := hasher.four_le_keyLength
  constructor
  case keys => exact Argon2id.length_key hasher.costs
  case made =>
    intro password salt stored hashable
    rw [record_eq_ok_iff]
    constructor
    · rintro ⟨-, long, short, octets⟩
      exact ⟨long, by omega, octets⟩
    · rintro ⟨long, short, octets⟩
      exact ⟨by omega, long, by omega, octets⟩
  case served =>
    intro password stored hashable
    rw [verifies_iff, and_iff_right (by omega)]
    rfl
  case verdicts =>
    intro σ answer state password stored
    exact verify_run_fst answer state hasher password stored
  case compared =>
    intro password stored hashable
    change _ = if stored.octets.length ≤ saltLength then Check.malformed else _
    by_cases short : stored.octets.length ≤ saltLength
    · rw [check, if_pos short, if_pos short]
    · rw [check_of_length hasher password (Nat.lt_of_not_le short), if_neg (by omega), if_neg short]
  case short =>
    intro password stored short
    apply verifies_eq_false_of_length
    rw [saltLength]
    omega
  case truncated =>
    intro password stored count right fewer
    have whole := length_of_verifies right
    apply verifies_eq_false_of_length
    rw [List.length_take]
    omega
  case extended =>
    intro password stored more right some
    have whole := length_of_verifies right
    have longer := List.length_pos_of_ne_nil some
    apply verifies_eq_false_of_length
    rw [List.length_append]
    omega
  case changed =>
    intro password stored index byte
    exact verifies_set_eq_false
  case serves =>
    intro password other salt stored hashable made
    rw [verifies_record_iff made, and_iff_right (by omega)]
    rfl
  case own =>
    intro password salt hashable size
    have made : hasher.record password salt =
        .ok ⟨salt ++ Argon2id.key hasher.costs password salt⟩ :=
      record_eq_ok_iff.mpr ⟨by omega, by omega, by omega, rfl⟩
    exact ⟨_, made, verifies_of_record size made⟩
  case nobody =>
    intro password salt stored made long other
    by_contra right
    obtain ⟨-, size, -⟩ := (verifies_record_iff made).mp (by simpa using right)
    rw [saltLength] at size
    omega

/-- A ninth byte of salt is taken for the first of the key. -/
theorem nine_bytes_of_salt_serve_nobody :
    ∃ hasher stored, ofCosts .cheap = .ok hasher ∧
      hasher.record [] (List.replicate 9 0) = .ok stored ∧
      ∀ password, hasher.verifies password stored = false := by
  have accepted : ofCosts .cheap = .ok ⟨.cheap, rfl⟩ := rfl
  have records := records_of_accepted_costs accepted
  have made :=
    (records.made [] (List.replicate 9 0) ⟨_⟩ (by decide)).mpr ⟨by decide, by decide, rfl⟩
  exact ⟨_, _, accepted, made, records.nobody _ _ _ made (by decide)⟩

end Hasher

end SessionGate
