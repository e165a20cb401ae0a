import Mathlib.Data.List.Forall2
import SessionGate.Store.ExpiringMap
import SessionGate.Store.UserTable

/-!
# Stores that differ in secrets

Two tables of accounts that differ only in the bytes of password records answer alike, and so do
two maps that hold the same entries under keys that stand for each other. Working on both in the
same way leaves them so.
-/

namespace SessionGate

open Time

/-! ## Accounts -/

/-- A record of which only the length is left. -/
def PasswordRecord.redacted (record : PasswordRecord) : PasswordRecord :=
  ⟨List.replicate record.octets.length 0⟩

theorem PasswordRecord.redacted_eq_iff {record other : PasswordRecord} :
    record.redacted = other.redacted ↔ record.octets.length = other.octets.length := by
  constructor
  · intro same
    simpa [redacted] using congrArg (·.octets.length) same
  · intro same
    rw [redacted, redacted, same]

def UserRow.redacted (row : UserRow) : UserRow :=
  { row with password := row.password.redacted }

def User.redacted (user : User) : User :=
  { user with password := user.password.redacted }

namespace UserTable

def redacted (table : UserTable) : UserTable :=
  { table with users := table.users.map User.redacted }

theorem find?_redacted (table : UserTable) (email : String) :
    table.redacted.find? email = (table.find? email).map User.redacted := by
  rw [find?, redacted, List.find?_map]
  rfl

theorem contains_redacted (table : UserTable) (email : String) :
    table.redacted.contains email = table.contains email := by
  rw [contains, redacted, List.any_map]
  rfl

theorem insert_redacted (table : UserTable) (row : UserRow) :
    table.redacted.insert row.redacted =
      (table.insert row).map fun (id, after) => (id, after.redacted) := by
  have blank : row.redacted.password.octets.isEmpty = row.password.octets.isEmpty := by
    rw [Bool.eq_iff_iff, List.isEmpty_iff_length_eq_zero, List.isEmpty_iff_length_eq_zero]
    simp [UserRow.redacted, PasswordRecord.redacted]
  rw [insert, blank, contains_redacted]
  change (if row.email.isEmpty || row.password.octets.isEmpty then _
    else if table.contains row.email then _ else _) = _
  rw [insert]
  split
  · rfl
  · split
    · rfl
    · simp [redacted, Except.map, User.redacted, UserRow.redacted]

theorem setRole_redacted (table : UserTable) (id : UserId) (role : Role) :
    table.redacted.setRole id role = (table.setRole id role).map redacted := by
  rw [setRole, setRole, redacted, List.any_map]
  change (if table.users.any (·.id == id) then _ else _) = _
  split
  · simp only [Except.map, redacted, List.map_map, Except.ok.injEq, mk.injEq, true_and]
    refine List.map_congr_left fun user _ => ?_
    by_cases changed : user.id = id <;> simp [User.redacted, changed]
  · rfl

end UserTable

/-! ## Entries -/

namespace ExpiringMap

variable {pairs : String → String → Prop} {left right : ExpiringMap} {key key' : String}

/-- The maps hold the same entries in the same order, under keys that stand for each other. -/
def Matches (pairs : String → String → Prop) (left right : ExpiringMap) : Prop :=
  List.Forall₂ (fun stored stored' => pairs stored.1 stored'.1 ∧ stored.2 = stored'.2)
    left.entries right.entries

theorem Matches.size (same : left.Matches pairs right) : left.size = right.size :=
  List.Forall₂.length_eq same

theorem Matches.filter {keep keep' : String → Entry → Bool} (same : left.Matches pairs right)
    (alike : ∀ key key' entry, pairs key key' → (keep key entry = keep' key' entry)) :
    (left.filter keep).Matches pairs (right.filter keep') := by
  refine List.rel_filter (fun stored stored' paired => ?_) same
  obtain ⟨keys, entries⟩ := paired
  change keep stored.1 stored.2 = true ↔ keep' stored'.1 stored'.2 = true
  rw [alike stored.1 stored'.1 stored.2 keys, entries]

/-- A sweep removes as many entries from both. -/
theorem Matches.sweep (same : left.Matches pairs right) {now now' : Instant} (nows : now = now') :
    (left.sweep now).1 = (right.sweep now').1 ∧
      (left.sweep now).2.Matches pairs (right.sweep now').2 := by
  subst nows
  have kept : (left.sweep now).2.Matches pairs (right.sweep now).2 :=
    same.filter fun _ _ _ _ => rfl
  exact ⟨congrArg₂ (· - ·) same.size kept.size, kept⟩

variable (unique : Relator.BiUnique pairs)

include unique

theorem Matches.find? (same : left.Matches pairs right) (keys : pairs key key') :
    left.find? key = right.find? key' := by
  rw [Matches] at same
  change left.entries.lookup key = right.entries.lookup key'
  generalize left.entries = entries at same ⊢
  generalize right.entries = entries' at same ⊢
  induction same with
  | nil => rfl
  | @cons stored stored' rest rest' paired _ ih =>
      have equal : key = stored.1 ↔ key' = stored'.1 := Relator.rel_eq unique keys paired.1
      have looked : (key == stored.1) = (key' == stored'.1) := by
        rw [Bool.eq_iff_iff, beq_iff_eq, beq_iff_eq, equal]
      rw [List.lookup_cons, List.lookup_cons, looked, paired.2, ih]

theorem Matches.erase (same : left.Matches pairs right) (keys : pairs key key') :
    (left.erase key).Matches pairs (right.erase key') :=
  same.filter fun present present' _ paired => by
    have equal : present = key ↔ present' = key' := Relator.rel_eq unique paired keys
    rw [Bool.eq_iff_iff, bne_iff_ne, bne_iff_ne, Ne, Ne, equal]

theorem Matches.insert (same : left.Matches pairs right) (keys : pairs key key') (entry : Entry) :
    (left.insert key entry).Matches pairs (right.insert key' entry) :=
  .cons ⟨keys, rfl⟩ (same.erase unique keys)

theorem Matches.get (same : left.Matches pairs right) (keys : pairs key key') {now now' : Instant}
    (nows : now = now') :
    (left.get now key).1 = (right.get now' key').1 ∧
      (left.get now key).2.Matches pairs (right.get now' key').2 := by
  subst nows
  have looks : left.look now key = right.look now key' := by
    rw [look, look, same.find? unique keys]
  rw [ExpiringMap.get, ExpiringMap.get, settle, settle, looks]
  cases right.look now key' with
  | absent | live value => exact ⟨rfl, same⟩
  | expired => exact ⟨rfl, same.erase unique keys⟩

theorem Matches.delete (same : left.Matches pairs right) (keys : pairs key key') :
    (left.delete key).1 = (right.delete key').1 ∧
      (left.delete key).2.Matches pairs (right.delete key').2 :=
  ⟨congrArg Option.isSome (same.find? unique keys), same.erase unique keys⟩

end ExpiringMap

end SessionGate
