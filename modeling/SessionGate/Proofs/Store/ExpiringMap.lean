import Mathlib.Data.List.Basic
import SessionGate.Store.ExpiringMap

/-!
# Looking entries up

Every operation on a map is described by what it does to the entry of each key. An expired entry
counts as absent in a look-up, which removes it, and a sweep removes all entries that a look-up
would remove.
-/

namespace SessionGate

open Time

namespace ExpiringMap

variable {map : ExpiringMap} {key other : String} {entry : Entry} {now : Instant}

private theorem lookup_eq_some_iff_mem {entries : List (String × Entry)}
    (distinct : (entries.map Prod.fst).Nodup) :
    entries.lookup key = some entry ↔ (key, entry) ∈ entries := by
  induction entries with
  | nil => simp
  | cons first rest ih =>
      obtain ⟨present, stored⟩ := first
      rw [List.map_cons, List.nodup_cons] at distinct
      by_cases same : key = present
      · subst present
        have absent : (key, entry) ∉ rest := fun member =>
          distinct.1 (List.mem_map.mpr ⟨_, member, rfl⟩)
        simp [absent, eq_comm]
      · have differs : (key == present) = false := by simpa using same
        simp [List.lookup_cons, differs, ih distinct.2, same]

theorem find?_eq_some_iff : map.find? key = some entry ↔ (key, entry) ∈ map.entries :=
  lookup_eq_some_iff_mem map.distinct

@[simp]
theorem find?_filter (map : ExpiringMap) (keep : String → Entry → Bool) (key : String) :
    (map.filter keep).find? key = (map.find? key).filter (keep key) := by
  ext entry
  simp only [Option.filter_eq_some_iff, find?_eq_some_iff, filter, List.mem_filter]

theorem find?_erase (map : ExpiringMap) (key other : String) :
    (map.erase key).find? other = if other = key then none else map.find? other := by
  rw [erase, find?_filter]
  by_cases same : other = key
  · simp [same]
  · have kept : (other != key) = true := by simpa using same
    cases map.find? other <;> simp [kept, same]

theorem find?_erase_of_ne (different : other ≠ key) :
    (map.erase key).find? other = map.find? other := by
  simp [find?_erase, different]

theorem find?_insert (map : ExpiringMap) (key : String) (entry : Entry) (other : String) :
    (map.insert key entry).find? other = if other = key then some entry else map.find? other := by
  by_cases same : other = key
  · subst other
    simp [insert, find?]
  · have differs : (other == key) = false := by simpa using same
    have kept : (map.erase key).find? other = map.find? other := find?_erase_of_ne same
    rw [if_neg same, ← kept]
    simp [insert, find?, List.lookup_cons, differs]

private theorem eq_of_entries {left right : ExpiringMap} (same : left.entries = right.entries) :
    left = right := by
  cases left
  cases right
  cases same
  rfl

/-- It makes no difference to an insertion whether its key was there. -/
theorem insert_erase (map : ExpiringMap) (key : String) (entry : Entry) :
    (map.erase key).insert key entry = map.insert key entry := by
  apply eq_of_entries
  simp [insert, erase, filter, List.filter_filter]

theorem insert_erase_of_ne (map : ExpiringMap) (entry : Entry) (different : key ≠ other) :
    (map.erase other).insert key entry = (map.insert key entry).erase other := by
  apply eq_of_entries
  simp [insert, erase, filter, different, List.filter_filter, Bool.and_comm]

/-- The entry of a key, unless it has expired. -/
def live? (map : ExpiringMap) (now : Instant) (key : String) : Option Entry :=
  (map.find? key).filter fun entry => !entry.isExpired now

theorem live?_eq_some_iff :
    map.live? now key = some entry ↔
      map.find? key = some entry ∧ entry.isExpired now = false := by
  simp [live?, Option.filter_eq_some_iff]

theorem look_eq (map : ExpiringMap) (now : Instant) (key : String) :
    map.look now key =
      match map.find? key with
      | none => .absent
      | some entry => if entry.isExpired now then .expired else .live entry.value :=
  rfl

theorem get_fst (map : ExpiringMap) (now : Instant) (key : String) :
    (map.get now key).1 = (map.live? now key).map Entry.value := by
  cases found : map.find? key with
  | none => simp [get, live?, look_eq, found]
  | some entry =>
      cases expired : entry.isExpired now <;>
        simp [get, live?, settle, look_eq, found, expired, Option.filter]

theorem find?_get (map : ExpiringMap) (now : Instant) (key other : String) :
    (map.get now key).2.find? other =
      if other = key then map.live? now key else map.find? other := by
  cases found : map.find? key with
  | none =>
      by_cases same : other = key <;> simp [get, live?, look_eq, found, same]
  | some entry =>
      cases expired : entry.isExpired now <;> by_cases same : other = key <;>
        simp [get, live?, settle, look_eq, found, expired, same, Option.filter, find?_erase]

/-- A look-up leaves the map as it is, unless it has found an expired entry. -/
theorem get_snd (map : ExpiringMap) (now : Instant) (key : String) :
    (map.get now key).2 = map ∨
      ∃ entry, map.find? key = some entry ∧ entry.isExpired now = true ∧
        (map.get now key).2 = map.erase key := by
  cases found : map.find? key with
  | none => simp [get, look_eq, found]
  | some entry =>
      cases expired : entry.isExpired now <;> simp [get, settle, look_eq, found, expired]

theorem get_snd_of_live? (live : map.live? now key = some entry) : (map.get now key).2 = map := by
  obtain ⟨found, running⟩ := live?_eq_some_iff.mp live
  simp [get, look_eq, found, running]

theorem find?_sweep (map : ExpiringMap) (now : Instant) (key : String) :
    (map.sweep now).2.find? key = map.live? now key := by
  simp [sweep, live?]

/-- What a sweep removes, it counts. -/
theorem exists_swept (map : ExpiringMap) (now : Instant) :
    ∃ gone : List String, gone.Nodup ∧ (map.sweep now).1 = gone.length ∧
      ∀ key, key ∈ gone ↔ ∃ entry, map.find? key = some entry ∧ entry.isExpired now = true := by
  have parts := List.length_eq_length_filter_add (l := map.entries)
    fun stored => stored.2.isExpired now
  refine ⟨(map.entries.filter fun stored => stored.2.isExpired now).map Prod.fst,
    (List.Sublist.map Prod.fst List.filter_sublist).nodup map.distinct, ?_, fun key => ?_⟩
  · have count : (map.sweep now).1 = map.entries.length -
        (map.entries.filter fun stored => !stored.2.isExpired now).length := rfl
    rw [count, List.length_map]
    omega
  · simp [find?_eq_some_iff]

end ExpiringMap

end SessionGate
