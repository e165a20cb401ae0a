import SessionGate.Errors
import SessionGate.Time.Instant

/-!
# Entries that expire

A map from keys to bytes in which an entry may have an end. From that instant on the entry is as
good as absent. It goes when it is looked up, in two steps: a look at the map, and, where the
look found an expired entry, a second look that removes it unless it has been replaced.
-/

namespace SessionGate

open Time

/-- A value, and when it expires. -/
structure Entry where
  value : Octets
  expires : Option Instant
  deriving DecidableEq

def Entry.isExpired (entry : Entry) (now : Instant) : Bool :=
  match entry.expires with
  | none => false
  | some expires => expires ≤ now

/-- Entries under distinct keys. -/
structure ExpiringMap where
  entries : List (String × Entry)
  distinct : (entries.map Prod.fst).Nodup

namespace ExpiringMap

instance : DecidableEq ExpiringMap := fun left right =>
  if same : left.entries = right.entries then
    .isTrue (by cases left; cases right; cases same; rfl)
  else .isFalse fun equal => same (by rw [equal])

def empty : ExpiringMap := ⟨[], List.nodup_nil⟩

/-- The number of entries, expired ones included. -/
def size (map : ExpiringMap) : Nat :=
  map.entries.length

/-- The entry of a key, expired or not. -/
def find? (map : ExpiringMap) (key : String) : Option Entry :=
  map.entries.lookup key

def filter (map : ExpiringMap) (keep : String → Entry → Bool) : ExpiringMap :=
  ⟨map.entries.filter fun (key, entry) => keep key entry,
    (List.Sublist.map Prod.fst List.filter_sublist).nodup map.distinct⟩

def erase (map : ExpiringMap) (key : String) : ExpiringMap :=
  map.filter fun present _ => present != key

/-- The map with an entry for a key, in place of any other. -/
def insert (map : ExpiringMap) (key : String) (entry : Entry) : ExpiringMap :=
  ⟨(key, entry) :: (map.erase key).entries, by
    rw [List.map_cons, List.nodup_cons]
    refine ⟨fun member => ?_, (map.erase key).distinct⟩
    obtain ⟨⟨present, other⟩, inside, same⟩ := List.mem_map.mp member
    have kept := (List.mem_filter.mp inside).2
    simp only [bne_iff_ne] at kept
    exact kept same⟩

/-- When an entry set now for a lifetime expires. -/
def expiry (now : Instant) : Option Lifetime → Except AuthError (Option Instant)
  | none => .ok none
  | some lifetime =>
      match lifetime.toSpan? with
      | none => .error (.internal .lifetimeTooLong)
      | some span =>
          match now.add? span with
          | none => .error (.internal .entryExpiryOutOfRange)
          | some expires => .ok (some expires)

/-- Set a key, for a lifetime or for ever. -/
def set (map : ExpiringMap) (now : Instant) (key : String) (value : Octets)
    (lifetime : Option Lifetime) : Except AuthError ExpiringMap :=
  (expiry now lifetime).map fun expires => map.insert key ⟨value, expires⟩

/-- What a look at a key finds. -/
inductive Look where
  | absent
  | live (value : Octets)
  | expired
  deriving DecidableEq

/-- Look at a key without changing anything. -/
def look (map : ExpiringMap) (now : Instant) (key : String) : Look :=
  match map.find? key with
  | none => .absent
  | some entry => if entry.isExpired now then .expired else .live entry.value

/-- Look again at a key whose entry was found expired: remove it if it still is, or return the
value that has replaced it. -/
def settle (map : ExpiringMap) (now : Instant) (key : String) : Option Octets × ExpiringMap :=
  match map.look now key with
  | .absent => (none, map)
  | .live value => (some value, map)
  | .expired => (none, map.erase key)

/-- The value of a key. An expired entry is removed. -/
def get (map : ExpiringMap) (now : Instant) (key : String) : Option Octets × ExpiringMap :=
  match map.look now key with
  | .absent => (none, map)
  | .live value => (some value, map)
  | .expired => map.settle now key

/-- Remove a key, and tell whether it was there, expired or not. -/
def delete (map : ExpiringMap) (key : String) : Bool × ExpiringMap :=
  ((map.find? key).isSome, map.erase key)

/-- Remove all expired entries, and count them. -/
def sweep (map : ExpiringMap) (now : Instant) : Nat × ExpiringMap :=
  let kept := map.filter fun _ entry => !entry.isExpired now
  (map.size - kept.size, kept)

end ExpiringMap

end SessionGate
