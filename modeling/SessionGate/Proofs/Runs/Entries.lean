import SessionGate.Proofs.Runs.Act
import SessionGate.Proofs.Sessions.History
import SessionGate.Proofs.Store.Term

/-!
# The store of entries and its history

What a store of entries answers is settled by what has been done to it and when. A key has the
value last written to it, until it is removed or an act finds that its term is over. The store holds
exactly the entries that stand in its history, those included whose term is over and that nothing
has found yet.
-/

namespace SessionGate

open Time

/-- What an act means for the entry of a key. A look removes the entry if its term is over. -/
inductive Effect where
  | writes (value : Octets) (lifetime : Option Lifetime)
  | removes
  | looks
  | leaves

/-- The effect on a key of work on a target. -/
def Effect.on (effect : Effect) (target key : String) : Effect :=
  if target = key then effect else .leaves

/-- The effect on a key of work on the session of a token, which is refused if the token is
blank. -/
def Effect.onToken (effect : Effect) (token key : String) : Effect :=
  if token.isEmpty then .leaves else effect.on token key

namespace Act

def effect (key : String) : Act → Effect
  | .setEntry target value lifetime => (Effect.writes value lifetime).on target key
  | .getEntry target => Effect.looks.on target key
  | .deleteEntry target => Effect.removes.on target key
  | .putSession token identity lifetime =>
      (Effect.writes identity.encode (some lifetime)).onToken token key
  | .getSession token => Effect.looks.onToken token key
  | .deleteSession token => Effect.removes.onToken token key
  | .made .sweep => .looks
  | _ => .leaves

/-- The act is a sweep, a move of the clock or work on the stores themselves: neither a call on the
session rules nor a request. -/
def IsDirect : Act → Prop
  | .made .sweep => True
  | .made _ | .requested _ _ _ => False
  | _ => True

end Act

/-- Something that has been done, and when. -/
structure Timed where
  time : Instant
  act : Act

/-- The acts of a run, each with what the clock showed before it. -/
def timeline (now : Instant) : List Act → List Timed
  | [] => []
  | act :: acts => ⟨now, act⟩ :: timeline (act.clock now) acts

namespace Timed

/-- A value was written to the key for a term that does not end beyond the range of instants. -/
structure Writes (timed : Timed) (key : String) (value : Octets) (term : Term) : Prop where
  time : timed.time = term.start
  effect : timed.act.effect key = .writes value term.lifetime
  inRange : term.InRange

/-- A value that the key had for a term is still there: nothing else was written, and if somebody
looked then the term was running. -/
def Spares (timed : Timed) (key : String) (term : Term) : Prop :=
  match timed.act.effect key with
  | .writes _ lifetime => ¬ Term.InRange ⟨timed.time, lifetime⟩
  | .removes => False
  | .looks => term.Runs timed.time
  | .leaves => True

end Timed

/-- In the history a value has been written to the key for a term, and whatever was done since has
spared it. -/
def Stands (history : List Timed) (key : String) (value : Octets) (term : Term) : Prop :=
  ∃ before writing after, history = before ++ writing :: after ∧ writing.Writes key value term ∧
    ∀ timed ∈ after, timed.Spares key term

theorem Timed.writes_iff {timed : Timed} {key : String} {written value : Octets}
    {lifetime : Option Lifetime} {term : Term}
    (effect : timed.act.effect key = .writes written lifetime) :
    timed.Writes key value term ↔
      value = written ∧ term = ⟨timed.time, lifetime⟩ ∧ term.InRange := by
  constructor
  · rintro ⟨time, other, inRange⟩
    obtain ⟨rfl, rfl⟩ := Effect.writes.inj (effect.symm.trans other)
    exact ⟨rfl, by rw [time], inRange⟩
  · rintro ⟨rfl, rfl, inRange⟩
    exact ⟨rfl, effect, inRange⟩

theorem stands_append_iff {history : List Timed} {last : Timed} {key : String} {value : Octets}
    {term : Term} :
    Stands (history ++ [last]) key value term ↔
      last.Writes key value term ∨ (Stands history key value term ∧ last.Spares key term) :=
  exists_split_append_iff

theorem stands_append_of_not_writes {history : List Timed} {last : Timed} {key : String}
    (quiet : ∀ written lifetime, last.act.effect key ≠ .writes written lifetime) (value : Octets)
    (term : Term) :
    Stands (history ++ [last]) key value term ↔
      Stands history key value term ∧ last.Spares key term := by
  rw [stands_append_iff, or_iff_right]
  exact fun writes => quiet _ _ writes.effect

theorem Stands.exists_writes {history : List Timed} {key : String} {value : Octets} {term : Term}
    (stands : Stands history key value term) : ∃ timed ∈ history, timed.Writes key value term := by
  obtain ⟨before, writing, after, rfl, writes, -⟩ := stands
  exact ⟨writing, by simp, writes⟩

/-! ## What acts make of entries -/

/-- What an effect makes of the entry of a key. -/
def Effect.leave (now : Instant) (stored : Option Entry) : Effect → Option Entry
  | .writes value lifetime =>
      match ExpiringMap.expiry now lifetime with
      | .ok expires => some ⟨value, expires⟩
      | .error _ => stored
  | .removes => none
  | .looks => stored.filter fun entry => !entry.isExpired now
  | .leaves => stored

namespace World

theorem find?_setEntry (target : String) (value : Octets) (lifetime : Option Lifetime)
    (world : World) (key : String) :
    (world.setEntry target value lifetime).2.sessions.find? key =
      ((Effect.writes value lifetime).on target key).leave world.now
        (world.sessions.find? key) := by
  rw [setEntry, ExpiringMap.set, Effect.on]
  cases set : ExpiringMap.expiry world.now lifetime <;> by_cases same : target = key
  · simp [Except.map, Effect.leave, set, same]
  · simp [Except.map, Effect.leave, same]
  · simp [Except.map, Effect.leave, set, ExpiringMap.find?_insert, same]
  · simp [Except.map, Effect.leave, ExpiringMap.find?_insert, same, Ne.symm same]

theorem find?_getEntry (target : String) (world : World) (key : String) :
    (world.getEntry target).2.sessions.find? key =
      (Effect.looks.on target key).leave world.now (world.sessions.find? key) := by
  change (world.sessions.get world.now target).2.find? key = _
  rw [ExpiringMap.find?_get, Effect.on]
  by_cases same : target = key
  · simp [same, Effect.leave, ExpiringMap.live?]
  · simp [same, Ne.symm same, Effect.leave]

theorem find?_deleteEntry (target : String) (world : World) (key : String) :
    (world.deleteEntry target).2.sessions.find? key =
      (Effect.removes.on target key).leave world.now (world.sessions.find? key) := by
  change (world.sessions.erase target).find? key = _
  rw [ExpiringMap.find?_erase, Effect.on]
  by_cases same : target = key
  · simp [same, Effect.leave]
  · simp [same, Ne.symm same, Effect.leave]

theorem find?_putSession (token : String) (identity : Identity) (lifetime : Lifetime)
    (world : World) (key : String) :
    (world.putSession token identity lifetime).2.sessions.find? key =
      ((Effect.writes identity.encode (some lifetime)).onToken token key).leave world.now
        (world.sessions.find? key) := by
  cases blank : token.isEmpty with
  | true => simp [putSession_of_blank, Effect.onToken, Effect.leave, blank]
  | false =>
      have same := congrArg Core.sessions (core_putSession blank identity lifetime world)
      change (world.putSession token identity lifetime).2.sessions = _ at same
      simp only [same, Effect.onToken, blank, Bool.false_eq_true, if_false]
      exact find?_setEntry token identity.encode (some lifetime) world key

theorem find?_getSession (token : String) (world : World) (key : String) :
    (world.getSession token).2.sessions.find? key =
      (Effect.looks.onToken token key).leave world.now (world.sessions.find? key) := by
  cases blank : token.isEmpty with
  | true => simp [getSession_of_blank, Effect.onToken, Effect.leave, blank]
  | false =>
      simp only [getSession_of_notBlank blank, Effect.onToken, blank, Bool.false_eq_true, if_false]
      exact find?_getEntry token world key

theorem find?_deleteSession (token : String) (world : World) (key : String) :
    (world.deleteSession token).2.sessions.find? key =
      (Effect.removes.onToken token key).leave world.now (world.sessions.find? key) := by
  cases blank : token.isEmpty with
  | true => simp [deleteSession_of_blank, Effect.onToken, Effect.leave, blank]
  | false =>
      have same := congrArg Core.sessions (core_deleteSession blank world)
      change (world.deleteSession token).2.sessions = _ at same
      simp only [same, Effect.onToken, blank, Bool.false_eq_true, if_false]
      exact find?_deleteEntry token world key

/-- What direct work does to the entry of a key is told by its effect on the key. -/
theorem find?_perform {act : Act} (direct : act.IsDirect) (world : World) (key : String) :
    (act.perform world).2.sessions.find? key =
      (act.effect key).leave world.now (world.sessions.find? key) := by
  cases act with
  | made call =>
      cases call with
      | sweep => exact world.sessions.find?_sweep world.now key
      | _ => exact direct.elim
  | requested router manager request => exact direct.elim
  | setEntry target value lifetime => exact find?_setEntry target value lifetime world key
  | getEntry target => exact find?_getEntry target world key
  | deleteEntry target => exact find?_deleteEntry target world key
  | putSession token identity lifetime => exact find?_putSession token identity lifetime world key
  | getSession token => exact find?_getSession token world key
  | deleteSession token => exact find?_deleteSession token world key
  | findUser email =>
      simp only [Act.perform, findUser]
      cases world.users.find? email <;> rfl
  | insertUser row =>
      simp only [Act.perform, insertUser]
      cases world.users.insert row <;> rfl
  | setRole id role =>
      simp only [Act.perform, setRole]
      cases world.users.setRole id role <;> rfl
  | countEntries | setClock now => rfl
  | advance span =>
      simp only [Act.perform, advance]
      cases world.now.add? span <;> rfl

end World

/-! ## What histories explain -/

/-- The world's entries are those that stand in the history, and no leap second has come. -/
structure World.Recalls (world : World) (history : List Timed) : Prop where
  plain : world.now.isLeap = false
  timesPlain : ∀ timed ∈ history, timed.time.isLeap = false
  entries : ∀ key entry, world.sessions.find? key = some entry ↔
    ∃ term, Stands history key entry.value term ∧
      ExpiringMap.expiry term.start term.lifetime = .ok entry.expires

namespace World.Recalls

variable {world : World} {history : List Timed} {last : Timed} {act : Act} {key : String}
  {value : Octets} {term : Term}

theorem nil {now : Instant} (plain : now.isLeap = false) (salts : Nat → Salt)
    (tokens : Nat → TokenBytes) : (World.start now salts tokens).Recalls [] where
  plain := plain
  timesPlain _ member := nomatch member
  entries key entry := by
    constructor
    · nofun
    · rintro ⟨term, stands, -⟩
      obtain ⟨timed, member, -⟩ := stands.exists_writes
      cases member

theorem start_isLeap (recalls : world.Recalls history) (stands : Stands history key value term) :
    term.start.isLeap = false := by
  obtain ⟨timed, member, writes⟩ := stands.exists_writes
  rw [← writes.time]
  exact recalls.timesPlain timed member

theorem exists_expiry (recalls : world.Recalls history) (stands : Stands history key value term) :
    ∃ expires, ExpiringMap.expiry term.start term.lifetime = .ok expires := by
  obtain ⟨timed, -, writes⟩ := stands.exists_writes
  exact (ExpiringMap.exists_expiry_iff (recalls.start_isLeap stands)).mpr writes.inRange

theorem isExpired_eq_false_iff (recalls : world.Recalls history) {entry : Entry}
    (stands : Stands history key entry.value term)
    (set : ExpiringMap.expiry term.start term.lifetime = .ok entry.expires) :
    entry.isExpired world.now = false ↔ term.Runs world.now :=
  ExpiringMap.isExpired_eq_false_iff (recalls.start_isLeap stands) set recalls.plain

/-- The entry of a key is live exactly while its term runs. -/
theorem live?_eq_some_iff (recalls : world.Recalls history) {entry : Entry} :
    world.sessions.live? world.now key = some entry ↔
      ∃ term, Stands history key entry.value term ∧ term.Runs world.now ∧
        ExpiringMap.expiry term.start term.lifetime = .ok entry.expires := by
  rw [ExpiringMap.live?_eq_some_iff, recalls.entries]
  constructor
  · rintro ⟨⟨term, stands, set⟩, running⟩
    exact ⟨term, stands, (recalls.isExpired_eq_false_iff stands set).mp running, set⟩
  · rintro ⟨term, stands, running, set⟩
    exact ⟨⟨term, stands, set⟩, (recalls.isExpired_eq_false_iff stands set).mpr running⟩

private theorem entries_of_writes (recalls : world.Recalls history) (here : last.time = world.now)
    {written : Octets} {lifetime : Option Lifetime}
    (effect : last.act.effect key = .writes written lifetime) (entry : Entry) :
    (Effect.writes written lifetime).leave world.now (world.sessions.find? key) = some entry ↔
      ∃ term, Stands (history ++ [last]) key entry.value term ∧
        ExpiringMap.expiry term.start term.lifetime = .ok entry.expires := by
  have reach : (∃ expires, ExpiringMap.expiry world.now lifetime = .ok expires) ↔
      Term.InRange ⟨world.now, lifetime⟩ := ExpiringMap.exists_expiry_iff recalls.plain
  have spares (term : Term) :
      last.Spares key term ↔ ¬ Term.InRange ⟨world.now, lifetime⟩ := by
    rw [Timed.Spares, effect, here]
  simp only [stands_append_iff, Timed.writes_iff effect, spares, here]
  rw [Effect.leave]
  cases set : ExpiringMap.expiry world.now lifetime with
  | error error =>
      -- A write out of range neither begins an entry nor ends one.
      have outOfRange : ¬ Term.InRange ⟨world.now, lifetime⟩ := by
        rw [← reach, set]
        exact fun reached => nomatch reached.choose_spec
      apply (recalls.entries key entry).trans
      refine exists_congr fun term => and_congr_left fun _ => ?_
      constructor
      · intro stands
        exact .inr ⟨stands, outOfRange⟩
      · rintro (⟨-, rfl, inRange⟩ | ⟨stands, -⟩)
        · exact absurd inRange outOfRange
        · exact stands
  | ok expires =>
      have inRange := reach.mp ⟨expires, set⟩
      constructor
      · intro same
        rw [← Option.some.inj same]
        exact ⟨⟨world.now, lifetime⟩, .inl ⟨rfl, rfl, inRange⟩, set⟩
      · rintro ⟨term, ⟨value, rfl, -⟩ | ⟨-, outOfRange⟩, termSet⟩
        · rw [← value, Except.ok.inj (set.symm.trans termSet)]
        · exact absurd inRange outOfRange

/-- What the history says of a key stays true with every act. -/
theorem entries_append (recalls : world.Recalls history) (here : last.time = world.now)
    (key : String) (entry : Entry) :
    (last.act.effect key).leave world.now (world.sessions.find? key) = some entry ↔
      ∃ term, Stands (history ++ [last]) key entry.value term ∧
        ExpiringMap.expiry term.start term.lifetime = .ok entry.expires := by
  have unwritten (quiet : ∀ written lifetime, last.act.effect key ≠ .writes written lifetime)
      (term : Term) : Stands (history ++ [last]) key entry.value term ↔
        Stands history key entry.value term ∧ last.Spares key term :=
    stands_append_of_not_writes quiet entry.value term
  cases effect : last.act.effect key with
  | writes written lifetime => exact recalls.entries_of_writes here effect entry
  | removes =>
      simp [unwritten (by simp [effect]), Effect.leave, Timed.Spares, effect]
  | looks =>
      simp only [unwritten (by simp [effect]), Timed.Spares, effect, here]
      apply recalls.live?_eq_some_iff.trans
      simp only [and_assoc]
  | leaves =>
      simp only [unwritten (by simp [effect]), Timed.Spares, effect, and_true]
      exact recalls.entries key entry

theorem perform (recalls : world.Recalls history) (direct : act.IsDirect)
    (actPlain : act.IsPlain) :
    (act.perform world).2.Recalls (history ++ [⟨world.now, act⟩]) where
  plain := by
    rw [perform_now]
    exact Act.clock_isLeap actPlain recalls.plain
  timesPlain timed member := by
    rcases List.mem_append.mp member with earlier | last
    · exact recalls.timesPlain timed earlier
    · obtain rfl := List.mem_singleton.mp last
      exact recalls.plain
  entries key entry := by
    have here : Timed.time ⟨world.now, act⟩ = world.now := rfl
    rw [find?_perform direct]
    exact recalls.entries_append here key entry

/-- What the history says stays true in a run. -/
theorem enact (recalls : world.Recalls history) {acts : List Act}
    (direct : ∀ act ∈ acts, act.IsDirect ∧ act.IsPlain) :
    (world.enact acts).Recalls (history ++ timeline world.now acts) := by
  -- Acts are taken from the front, while the history grows at its end.
  induction acts generalizing world history with
  | nil =>
      rw [timeline, List.append_nil]
      exact recalls
  | cons act acts ih =>
      obtain ⟨isDirect, isPlain⟩ := direct act List.mem_cons_self
      have later := ih (recalls.perform isDirect isPlain) fun other member =>
        direct other (List.mem_cons_of_mem _ member)
      rwa [perform_now, List.append_assoc] at later

theorem getEntry_eq_some_iff (recalls : world.Recalls history) (key : String) (value : Octets) :
    (world.getEntry key).1 = some value ↔
      ∃ term, Stands history key value term ∧ term.Runs world.now := by
  change (world.sessions.get world.now key).1 = some value ↔ _
  rw [ExpiringMap.get_fst, Option.map_eq_some_iff]
  constructor
  · rintro ⟨entry, live, rfl⟩
    obtain ⟨term, stands, running, -⟩ := recalls.live?_eq_some_iff.mp live
    exact ⟨term, stands, running⟩
  · rintro ⟨term, stands, running⟩
    obtain ⟨expires, set⟩ := recalls.exists_expiry stands
    exact ⟨⟨value, expires⟩, recalls.live?_eq_some_iff.mpr ⟨term, stands, running, set⟩, rfl⟩

theorem exists_entry_iff (recalls : world.Recalls history) (key : String) (value : Octets) :
    (∃ expires, world.sessions.find? key = some ⟨value, expires⟩) ↔
      ∃ term, Stands history key value term := by
  simp only [recalls.entries]
  constructor
  · rintro ⟨expires, term, stands, -⟩
    exact ⟨term, stands⟩
  · rintro ⟨term, stands⟩
    obtain ⟨expires, set⟩ := recalls.exists_expiry stands
    exact ⟨expires, term, stands, set⟩

theorem exists_expired_iff (recalls : world.Recalls history) (key : String) :
    (∃ entry, world.sessions.find? key = some entry ∧ entry.isExpired world.now = true) ↔
      ∃ value term, Stands history key value term ∧ ¬ term.Runs world.now := by
  simp only [recalls.entries, ← Bool.not_eq_false]
  constructor
  · rintro ⟨entry, ⟨term, stands, set⟩, expired⟩
    rw [recalls.isExpired_eq_false_iff stands set] at expired
    exact ⟨entry.value, term, stands, expired⟩
  · rintro ⟨value, term, stands, ended⟩
    obtain ⟨expires, set⟩ := recalls.exists_expiry stands
    refine ⟨⟨value, expires⟩, ⟨term, stands, set⟩, ?_⟩
    rwa [recalls.isExpired_eq_false_iff stands set]

end World.Recalls

namespace World

theorem setEntry_of_error {key : String} {value : Octets} {lifetime : Option Lifetime}
    {error : AuthError} {world : World}
    (refused : (world.setEntry key value lifetime).1 = .error error) :
    (world.setEntry key value lifetime).2 = world := by
  rw [setEntry] at refused ⊢
  cases set : world.sessions.set world.now key value lifetime with
  | error error => rfl
  | ok sessions =>
      rw [set] at refused
      cases refused

theorem exists_setEntry_error_iff {world : World} (plain : world.now.isLeap = false) (key : String)
    (value : Octets) (lifetime : Option Lifetime) :
    (∃ error, (world.setEntry key value lifetime).1 = .error error) ↔
      ∃ length, lifetime = some length ∧ latest < world.now.nanos + length.nanos := by
  have reach : (∃ expires, ExpiringMap.expiry world.now lifetime = .ok expires) ↔
      Term.InRange ⟨world.now, lifetime⟩ := ExpiringMap.exists_expiry_iff plain
  have outOfRange : ¬ Term.InRange ⟨world.now, lifetime⟩ ↔
      ∃ length, lifetime = some length ∧ latest < world.now.nanos + length.nanos := by
    simp [Term.InRange]
  rw [← outOfRange, ← reach, setEntry, ExpiringMap.set]
  cases ExpiringMap.expiry world.now lifetime <;> simp [Except.map]

/-- Direct work that leaves a key alone. -/
theorem find?_perform_of_leaves {act : Act} {key : String} (direct : act.IsDirect)
    (apart : act.effect key = .leaves) (world : World) :
    (act.perform world).2.sessions.find? key = world.sessions.find? key := by
  rw [find?_perform direct, apart, Effect.leave]

/-- The store of entries does what its history asks. -/
structure FollowsHistory (world : World) (history : List Timed) : Prop where
  /-- The value of a key is the one that stands in the history, if its term runs. -/
  found : ∀ key value, (world.getEntry key).1 = some value ↔
    ∃ term, Stands history key value term ∧ term.Runs world.now
  /-- What stands in the history is in the store, even when its term is over. -/
  held : ∀ key value, (∃ expires, world.sessions.find? key = some ⟨value, expires⟩) ↔
    ∃ term, Stands history key value term
  /-- A sweep removes what stands and whose term is over, and counts it. -/
  swept : ∃ gone : List String, gone.Nodup ∧ world.sweep.1 = gone.length ∧
    (∀ key, key ∈ gone ↔ ∃ value term, Stands history key value term ∧ ¬ term.Runs world.now) ∧
    ∀ key, world.sweep.2.sessions.find? key =
      if key ∈ gone then none else world.sessions.find? key
  /-- An entry cannot be set for a lifetime that ends beyond the range of instants. -/
  refused : ∀ key value lifetime,
    (∃ error, (world.setEntry key value lifetime).1 = .error error) ↔
      ∃ length, lifetime = some length ∧ latest < world.now.nanos + length.nanos
  unharmed : ∀ key value lifetime error,
    (world.setEntry key value lifetime).1 = .error error →
      (world.setEntry key value lifetime).2 = world
  /-- An entry that is set takes the place of any other, with a term of its own. -/
  replaced : ∀ key value lifetime, (world.setEntry key value lifetime).1 = .ok () →
    ∀ later : Instant, later.isLeap = false → ∀ other,
      (((world.setEntry key value lifetime).2.setClock later).getEntry key).1 = some other ↔
        other = value ∧ Term.Runs ⟨world.now, lifetime⟩ later
  blank : ∀ token : String, token.isEmpty = true → ∀ identity lifetime,
    world.putSession token identity lifetime = (.error .invalidToken, world) ∧
      world.getSession token = (.error .invalidToken, world) ∧
      world.deleteSession token = (.error .invalidToken, world)
  /-- Any other token is a key, and its entry tells an identity. -/
  tokens : ∀ token : String, token.isEmpty = false → ∀ identity lifetime,
    ((world.putSession token identity lifetime).1 =
        (world.setEntry token identity.encode (some lifetime)).1 ∧
      (world.putSession token identity lifetime).2.core =
        (world.setEntry token identity.encode (some lifetime)).2.core) ∧
    world.getSession token =
      (Core.identityOf (world.getEntry token).1, (world.getEntry token).2) ∧
    (world.deleteSession token).1 = .ok () ∧
      (world.deleteSession token).2.core = (world.deleteEntry token).2.core
  /-- Work on one key leaves all others alone. -/
  apart : ∀ act : Act, act.IsDirect → ∀ key, act.effect key = .leaves →
    (act.perform world).2.sessions.find? key = world.sessions.find? key

/-- An entry that has been set is found while its own term runs, whatever was there before. -/
theorem Recalls.setEntry_getEntry {world : World} {history : List Timed}
    (recalls : world.Recalls history) {key : String} {value other : Octets}
    {lifetime : Option Lifetime} {later : Instant} (plain : later.isLeap = false)
    (set : (world.setEntry key value lifetime).1 = .ok ()) :
    (((world.setEntry key value lifetime).2.setClock later).getEntry key).1 = some other ↔
      other = value ∧ Term.Runs ⟨world.now, lifetime⟩ later := by
  have inRange : Term.InRange ⟨world.now, lifetime⟩ := by
    by_contra outOfRange
    obtain ⟨error, refused⟩ := (exists_setEntry_error_iff recalls.plain key value lifetime).mpr
      (by simpa [Term.InRange] using outOfRange)
    cases set.symm.trans refused
  have setDirect : (Act.setEntry key value lifetime).IsDirect := trivial
  have clockDirect : (Act.setClock later).IsDirect := trivial
  have moved := (recalls.perform setDirect trivial).perform clockDirect plain
  have effect : (Timed.mk world.now (.setEntry key value lifetime)).act.effect key =
      .writes value lifetime := if_pos rfl
  apply (moved.getEntry_eq_some_iff key other).trans
  constructor
  · rintro ⟨term, stands, running⟩
    obtain ⟨earlier, -⟩ := (stands_append_of_not_writes (by simp [Act.effect]) other term).mp stands
    obtain writes | ⟨-, spares⟩ := stands_append_iff.mp earlier
    · obtain ⟨rfl, rfl, -⟩ := (Timed.writes_iff effect).mp writes
      exact ⟨rfl, running⟩
    · rw [Timed.Spares, effect] at spares
      exact absurd inRange spares
  · rintro ⟨rfl, running⟩
    have writes := (Timed.writes_iff effect).mpr ⟨rfl, rfl, inRange⟩
    exact ⟨_, stands_append_iff.mpr (.inr ⟨stands_append_iff.mpr (.inl writes), trivial⟩), running⟩

theorem Recalls.followsHistory {world : World} {history : List Timed}
    (recalls : world.Recalls history) : world.FollowsHistory history where
  found := recalls.getEntry_eq_some_iff
  held := recalls.exists_entry_iff
  swept := by
    obtain ⟨gone, distinct, count, member⟩ := world.sessions.exists_swept world.now
    refine ⟨gone, distinct, count, fun key => ?_, fun key => ?_⟩
    · rw [member, recalls.exists_expired_iff]
    · change (world.sessions.sweep world.now).2.find? key = _
      rw [ExpiringMap.find?_sweep, ExpiringMap.live?]
      cases found : world.sessions.find? key with
      | none => simp
      | some entry => cases expired : entry.isExpired world.now <;> simp [member, found, expired]
  refused := exists_setEntry_error_iff recalls.plain
  unharmed _ _ _ _ := setEntry_of_error
  replaced _ _ _ set _ plain _ := recalls.setEntry_getEntry plain set
  blank _ blank identity lifetime :=
    ⟨putSession_of_blank blank identity lifetime world, getSession_of_blank blank world,
      deleteSession_of_blank blank world⟩
  tokens _ notBlank identity lifetime :=
    ⟨⟨putSession_fst notBlank identity lifetime world,
        core_putSession notBlank identity lifetime world⟩,
      getSession_of_notBlank notBlank world, deleteSession_fst notBlank world,
      core_deleteSession notBlank world⟩
  apart _ direct _ left := find?_perform_of_leaves direct left world

/-- The store of entries is a map whose entries expire. After any run of sets, look-ups, deletions
and sweeps, through tokens or not, under a clock that moves both ways, it follows its history. -/
theorem enact_followsHistory {now : Instant} (plain : now.isLeap = false) (salts : Nat → Salt)
    (tokens : Nat → TokenBytes) {acts : List Act}
    (direct : ∀ act ∈ acts, act.IsDirect ∧ act.IsPlain) :
    ((start now salts tokens).enact acts).FollowsHistory (timeline now acts) :=
  ((Recalls.nil plain salts tokens).enact direct).followsHistory

/-- An entry that nobody has looked at since its term was over is found again once the clock has
gone back. -/
theorem found_after_clock_went_back :
    (((start .epoch (fun _ => .replicate 8 0) fun _ => .replicate 32 0).enact
      [.setEntry "k" [7] (some ⟨1000000000, by decide⟩), .advance .day,
        .setEntry "k" [8] (some ⟨10000000000000000000000000, by decide⟩),
        .setClock .epoch]).getEntry "k").1 = some [7] := by
  have direct : ∀ act ∈ ([.setEntry "k" [7] (some ⟨1000000000, by decide⟩), .advance .day,
      .setEntry "k" [8] (some ⟨10000000000000000000000000, by decide⟩), .setClock .epoch] :
        List Act), act.IsDirect ∧ act.IsPlain := by
    simp [Act.IsDirect, Act.IsPlain, Instant.isLeap, Instant.epoch]
  have tooLong : ¬ Term.InRange ⟨(Instant.epoch.add? .day).getD .epoch,
      some ⟨10000000000000000000000000, by decide⟩⟩ := by decide
  refine ((enact_followsHistory (by decide) _ _ direct).found "k" [7]).mpr
    ⟨⟨.epoch, some ⟨1000000000, by decide⟩⟩, ⟨[], _, _, rfl, ⟨rfl, rfl, by decide⟩, ?_⟩, by decide⟩
  rintro timed (_ | ⟨_, _ | ⟨_, _ | ⟨_, last⟩⟩⟩)
  · trivial
  · exact tooLong
  · trivial
  · cases last

end World

end SessionGate
