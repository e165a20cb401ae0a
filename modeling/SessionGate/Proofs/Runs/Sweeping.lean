import SessionGate.Proofs.Runs.Act

/-!
# Sweeping shows nowhere

Two cores are alike when they differ only in entries that have expired. No question tells alike
cores apart, and so no program does. A sweep leaves a core alike, and so does time that passes: a
clock that never goes backward brings no expired entry back. Runs with sweeps and without answer
the same.
-/

namespace SessionGate

open Time

theorem Entry.isExpired_of_le {entry : Entry} {now later : Instant}
    (expired : entry.isExpired now = true) (order : now ≤ later) :
    entry.isExpired later = true := by
  obtain ⟨value, expires⟩ := entry
  cases expires with
  | none => exact expired
  | some expires =>
      simp only [isExpired, decide_eq_true_eq] at expired ⊢
      exact Instant.le_trans expired order

namespace ExpiringMap

variable {map : ExpiringMap} {key other : String} {entry : Entry} {now later : Instant}

/-- What is live later is live now. -/
theorem live?_of_le (map : ExpiringMap) (order : now ≤ later) (key : String) :
    map.live? later key = (map.live? now key).filter fun entry => !entry.isExpired later := by
  rw [live?, live?, Option.filter_filter]
  congr 1
  funext entry
  cases expired : entry.isExpired now with
  | false => simp
  | true => simp [Entry.isExpired_of_le expired order]

theorem live?_insert (map : ExpiringMap) (key : String) (entry : Entry) (now : Instant)
    (other : String) :
    (map.insert key entry).live? now other =
      if other = key then (some entry).filter fun entry => !entry.isExpired now
      else map.live? now other := by
  rw [live?, find?_insert]
  split <;> rfl

theorem live?_erase (map : ExpiringMap) (key : String) (now : Instant) (other : String) :
    (map.erase key).live? now other = if other = key then none else map.live? now other := by
  rw [live?, find?_erase]
  split <;> rfl

theorem live?_filter_live (map : ExpiringMap) (now : Instant) (key : String) :
    (map.live? now key).filter (fun entry => !entry.isExpired now) = map.live? now key := by
  simp [live?, Option.filter_filter]

theorem live?_get (map : ExpiringMap) (now : Instant) (key other : String) :
    (map.get now key).2.live? now other = map.live? now other := by
  rw [live?, find?_get]
  split
  · rename_i same
    rw [same, live?_filter_live]
  · rfl

theorem live?_sweep (map : ExpiringMap) (now : Instant) (key : String) :
    (map.sweep now).2.live? now key = map.live? now key := by
  rw [live?, find?_sweep, live?_filter_live]

/-- Nothing that a sweep leaves would go in another one at the same instant. -/
theorem sweep_sweep (map : ExpiringMap) (now : Instant) :
    (map.sweep now).2.sweep now = (0, (map.sweep now).2) := by
  have same : ((map.sweep now).2.sweep now).2 = (map.sweep now).2 := by
    simp [sweep, filter, List.filter_filter]
  have count : ((map.sweep now).2.sweep now).1 =
      (map.sweep now).2.size - ((map.sweep now).2.sweep now).2.size := rfl
  rw [same, Nat.sub_self] at count
  exact Prod.ext count same

end ExpiringMap

namespace Core

/-- The cores differ only in entries that have expired. -/
structure Alike (left right : Core) : Prop where
  now : left.now = right.now
  users : left.users = right.users
  random : left.random = right.random
  userStore : left.userStore = right.userStore
  sessionStore : left.sessionStore = right.sessionStore
  live : ∀ key, left.sessions.live? left.now key = right.sessions.live? right.now key

namespace Alike

variable {left middle right : Core}

theorem refl (core : Core) : core.Alike core :=
  ⟨rfl, rfl, rfl, rfl, rfl, fun _ => rfl⟩

theorem symm (alike : left.Alike right) : right.Alike left where
  now := alike.now.symm
  users := alike.users.symm
  random := alike.random.symm
  userStore := alike.userStore.symm
  sessionStore := alike.sessionStore.symm
  live key := (alike.live key).symm

theorem trans (first : left.Alike middle) (second : middle.Alike right) : left.Alike right where
  now := first.now.trans second.now
  users := first.users.trans second.users
  random := first.random.trans second.random
  userStore := first.userStore.trans second.userStore
  sessionStore := first.sessionStore.trans second.sessionStore
  live key := (first.live key).trans (second.live key)

end Alike

end Core

namespace World

/-- The same answer, and worlds that are alike. -/
def Agree {α : Type} (left right : α × World) : Prop :=
  left.1 = right.1 ∧ left.2.core.Alike right.2.core

variable {left right : World}

theorem sweep_alike (world : World) : world.sweep.2.core.Alike world.core :=
  ⟨rfl, rfl, rfl, rfl, rfl, world.sessions.live?_sweep world.now⟩

/-! ## What alike worlds answer -/

theorem agree_findUser (alike : left.core.Alike right.core) (email : String) :
    Agree (left.findUser email) (right.findUser email) := by
  have users : left.users = right.users := alike.users
  rw [findUser, findUser, users]
  cases right.users.find? email <;> exact ⟨rfl, alike⟩

theorem alike_of_users (alike : left.core.Alike right.core) (users : UserTable) :
    { left with users }.core.Alike { right with users }.core :=
  ⟨alike.now, rfl, alike.random, alike.userStore, alike.sessionStore, alike.live⟩

theorem agree_insertUser (alike : left.core.Alike right.core) (row : UserRow) :
    Agree (left.insertUser row) (right.insertUser row) := by
  have users : left.users = right.users := alike.users
  rw [insertUser, insertUser, users]
  cases right.users.insert row with
  | error error => exact ⟨rfl, alike⟩
  | ok inserted => exact ⟨rfl, alike_of_users alike inserted.2⟩

theorem agree_setRole (alike : left.core.Alike right.core) (id : UserId) (role : Role) :
    Agree (left.setRole id role) (right.setRole id role) := by
  have users : left.users = right.users := alike.users
  rw [setRole, setRole, users]
  cases right.users.setRole id role with
  | error error => exact ⟨rfl, alike⟩
  | ok changed => exact ⟨rfl, alike_of_users alike changed⟩

theorem alike_of_sessions (alike : left.core.Alike right.core) {here there : ExpiringMap}
    (live : ∀ key, here.live? right.now key = there.live? right.now key) :
    { left with sessions := here }.core.Alike { right with sessions := there }.core where
  now := alike.now
  users := alike.users
  random := alike.random
  userStore := alike.userStore
  sessionStore := alike.sessionStore
  live key := by
    have now : left.now = right.now := alike.now
    change here.live? left.now key = there.live? right.now key
    rw [now, live key]

theorem live_right (alike : left.core.Alike right.core) (key : String) :
    left.sessions.live? right.now key = right.sessions.live? right.now key := by
  have live := alike.live key
  rwa [alike.now] at live

theorem agree_setEntry (alike : left.core.Alike right.core) (key : String) (value : Octets)
    (lifetime : Option Lifetime) :
    Agree (left.setEntry key value lifetime) (right.setEntry key value lifetime) := by
  have same : ExpiringMap.expiry left.now lifetime = ExpiringMap.expiry right.now lifetime :=
    congrArg (ExpiringMap.expiry · lifetime) alike.now
  rw [setEntry, setEntry, ExpiringMap.set, ExpiringMap.set, same]
  cases ExpiringMap.expiry right.now lifetime with
  | error error => exact ⟨rfl, alike⟩
  | ok expires =>
      refine ⟨rfl, alike_of_sessions alike fun other => ?_⟩
      rw [ExpiringMap.live?_insert, ExpiringMap.live?_insert, live_right alike]

theorem agree_getEntry (alike : left.core.Alike right.core) (key : String) :
    Agree (left.getEntry key) (right.getEntry key) := by
  have now : left.now = right.now := alike.now
  constructor
  · change (left.sessions.get left.now key).1 = (right.sessions.get right.now key).1
    rw [ExpiringMap.get_fst, ExpiringMap.get_fst, now, live_right alike]
  · refine alike_of_sessions alike fun other => ?_
    change (left.sessions.get left.now key).2.live? right.now other =
      (right.sessions.get right.now key).2.live? right.now other
    rw [now, ExpiringMap.live?_get, ExpiringMap.live?_get, live_right alike]

theorem alike_deleteEntry (alike : left.core.Alike right.core) (key : String) :
    (left.deleteEntry key).2.core.Alike (right.deleteEntry key).2.core := by
  refine alike_of_sessions alike fun other => ?_
  rw [ExpiringMap.live?_erase, ExpiringMap.live?_erase, live_right alike]

theorem agree_putSession (alike : left.core.Alike right.core) (token : String)
    (identity : Identity) (lifetime : Lifetime) :
    Agree (left.putSession token identity lifetime) (right.putSession token identity lifetime) := by
  cases blank : token.isEmpty with
  | true =>
      rw [putSession_of_blank blank, putSession_of_blank blank]
      exact ⟨rfl, alike⟩
  | false =>
      rw [Agree, putSession_fst blank, putSession_fst blank, core_putSession blank,
        core_putSession blank]
      exact agree_setEntry alike token identity.encode (some lifetime)

theorem agree_getSession (alike : left.core.Alike right.core) (token : String) :
    Agree (left.getSession token) (right.getSession token) := by
  cases blank : token.isEmpty with
  | true =>
      rw [getSession_of_blank blank, getSession_of_blank blank]
      exact ⟨rfl, alike⟩
  | false =>
      obtain ⟨same, after⟩ := agree_getEntry alike token
      rw [getSession_of_notBlank blank, getSession_of_notBlank blank]
      exact ⟨congrArg Core.identityOf same, after⟩

theorem agree_deleteSession (alike : left.core.Alike right.core) (token : String) :
    Agree (left.deleteSession token) (right.deleteSession token) := by
  cases blank : token.isEmpty with
  | true =>
      rw [deleteSession_of_blank blank, deleteSession_of_blank blank]
      exact ⟨rfl, alike⟩
  | false =>
      rw [Agree, deleteSession_fst blank, deleteSession_fst blank, core_deleteSession blank,
        core_deleteSession blank]
      exact ⟨rfl, alike_deleteEntry alike token⟩

theorem agree_viaUserStore {α : Type} {stale : Option α}
    {sound : World → Except AuthError α × World} (alike : left.core.Alike right.core)
    (agree : Agree (sound left) (sound right)) :
    Agree (left.viaUserStore stale sound) (right.viaUserStore stale sound) := by
  have condition : left.userStore = right.userStore := alike.userStore
  unfold viaUserStore
  rw [condition]
  cases right.userStore with
  | sound => exact agree
  | failing report => exact ⟨rfl, alike⟩
  | stale =>
      cases stale with
      | none => exact agree
      | some answer => exact ⟨rfl, alike⟩

theorem agree_viaSessionStore {α : Type} {forgetful : Option α}
    {sound : World → Except AuthError α × World} (alike : left.core.Alike right.core)
    (agree : Agree (sound left) (sound right)) :
    Agree (left.viaSessionStore forgetful sound) (right.viaSessionStore forgetful sound) := by
  have condition : left.sessionStore = right.sessionStore := alike.sessionStore
  unfold viaSessionStore
  rw [condition]
  cases right.sessionStore with
  | sound => exact agree
  | failing report => exact ⟨rfl, alike⟩
  | forgetful =>
      cases forgetful with
      | none => exact agree
      | some answer => exact ⟨rfl, alike⟩

theorem agree_random (alike : left.core.Alike right.core) {α : Type} (draw : RandomSource → α)
    (next : RandomSource → RandomSource) :
    Agree (draw left.random, { left with random := next left.random })
      (draw right.random, { right with random := next right.random }) := by
  have random : left.random = right.random := alike.random
  refine ⟨congrArg draw random, alike.now, alike.users, congrArg next random, alike.userStore,
    alike.sessionStore, alike.live⟩

theorem agree_reply (alike : left.core.Alike right.core) (question : Question) :
    Agree (left.reply question) (right.reply question) := by
  cases question with
  | findUser email => exact agree_viaUserStore alike (agree_findUser alike email)
  | emailTaken email =>
      refine agree_viaUserStore alike ⟨?_, alike⟩
      exact congrArg (fun users => Except.ok (users.contains email)) alike.users
  | insertUser row => exact agree_viaUserStore alike (agree_insertUser alike row)
  | putSession token identity lifetime =>
      exact agree_viaSessionStore alike (agree_putSession alike token identity lifetime)
  | deleteSession token => exact agree_viaSessionStore alike (agree_deleteSession alike token)
  | getSession token => exact agree_viaSessionStore alike (agree_getSession alike token)
  | readClock => exact ⟨alike.now, alike⟩
  | drawSalt =>
      exact agree_random alike
        (fun random => (.ok (random.salts random.saltsGiven) : Except String Salt))
        fun random => { random with saltsGiven := random.saltsGiven + 1 }
  | drawToken =>
      exact agree_random alike
        (fun random => (.ok (random.tokens random.tokensGiven) : Except String TokenBytes))
        fun random => { random with tokensGiven := random.tokensGiven + 1 }
  | log event => exact ⟨rfl, alike⟩

theorem agree_run {α : Type} (alike : left.core.Alike right.core) (program : Program α) :
    Agree (left.run program) (right.run program) := by
  induction program generalizing left right with
  | done value => exact ⟨rfl, alike⟩
  | ask question resume ih =>
      have noted : (left.noted question).core.Alike (right.noted question).core := by
        rwa [core_noted, core_noted]
      obtain ⟨same, after⟩ := agree_reply noted question
      change (left.answer question).1 = (right.answer question).1 at same
      change Agree ((left.answer question).2.run (resume (left.answer question).1))
        ((right.answer question).2.run (resume (right.answer question).1))
      rw [same]
      exact ih _ after

theorem alike_of_clock (alike : left.core.Alike right.core) {later : Instant}
    (order : left.now ≤ later) :
    (left.setClock later).core.Alike (right.setClock later).core where
  now := rfl
  users := alike.users
  random := alike.random
  userStore := alike.userStore
  sessionStore := alike.sessionStore
  live key := by
    change left.sessions.live? later key = right.sessions.live? later key
    have now : left.now = right.now := alike.now
    have orderRight : right.now ≤ later := now ▸ order
    rw [left.sessions.live?_of_le order, right.sessions.live?_of_le orderRight, now,
      live_right alike]

end World

/-- Whether the answer to an act tells live entries only. A deletion tells whether there was an
entry, expired or not, and a count and a sweep count expired entries. -/
def Act.shows : Act → Bool
  | .made .sweep | .deleteEntry _ | .countEntries => false
  | _ => true

namespace World

variable {left right : World}

theorem Agree.shown {act : Act} {here there : act.Answer × World} (agree : Agree here there) :
    (act.shows = true → here.1 = there.1) ∧ here.2.core.Alike there.2.core :=
  ⟨fun _ => agree.1, agree.2⟩

/-- Alike worlds stay alike with every act that does not move the clock backward, and answer it the
same where the answer tells live entries only. -/
theorem agree_perform (alike : left.core.Alike right.core) (act : Act)
    (forward : left.now ≤ act.clock left.now) :
    (act.shows = true → (act.perform left).1 = (act.perform right).1) ∧
      (act.perform left).2.core.Alike (act.perform right).2.core := by
  cases act with
  | made call =>
      cases call with
      | sweep =>
          exact ⟨nofun, (sweep_alike left).trans (alike.trans (sweep_alike right).symm)⟩
      | _ => exact (agree_run alike _).shown
  | requested router manager request => exact (agree_run alike _).shown
  | findUser email => exact (agree_findUser alike email).shown
  | insertUser row => exact (agree_insertUser alike row).shown
  | setRole id role => exact (agree_setRole alike id role).shown
  | putSession token identity lifetime =>
      exact (agree_putSession alike token identity lifetime).shown
  | getSession token => exact (agree_getSession alike token).shown
  | deleteSession token => exact (agree_deleteSession alike token).shown
  | setEntry key value lifetime => exact (agree_setEntry alike key value lifetime).shown
  | getEntry key => exact (agree_getEntry alike key).shown
  | deleteEntry key => exact ⟨nofun, alike_deleteEntry alike key⟩
  | countEntries => exact ⟨nofun, alike⟩
  | setClock later => exact ⟨fun _ => rfl, alike_of_clock alike forward⟩
  | advance span =>
      have now : left.now = right.now := alike.now
      simp only [Act.clock] at forward
      simp only [Act.perform, advance, ← now]
      cases sum : left.now.add? span with
      | none => exact ⟨fun _ => rfl, alike⟩
      | some later =>
          rw [sum] at forward
          exact ⟨fun _ => rfl, alike_of_clock alike forward⟩

end World

theorem Act.eq_sweep {act : Act} (isSweep : act.isSweep = true) : act = .made .sweep := by
  unfold Act.isSweep at isSweep
  split at isSweep
  · rfl
  · cases isSweep

theorem neverBack_filter {now : Instant} {acts : List Act} :
    NeverBack now (acts.filter fun act => !act.isSweep) ↔ NeverBack now acts := by
  induction acts generalizing now with
  | nil => rfl
  | cons act acts ih =>
      cases sweeps : act.isSweep with
      | true =>
          obtain rfl := Act.eq_sweep sweeps
          simpa [sweeps, NeverBack, Act.clock, Instant.le_refl] using ih
      | false => simp [sweeps, NeverBack, ih]

namespace World

/-- What shows in a run shows in the same run without its sweeps, from a world that is alike. -/
theorem exchanges_filter_shows {left right : World} (alike : left.core.Alike right.core)
    {acts : List Act} (forward : NeverBack left.now acts) :
    (left.exchanges acts).filter (·.1.shows) =
      (right.exchanges (acts.filter fun act => !act.isSweep)).filter (·.1.shows) := by
  induction acts generalizing left right with
  | nil => rfl
  | cons act acts ih =>
      obtain ⟨here, later⟩ := forward
      rw [← perform_now act left] at later
      cases sweeps : act.isSweep with
      | true =>
          -- The sweep has no counterpart on the right, and leaves the world on the left alike.
          obtain rfl := Act.eq_sweep sweeps
          rw [List.filter_cons_of_neg (by simp [sweeps]), exchanges_cons,
            List.filter_cons_of_neg (by simp [Act.shows])]
          exact ih ((sweep_alike left).trans alike) later
      | false =>
          obtain ⟨same, after⟩ := agree_perform alike act here
          have rest := ih after later
          cases shown : act.shows with
          | true => simpa [sweeps, shown, same shown] using rest
          | false => simpa [sweeps, shown] using rest

/-- Sweeping is housekeeping only. Runs that differ only in their sweeps give the same answers to
all acts whose answers tell live entries only, if the clock never goes backward. A sweep leaves only
live entries, and another one at the same instant finds nothing to remove. -/
theorem sweeps_show_nowhere (world : World) :
    (∀ first second : List Act,
      (first.filter fun act => !act.isSweep) = (second.filter fun act => !act.isSweep) →
      NeverBack world.now first →
        (world.exchanges first).filter (·.1.shows) =
          (world.exchanges second).filter (·.1.shows)) ∧
    (∀ key entry, world.sweep.2.sessions.find? key = some entry →
      entry.isExpired world.now = false) ∧
    world.sweep.2.sweep = (0, world.sweep.2) := by
  refine ⟨fun first second same forward => ?_, fun key entry found => ?_, ?_⟩
  · have other : NeverBack world.now second := by
      rwa [← neverBack_filter, ← same, neverBack_filter]
    rw [exchanges_filter_shows (.refl _) forward, exchanges_filter_shows (.refl _) other, same]
  · exact (ExpiringMap.live?_eq_some_iff.mp
      ((world.sessions.find?_sweep world.now key).symm.trans found)).2
  · have nothing := world.sessions.sweep_sweep world.now
    exact congrArg (fun swept => (swept.1, { world with sessions := swept.2 })) nothing

/-- An entry that has ended goes in a sweep or in a look, and shows in neither case. -/
theorem sweep_before_look :
    ((start .epoch (fun _ => .replicate 8 0) fun _ => .replicate 32 0).exchanges
        [.setEntry "k" [7] (some ⟨1, by decide⟩), .advance .day, .made .sweep,
          .getEntry "k"]).filter (·.1.shows) =
      ((start .epoch (fun _ => .replicate 8 0) fun _ => .replicate 32 0).exchanges
        [.setEntry "k" [7] (some ⟨1, by decide⟩), .advance .day,
          .getEntry "k"]).filter (·.1.shows) :=
  (sweeps_show_nowhere _).1 _ _ rfl ⟨by decide, by decide, by decide, by decide, trivial⟩

end World

end SessionGate
