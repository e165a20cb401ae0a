import Mathlib.Data.List.Induction
import SessionGate.Proofs.Runs.Act
import SessionGate.Proofs.Store.ExpiringMap

/-!
# Looking a key up while others act

A look-up reads the clock and takes a look at the map. It returns what it has found, unless that
has expired: then it lets go of the map, and takes a second look at which it may remove the entry.
Before either look others may do anything. They may set the clock forward and back, too, so that
what they do by an older reading of the clock is covered. Whatever they do, the look-up removes
nothing that still runs at its own reading of the clock, and it comes out as if made at once, at
its last look.
-/

namespace SessionGate

open Time

/-- How far a look-up has come: it is about to take its first look, by its reading of the clock, or
its second, or it has returned. -/
inductive Retrieval where
  | looking (now : Instant)
  | settling (now : Instant)
  | returned (answer : Option Octets)

namespace Retrieval

def advance (key : String) : Retrieval → World → Retrieval × World
  | .looking now, world =>
      match world.sessions.look now key with
      | .absent => (.returned none, world)
      | .live value => (.returned (some value), world)
      | .expired => (.settling now, world)
  | .settling now, world =>
      let (answer, sessions) := world.sessions.settle now key
      (.returned answer, { world with sessions })
  | .returned answer, world => (.returned answer, world)

/-- A turn of the look-up, or an act of another thread. -/
inductive Turn where
  | own
  | other (act : Act)

def Turn.isOwn : Turn → Bool
  | .own => true
  | .other _ => false

/-- What the others do in their turns. -/
def acts (turns : List Turn) : List Act :=
  turns.filterMap fun
    | .own => none
    | .other act => some act

/-- A look-up under way, in its world. -/
structure Scene where
  world : World
  retrieval : Retrieval

def Scene.take (key : String) (scene : Scene) : Turn → Scene
  | .own =>
      let (retrieval, world) := scene.retrieval.advance key scene.world
      ⟨world, retrieval⟩
  | .other act => { scene with world := (act.perform scene.world).2 }

/-- What some turns make of a look-up that has just read the clock. -/
def follow (key : String) (world : World) (turns : List Turn) : Scene :=
  turns.foldl (Scene.take key) ⟨world, .looking world.now⟩

end Retrieval

/-- Look a key up at once, by an older reading of the clock. -/
def World.getEntryAsOf (now : Instant) (key : String) (world : World) : Option Octets × World :=
  let (answer, sessions) := world.sessions.get now key
  (answer, { world with sessions })

namespace ExpiringMap

/-- A second look does what looking the key up at once would do, whatever the first look found. -/
theorem settle_eq_get (map : ExpiringMap) (now : Instant) (key : String) :
    map.settle now key = map.get now key := by
  rw [settle, get]
  cases seen : map.look now key <;> simp [settle, seen]

/-- What runs is still there after a look-up. -/
theorem find?_get_of_live? {map : ExpiringMap} {now : Instant} {other : String} {entry : Entry}
    (live : map.live? now other = some entry) (key : String) :
    (map.get now key).2.find? other = some entry := by
  rw [find?_get]
  split
  case isTrue same => rw [← same, live]
  case isFalse => exact (live?_eq_some_iff.mp live).1

end ExpiringMap

namespace World

theorem getEntryAsOf_of_live? {now : Instant} {key : String} {world : World} {entry : Entry}
    (live : world.sessions.live? now key = some entry) :
    world.getEntryAsOf now key = (some entry.value, world) := by
  have answered := world.sessions.get_fst now key
  rw [live] at answered
  have kept := ExpiringMap.get_snd_of_live? live
  rw [getEntryAsOf]
  ext1
  · exact answered
  · simp only [kept]

end World

namespace Retrieval

variable {key : String} {world : World}

@[simp]
theorem acts_append (first second : List Turn) :
    acts (first ++ second) = acts first ++ acts second :=
  List.filterMap_append

@[simp]
theorem acts_own : acts [.own] = [] :=
  rfl

theorem follow_concat (key : String) (world : World) (turns : List Turn) (turn : Turn) :
    follow key world (turns ++ [turn]) = (follow key world turns).take key turn := by
  rw [follow, List.foldl_concat]
  rfl

/-! ## One turn -/

theorem advance_settling (key : String) (now : Instant) (world : World) :
    (settling now).advance key world =
      (.returned (world.getEntryAsOf now key).1, (world.getEntryAsOf now key).2) := by
  rw [advance, ExpiringMap.settle_eq_get]
  rfl

/-- A first look finds the entry expired, or it is looking the key up at once. -/
theorem advance_looking (key : String) (now : Instant) (world : World) :
    (looking now).advance key world = (.settling now, world) ∨
      (looking now).advance key world =
        (.returned (world.getEntryAsOf now key).1, (world.getEntryAsOf now key).2) := by
  rw [advance, World.getEntryAsOf, ExpiringMap.get]
  cases world.sessions.look now key with
  | absent => exact .inr rfl
  | live value => exact .inr rfl
  | expired => exact .inl rfl

/-- A turn of another look-up is among the acts of others: its reading of the clock is older. -/
theorem exists_enact_eq_advance (key : String) (retrieval : Retrieval) (world : World) :
    ∃ acts, world.enact acts = (retrieval.advance key world).2 := by
  have atOnce (now : Instant) :
      world.enact [.setClock now, .getEntry key, .setClock world.now] =
        (world.getEntryAsOf now key).2 :=
    rfl
  cases retrieval with
  | looking now =>
      rcases advance_looking key now world with expired | returns
      · exact ⟨[], (congrArg Prod.snd expired).symm⟩
      · exact ⟨_, (atOnce now).trans (congrArg Prod.snd returns).symm⟩
  | settling now => exact ⟨_, (atOnce now).trans (congrArg Prod.snd (advance_settling _ _ _)).symm⟩
  | returned answer => exact ⟨[], rfl⟩

/-! ## All turns -/

/-- Where a look-up is that has not returned, by the number of its turns so far. -/
inductive Waits (world : World) (turns : List Turn) : Retrieval → Prop where
  | looking (first : turns.countP Turn.isOwn = 0) : Waits world turns (.looking world.now)
  | settling (second : turns.countP Turn.isOwn = 1) : Waits world turns (.settling world.now)

/-- What the others do, with looking the key up at once after the first of them. -/
def atOnce (key : String) (world : World) (before rest : List Turn) : Scene :=
  ⟨((world.enact (acts before)).getEntryAsOf world.now key).2.enact (acts rest),
    .returned ((world.enact (acts before)).getEntryAsOf world.now key).1⟩

theorem take_atOnce (key : String) (world : World) (before rest : List Turn) (turn : Turn) :
    (atOnce key world before rest).take key turn = atOnce key world before (rest ++ [turn]) := by
  rw [atOnce, atOnce, acts_append, World.enact_append]
  cases turn <;> rfl

/-- How a look-up has gone: only the others have changed anything so far, or in its first or second
turn it did what looking the key up at once does. -/
inductive Course (key : String) (world : World) (turns : List Turn) : Prop where
  | waits (retrieval : Retrieval) (waiting : Waits world turns retrieval)
      (left : follow key world turns = ⟨world.enact (acts turns), retrieval⟩)
  | returned (before rest : List Turn) (retrieval : Retrieval)
      (split : turns = before ++ .own :: rest) (waiting : Waits world before retrieval)
      (met : follow key world before = ⟨world.enact (acts before), retrieval⟩)
      (returns : follow key world (before ++ [.own]) = atOnce key world before [])
      (left : follow key world turns = atOnce key world before rest)

theorem Course.other {turns : List Turn} (course : Course key world turns) (act : Act) :
    Course key world (turns ++ [.other act]) := by
  cases course with
  | waits retrieval waiting left =>
      refine .waits retrieval ?_ ?_
      · cases waiting with
        | looking first => exact .looking (by rw [List.countP_append, first]; rfl)
        | settling second => exact .settling (by rw [List.countP_append, second]; rfl)
      · rw [follow_concat, left, acts_append, World.enact_append]
        rfl
  | returned before rest retrieval split waiting met returns left =>
      refine .returned before (rest ++ [.other act]) retrieval ?_ waiting met returns ?_
      · rw [split, List.append_assoc, List.cons_append]
      · rw [follow_concat, left, take_atOnce]

theorem Course.own {turns : List Turn} (course : Course key world turns) :
    Course key world (turns ++ [.own]) := by
  cases course with
  | waits retrieval waiting left =>
      have ends (looked : retrieval.advance key (world.enact (acts turns)) =
          (.returned ((world.enact (acts turns)).getEntryAsOf world.now key).1,
            ((world.enact (acts turns)).getEntryAsOf world.now key).2)) :
          Course key world (turns ++ [.own]) := by
        have returns : follow key world (turns ++ [.own]) = atOnce key world turns [] := by
          rw [follow_concat, left, Scene.take, looked]
          rfl
        exact .returned turns [] retrieval rfl waiting left returns returns
      cases waiting with
      | looking first =>
          rcases advance_looking key world.now (world.enact (acts turns)) with expired | returns
          · refine .waits (.settling world.now) (.settling ?_) ?_
            · rw [List.countP_append, first]
              rfl
            · rw [follow_concat, left, Scene.take, expired, acts_append, acts_own,
                List.append_nil]
          · exact ends returns
      | settling second => exact ends (advance_settling key world.now _)
  | returned before rest retrieval split waiting met returns left =>
      refine .returned before (rest ++ [.own]) retrieval ?_ waiting met returns ?_
      · rw [split, List.append_assoc, List.cons_append]
      · rw [follow_concat, left, take_atOnce]

theorem course_follow (key : String) (world : World) (turns : List Turn) :
    Course key world turns := by
  induction turns using List.reverseRecOn with
  | nil => exact .waits (.looking world.now) (.looking rfl) rfl
  | append_singleton turns turn ih =>
      cases turn with
      | own => exact ih.own
      | other act => exact ih.other act

/-- A turn of the look-up changes nothing, or does what looking the key up at once does. -/
theorem world_follow_own (key : String) (world : World) (turns : List Turn) :
    (follow key world (turns ++ [.own])).world = (follow key world turns).world ∨
      (follow key world (turns ++ [.own])).world =
        ((follow key world turns).world.getEntryAsOf world.now key).2 := by
  rw [follow_concat]
  cases course_follow key world turns with
  | waits retrieval waiting left =>
      rw [left]
      cases waiting with
      | looking =>
          rcases advance_looking key world.now (world.enact (acts turns)) with expired | returns
          · exact .inl (congrArg Prod.snd expired)
          · exact .inr (congrArg Prod.snd returns)
      | settling => exact .inr (congrArg Prod.snd (advance_settling key world.now _))
  | returned before rest retrieval split waiting met returns left =>
      rw [left]
      exact .inl rfl

theorem Course.exists_answer {turns : List Turn} (course : Course key world turns)
    (twice : 2 ≤ turns.countP Turn.isOwn) :
    ∃ answer, (follow key world turns).retrieval = .returned answer := by
  cases course with
  | waits retrieval waiting left =>
      cases waiting with
      | looking first => omega
      | settling second => omega
  | returned before rest retrieval split waiting met returns left =>
      exact ⟨_, congrArg Scene.retrieval left⟩

/-- A look-up that reads the clock in a world, and then takes its turns with any acts of others
between them: no turn of its own takes away what runs at that reading, or touches another key; a
replacement that it meets at its second look is returned; what is returned was there and ran at one
of both looks; and all in all the look-up was made at once, in the turn in which it returned. -/
structure LosesNothing (key : String) (world : World) : Prop where
  spares : ∀ turns other entry,
    (follow key world turns).world.sessions.live? world.now other = some entry →
    (follow key world (turns ++ [.own])).world.sessions.find? other = some entry
  others : ∀ turns other, other ≠ key →
    (follow key world (turns ++ [.own])).world.sessions.find? other =
      (follow key world turns).world.sessions.find? other
  replaced : ∀ turns entry,
    (follow key world turns).retrieval = .settling world.now →
    (follow key world turns).world.sessions.live? world.now key = some entry →
    follow key world (turns ++ [.own]) =
      ⟨(follow key world turns).world, .returned (some entry.value)⟩
  returns : ∀ turns, 2 ≤ turns.countP Turn.isOwn →
    ∃ answer, (follow key world turns).retrieval = .returned answer
  stored : ∀ turns value, (follow key world turns).retrieval = .returned (some value) →
    ∃ before rest entry, turns = before ++ .own :: rest ∧ before.countP Turn.isOwn ≤ 1 ∧
      (follow key world before).world.sessions.find? key = some entry ∧
        entry.isExpired world.now = false ∧ entry.value = value
  atomic : ∀ turns answer, (follow key world turns).retrieval = .returned answer →
    ∃ before rest, turns = before ++ .own :: rest ∧
      ((follow key world before).retrieval = .looking world.now ∨
        (follow key world before).retrieval = .settling world.now) ∧
      (follow key world (before ++ [.own])).retrieval = .returned answer ∧
      follow key world turns = atOnce key world before rest

theorem losesNothing (key : String) (world : World) : LosesNothing key world where
  spares turns other entry live := by
    rcases world_follow_own key world turns with same | looked
    · rw [same]
      exact (ExpiringMap.live?_eq_some_iff.mp live).1
    · rw [looked]
      exact ExpiringMap.find?_get_of_live? live key
  others turns other different := by
    rcases world_follow_own key world turns with same | looked
    · rw [same]
    · rw [looked]
      exact (ExpiringMap.find?_get _ world.now key other).trans (if_neg different)
  replaced turns entry settling live := by
    rw [follow_concat, Scene.take, settling, advance_settling,
      World.getEntryAsOf_of_live? live]
  returns turns twice := (course_follow key world turns).exists_answer twice
  stored turns value found := by
    cases course_follow key world turns with
    | waits retrieval waiting left =>
        rw [left] at found
        cases waiting <;> cases found
    | returned before rest retrieval split waiting met returns left =>
        have answered :
            ((world.enact (acts before)).getEntryAsOf world.now key).1 = some value := by
          rw [left] at found
          exact Retrieval.returned.inj found
        have looked := (ExpiringMap.get_fst _ world.now key).symm.trans answered
        obtain ⟨entry, live, rfl⟩ := Option.map_eq_some_iff.mp looked
        obtain ⟨stored, running⟩ := ExpiringMap.live?_eq_some_iff.mp live
        have early : before.countP Turn.isOwn ≤ 1 := by
          cases waiting with
          | looking first => omega
          | settling second => omega
        exact ⟨before, rest, entry, split, early, by rw [met]; exact stored, running, rfl⟩
  atomic turns answer found := by
    cases course_follow key world turns with
    | waits retrieval waiting left =>
        rw [left] at found
        cases waiting <;> cases found
    | returned before rest retrieval split waiting met returns left =>
        refine ⟨before, rest, split, ?_, ?_, left⟩
        · rw [met]
          cases waiting with
          | looking => exact .inl rfl
          | settling => exact .inr rfl
        · rw [left] at found
          rw [returns]
          exact found

/-- An entry that is found expired, and replaced before it can be removed. -/
example :
    (follow "key" ((World.start .epoch (fun _ => .replicate 8 0) fun _ => .replicate 32 0).enact
        [.setEntry "key" [1] (some ⟨0, by decide⟩)])
      [.own, .other (.setEntry "key" [2] none), .own]).retrieval = .returned (some [2]) := by
  rfl

end Retrieval

end SessionGate
