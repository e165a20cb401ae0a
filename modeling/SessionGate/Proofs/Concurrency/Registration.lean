import Mathlib.Data.List.Perm.Subperm
import Mathlib.Logic.Function.Basic
import SessionGate.Proofs.Sessions.Operations

/-!
# Registrations at once

Registrations that run at the same time interleave between their questions. Each first asks
whether its address is taken, and may be given any answer, and then inserts its account. Whatever
the order of the steps and the answers, the insertions that succeed are the registrations that
succeed: one for each address at most, and none for one that had an account before. A registration
without a record for its password takes no part in this, and ids are told apart only as long as
there are some left.
-/

namespace SessionGate

/-- A registration: what it is run with, and what it is given for a salt. -/
structure Registration where
  manager : Manager
  user : NewUser
  salt : Except String Salt

namespace Registration

def program (registration : Registration) : Program (Except AuthError UserId) :=
  (registration.manager.register registration.user).run

def IsOverlong (registration : Registration) : Prop :=
  0xffffffff < (Octets.ofText registration.user.password).length

/-- Why a registration has no record for its password. -/
inductive Lacks (registration : Registration) : Fault → Prop where
  | salt {report : String} (undrawn : registration.salt = .error report) :
      registration.Lacks (.saltDraw report)
  | brevity (long : registration.IsOverlong) : registration.Lacks (.hashing .passwordTooLong)

/-- The record of a registration that has a salt. -/
def record (registration : Registration) : PasswordRecord :=
  match registration.salt with
  | .error _ => ⟨[]⟩
  | .ok salt =>
      ⟨salt.toList ++ Hash.Argon2id.key registration.manager.hasher.costs
        (Octets.ofText registration.user.password) salt.toList⟩

def row (registration : Registration) : UserRow :=
  ⟨registration.user.email, registration.user.name, registration.record, .user⟩

/-- Answer a question of the registration. Whether its address is taken is answered with any word;
what it is given for a salt is its own. -/
def answer (registration : Registration) (taken : Bool) :
    (question : Question) → World → question.Answer × World
  | .emailTaken _, world => (.ok taken, world)
  | .drawSalt, world => (registration.salt, world)
  | question, world => world.answer question

end Registration

/-- Registrations under way: the world, and what remains of each. -/
structure Race (ι : Type) where
  world : World
  threads : ι → Program (Except AuthError UserId)

namespace Race

variable {ι : Type} [DecidableEq ι]

def start (world : World) (registrations : ι → Registration) : Race ι :=
  ⟨world, fun i => (registrations i).program⟩

/-- A step of one registration: its next question is answered. -/
def advance (registrations : ι → Registration) (race : Race ι) : ι × Bool → Race ι
  | (i, taken) =>
      match race.threads i with
      | .done _ => race
      | .ask question resume =>
          let (reply, world) := (registrations i).answer taken question race.world
          ⟨world, Function.update race.threads i (resume reply)⟩

def follow (registrations : ι → Registration) (race : Race ι) (schedule : List (ι × Bool)) :
    Race ι :=
  schedule.foldl (advance registrations) race

/-- No step of the schedule says of a free address that it is taken. -/
def NeverCallsFreeTaken (registrations : ι → Registration) : Race ι → List (ι × Bool) → Prop
  | _, [] => True
  | race, (i, taken) :: rest =>
      (∀ email resume, race.threads i = .ask (.emailTaken email) resume → taken = true →
        race.world.users.contains email = true) ∧
      NeverCallsFreeTaken registrations (race.advance registrations (i, taken)) rest

end Race

namespace Registration

variable {registration : Registration}

/-! ## The stages of a registration -/

/-- How far a registration has come. -/
inductive Stage where
  | checking
  | refusing
  | salting
  | inserting
  | logging (id : UserId)
  | done (result : Except AuthError UserId)

/-- The steps that are left to take, at most. -/
def Stage.left : Stage → Nat
  | .checking => 4
  | .salting => 3
  | .inserting => 2
  | .refusing | .logging _ => 1
  | .done _ => 0

theorem Stage.left_eq_zero_iff {stage : Stage} :
    stage.left = 0 ↔ ∃ result, stage = .done result := by
  cases stage <;> simp [left]

def remaining (registration : Registration) : Stage → Program (Except AuthError UserId)
  | .checking => registration.program
  | .refusing =>
      .ask (.log (.service .warn "registration for existing email"
        [("email", registration.user.email)])) fun _ => .done (.error .alreadyExists)
  | .salting => (registration.manager.provision registration.user .user).run
  | .inserting =>
      .ask (.insertUser registration.row) fun
        | .error error => .done (.error error)
        | .ok id =>
            .ask (.log (.service .debug "user provisioned"
              [("id", Decimal.text id.toInt), ("role", Role.user.name)])) fun _ => .done (.ok id)
  | .logging id =>
      .ask (.log (.service .debug "user provisioned"
        [("id", Decimal.text id.toInt), ("role", Role.user.name)])) fun _ => .done (.ok id)
  | .done result => .done result

theorem remaining_checking (named : registration.user.email.isEmpty = false) :
    registration.remaining .checking =
      .ask (.emailTaken registration.user.email) fun
        | .error error => .done (.error error)
        | .ok taken => registration.remaining (if taken then .refusing else .salting) := by
  have something : registration.user.isEmpty = false := by simp [NewUser.isEmpty, named]
  rw [remaining, program, Manager.register, something]
  change Program.ask _ _ = _
  congr 1
  funext reply
  cases reply with
  | error error => rfl
  | ok taken => cases taken <;> rfl

theorem remaining_salting (registration : Registration) :
    registration.remaining .salting =
      .ask .drawSalt fun
        | .error report => .done (.error (.internal (.saltDraw report)))
        | .ok salt =>
            if 0xffffffff < (Octets.ofText registration.user.password).length then
              .done (.error (.internal (.hashing .passwordTooLong)))
            else { registration with salt := .ok salt }.remaining .inserting := by
  rw [remaining, Manager.provision, Hasher.freshTextRecord_eq]
  change Program.ask _ _ = Program.ask _ _
  congr 1
  funext drawn
  cases drawn with
  | error report => rfl
  | ok salt =>
      have made := registration.manager.hasher.record_salt
        (Octets.ofText registration.user.password) salt
      change ExceptT.bindCont _ (registration.manager.hasher.record
        (Octets.ofText registration.user.password) salt.toList) = _
      dsimp only
      by_cases long : 0xffffffff < (Octets.ofText registration.user.password).length
      · rw [if_pos long] at made ⊢
        rw [made]
        rfl
      · rw [if_neg long] at made ⊢
        rw [made]
        change Program.ask _ _ = Program.ask _ _
        congr 1
        funext reply
        cases reply <;> rfl

/-- What a step of a registration can do, from one world and stage to the next. Only an insertion
works on the accounts of the world. -/
inductive Moves (registration : Registration) (taken : Bool) (world : World) :
    Stage → World → Stage → Prop where
  | told : registration.Moves taken world .checking world (if taken then .refusing else .salting)
  | refused {event : Event} : registration.Moves taken world .refusing (world.logged event)
      (.done (.error .alreadyExists))
  | lacking {fault : Fault} (lacks : registration.Lacks fault) :
      registration.Moves taken world .salting world (.done (.error (.internal fault)))
  | salted {salt : Salt} (drawn : registration.salt = .ok salt)
      (short : ¬ registration.IsOverlong) :
      registration.Moves taken world .salting world .inserting
  | inserted {id : UserId}
      (reply : (world.answer (.insertUser registration.row)).1 = .ok id) :
      registration.Moves taken world .inserting (world.answer (.insertUser registration.row)).2
        (.logging id)
  | rejected {error : AuthError}
      (reply : (world.answer (.insertUser registration.row)).1 = .error error) :
      registration.Moves taken world .inserting (world.answer (.insertUser registration.row)).2
        (.done (.error error))
  | logged {event : Event} {id : UserId} : registration.Moves taken world (.logging id)
      (world.logged event) (.done (.ok id))
  | ended {result : Except AuthError UserId} :
      registration.Moves taken world (.done result) world (.done result)

/-- A registration that takes a step has one less to take. -/
theorem Moves.left_le {taken : Bool} {world after : World} {stage next : Stage}
    (moves : registration.Moves taken world stage after next) : next.left ≤ stage.left - 1 := by
  cases moves with
  | told => cases taken <;> decide
  | refused | lacking | rejected | logged | ended => exact Nat.zero_le _
  | salted | inserted => exact Nat.le_refl _

end Registration

theorem World.answer_insertUser {world : World} (sound : world.userStore = .sound) (row : UserRow) :
    (world.answer (.insertUser row)).2.userStore = .sound ∧
      match world.users.insert row with
      | .ok (id, users) =>
          (world.answer (.insertUser row)).1 = .ok id ∧
            (world.answer (.insertUser row)).2.users = users
      | .error error =>
          (world.answer (.insertUser row)).1 = .error error ∧
            (world.answer (.insertUser row)).2.users = world.users := by
  have answered := (World.answer_core (.insertUser row) world).symm.trans
    (Core.answer_insertUser sound row)
  have users : world.core.users = world.users := rfl
  rw [users] at answered
  cases inserted : world.users.insert row with
  | error error =>
      rw [inserted] at answered
      obtain ⟨reply, left⟩ := Prod.mk.inj answered
      exact ⟨(congrArg Core.userStore left).trans sound, reply, congrArg Core.users left⟩
  | ok pair =>
      rw [inserted] at answered
      obtain ⟨reply, left⟩ := Prod.mk.inj answered
      exact ⟨(congrArg Core.userStore left).trans sound, reply, congrArg Core.users left⟩

namespace Race

variable {ι : Type} {registrations : ι → Registration} {table : UserTable} {told : Prop}
  {race : Race ι} {winners : List ι} {i : ι}

/-! ## What holds throughout -/

/-- What a stage of a registration says about the winners. Only a word that was never wrong tells
that an address is taken, and nothing is inserted without a salt. -/
def Fits (registrations : ι → Registration) (table : UserTable) (told : Prop) (users : UserTable)
    (winners : List ι) (i : ι) : Registration.Stage → Prop
  | .checking | .salting => i ∉ winners
  | .refusing => i ∉ winners ∧ (told → users.contains (registrations i).user.email = true)
  | .inserting => i ∉ winners ∧ ∃ salt, (registrations i).salt = .ok salt
  | .logging id | .done (.ok id) =>
      ∃ index : Nat, winners[index]? = some i ∧ id = table.lastId + 1 + Int64.ofNat index
  | .done (.error error) =>
      i ∉ winners ∧
        ((error = .alreadyExists ∧
            (told → users.contains (registrations i).user.email = true)) ∨
          ∃ fault, error = .internal fault ∧ (registrations i).Lacks fault)

/-- The table holds the accounts of the winners, in their order, and every registration is at a
stage that fits. -/
structure Holds (registrations : ι → Registration) (table : UserTable) (told : Prop)
    (race : Race ι) (winners : List ι) : Prop where
  sound : race.world.userStore = .sound
  users : race.world.users = table.enrolled (winners.map fun i => (registrations i).row)
  distinct : (winners.map fun i => (registrations i).user.email).Nodup
  free : ∀ i ∈ winners, table.find? (registrations i).user.email = none
  salted : ∀ i ∈ winners, ∃ salt, (registrations i).salt = .ok salt
  threads : ∀ i, ∃ stage, race.threads i = (registrations i).remaining stage ∧
    Fits registrations table told race.world.users winners i stage

/-- Winning is no news to others but that one more address is taken. -/
theorem Fits.concat {users after : UserTable} {j : ι} {stage : Registration.Stage}
    (fits : Fits registrations table told users winners j stage) (different : j ≠ i)
    (grown : ∀ email, users.contains email = true → after.contains email = true) :
    Fits registrations table told after (winners ++ [i]) j stage := by
  have notNew : j ∉ winners → j ∉ winners ++ [i] := by
    intro lost
    simp [lost, different]
  have early : ∀ {index : Nat}, winners[index]? = some j → (winners ++ [i])[index]? = some j := by
    intro index place
    rw [List.getElem?_append_left (List.getElem?_eq_some_iff.mp place).1]
    exact place
  match stage with
  | .checking | .salting => exact notNew fits
  | .refusing => exact ⟨notNew fits.1, fun truth => grown _ (fits.2 truth)⟩
  | .inserting => exact ⟨notNew fits.1, fits.2⟩
  | .logging id | .done (.ok id) =>
      obtain ⟨index, place, number⟩ := fits
      exact ⟨index, early place, number⟩
  | .done (.error error) =>
      obtain ⟨lost, ⟨refused, contained⟩ | lacking⟩ := fits
      · exact ⟨notNew lost, .inl ⟨refused, fun truth => grown _ (contained truth)⟩⟩
      · exact ⟨notNew lost, .inr lacking⟩

/-! ## How a race ends -/

theorem Fits.of_done {users : UserTable} {stage : Registration.Stage}
    {result : Except AuthError UserId}
    (named : (registrations i).user.email.isEmpty = false)
    (fits : Fits registrations table told users winners i stage)
    (finished : (registrations i).remaining stage = .done result) :
    Fits registrations table told users winners i (.done result) := by
  cases stage with
  | checking =>
      rw [Registration.remaining_checking named] at finished
      cases finished
  | done other =>
      obtain rfl : other = result := Program.done.inj finished
      exact fits
  | refusing | salting | inserting | logging id => cases finished

theorem Holds.fits_of_done (holds : Holds registrations table told race winners)
    (named : ∀ i, (registrations i).user.email.isEmpty = false)
    {result : Except AuthError UserId} (finished : race.threads i = .done result) :
    Fits registrations table told race.world.users winners i (.done result) := by
  obtain ⟨stage, remains, fits⟩ := holds.threads i
  exact fits.of_done (named i) (remains.symm.trans finished)

/-- How registrations at once come out: with the accounts of the winners, in the order in which
they were inserted, under the ids that follow the last one. Who finishes with success is a winner,
and finishes with the id of its place; who does not has found its address taken, or has no record
for its password. -/
structure Decides (registrations : ι → Registration) (before : UserTable) (race : Race ι)
    (winners : List ι) : Prop where
  accounts : race.world.users = before.enrolled (winners.map fun i => (registrations i).row)
  distinct : (winners.map fun i => (registrations i).user.email).Nodup
  free : ∀ i ∈ winners, before.find? (registrations i).user.email = none
  salted : ∀ i ∈ winners, ∃ salt, (registrations i).salt = .ok salt
  stored : ∀ (index : Nat) (i : ι), winners[index]? = some i →
    race.world.users.find? (registrations i).user.email =
      some ((registrations i).row.withId (before.lastId + 1 + Int64.ofNat index))
  succeeds : ∀ (index : Nat) (i : ι) (result : Except AuthError UserId),
    winners[index]? = some i → race.threads i = .done result →
      result = .ok (before.lastId + 1 + Int64.ofNat index)
  wins : ∀ (i : ι) (id : UserId), race.threads i = .done (.ok id) →
    ∃ index : Nat, winners[index]? = some i ∧ id = before.lastId + 1 + Int64.ofNat index
  loses : ∀ (i : ι) (error : AuthError), race.threads i = .done (.error error) →
    i ∉ winners ∧ (error = .alreadyExists ∨
      ∃ fault, error = .internal fault ∧ (registrations i).Lacks fault)

theorem nodup_of_emails
    (distinct : (winners.map fun i => (registrations i).user.email).Nodup) : winners.Nodup := by
  refine List.Pairwise.of_map (fun i => (registrations i).user.email) ?_ distinct
  intro first second differs same
  exact differs (by rw [same])

theorem Holds.decides (holds : Holds registrations table told race winners)
    (named : ∀ i, (registrations i).user.email.isEmpty = false) :
    Decides registrations table race winners where
  accounts := holds.users
  distinct := holds.distinct
  free := holds.free
  salted := holds.salted
  stored index i place := by
    have emails : ((winners.map fun i => (registrations i).row).map UserRow.email).Nodup := by
      rw [List.map_map]
      exact holds.distinct
    have here : (winners.map fun i => (registrations i).row)[index]? =
        some (registrations i).row := by
      rw [List.getElem?_map, place]
      rfl
    rw [holds.users]
    exact UserTable.find?_enrolled emails (holds.free i (List.mem_of_getElem? place)) here
  succeeds index i result place finished := by
    have fits := holds.fits_of_done named finished
    cases result with
    | error error => exact absurd (List.mem_of_getElem? place) fits.1
    | ok id =>
        obtain ⟨other, otherPlace, rfl⟩ := fits
        have once := nodup_of_emails holds.distinct
        have below := (List.getElem?_eq_some_iff.mp place).1
        rw [(List.getElem?_inj below once).mp (place.trans otherPlace.symm)]
  wins i id finished := holds.fits_of_done named finished
  loses i error finished := by
    obtain ⟨lost, ⟨refused, -⟩ | lacking⟩ := holds.fits_of_done named finished
    · exact ⟨lost, .inl refused⟩
    · exact ⟨lost, .inr lacking⟩

namespace Decides

variable {before : UserTable} (decides : Decides registrations before race winners)
include decides

end Decides

/-! ## Every step keeps what holds -/

/-- An insertion is refused where the address is taken, and makes one more winner where it is
free. -/
theorem Holds.answer_insertUser (holds : Holds registrations table told race winners)
    (named : (registrations i).user.email.isEmpty = false)
    (drawn : ∃ salt, (registrations i).salt = .ok salt) :
    (race.world.answer (.insertUser (registrations i).row)).2.userStore = .sound ∧
      ((race.world.users.contains (registrations i).user.email = true ∧
          (race.world.answer (.insertUser (registrations i).row)).1 = .error .alreadyExists ∧
          (race.world.answer (.insertUser (registrations i).row)).2.users = race.world.users) ∨
        (race.world.users.contains (registrations i).user.email = false ∧
          (race.world.answer (.insertUser (registrations i).row)).1 =
            .ok (table.lastId + 1 + Int64.ofNat winners.length) ∧
          (race.world.answer (.insertUser (registrations i).row)).2.users =
            table.enrolled ((winners ++ [i]).map fun i => (registrations i).row))) := by
  obtain ⟨sound, answered⟩ := World.answer_insertUser holds.sound (registrations i).row
  refine ⟨sound, ?_⟩
  obtain ⟨salt, drawn⟩ := drawn
  have salted : (registrations i).row.password.octets.isEmpty = false := by
    simp [Registration.row, Registration.record, drawn]
  have inserted := UserTable.insert_enrolled named salted table
    (winners.map fun i => (registrations i).row)
  rw [← holds.users, List.length_map] at inserted
  rw [inserted] at answered
  change (race.world.users.contains (registrations i).row.email = true ∧ _) ∨
    (race.world.users.contains (registrations i).row.email = false ∧ _)
  cases contained : race.world.users.contains (registrations i).row.email with
  | true =>
      rw [contained] at answered
      exact .inl ⟨rfl, answered⟩
  | false =>
      rw [contained] at answered
      refine .inr ⟨rfl, answered.1, answered.2.trans ?_⟩
      rw [List.map_append, List.map_singleton]

variable [DecidableEq ι]

theorem advance_done {result : Except AuthError UserId} (taken : Bool)
    (finished : race.threads i = .done result) : race.advance registrations (i, taken) = race := by
  simp only [advance, finished]

theorem advance_ask {question : Question}
    {resume : question.Answer → Program (Except AuthError UserId)}
    (taken : Bool) (asks : race.threads i = .ask question resume) :
    race.advance registrations (i, taken) =
      ⟨((registrations i).answer taken question race.world).2,
        Function.update race.threads i
          (resume ((registrations i).answer taken question race.world).1)⟩ := by
  simp only [advance, asks]

/-- A step that leaves the accounts alone keeps the winners. -/
theorem Holds.update (holds : Holds registrations table told race winners) {world : World}
    (sound : world.userStore = .sound) (users : world.users = race.world.users)
    {stage : Registration.Stage}
    (fits : Fits registrations table told race.world.users winners i stage) :
    Holds registrations table told
      ⟨world, Function.update race.threads i ((registrations i).remaining stage)⟩ winners where
  sound := sound
  users := users.trans holds.users
  distinct := holds.distinct
  free := holds.free
  salted := holds.salted
  threads j := by
    change ∃ other, _ ∧ Fits registrations table told world.users winners j other
    rw [users]
    by_cases same : j = i
    · subst same
      exact ⟨stage, Function.update_self _ _ _, fits⟩
    · obtain ⟨other, remains, fitting⟩ := holds.threads j
      exact ⟨other, (Function.update_of_ne same _ _).trans remains, fitting⟩

/-- An insertion that succeeds makes one more winner. -/
theorem Holds.win (holds : Holds registrations table told race winners)
    (named : (registrations i).user.email.isEmpty = false)
    (vacant : race.world.users.contains (registrations i).user.email = false)
    (drawn : ∃ salt, (registrations i).salt = .ok salt) {world : World}
    (sound : world.userStore = .sound)
    (users : world.users = table.enrolled
      ((winners ++ [i]).map fun i => (registrations i).row)) :
    Holds registrations table told
      ⟨world, Function.update race.threads i ((registrations i).remaining
        (.logging (table.lastId + 1 + Int64.ofNat winners.length)))⟩ (winners ++ [i]) := by
  have absent := UserTable.contains_eq_false_iff.mp vacant
  rw [holds.users, UserTable.find?_enrolled_eq_none_iff] at absent
  obtain ⟨free, others⟩ := absent
  refine ⟨sound, users, ?_, ?_, ?_, ?_⟩
  · rw [List.map_append, List.map_singleton, List.nodup_append]
    refine ⟨holds.distinct, by simp, ?_⟩
    intro email member other last
    rw [List.mem_singleton.mp last]
    obtain ⟨j, inside, rfl⟩ := List.mem_map.mp member
    exact others _ (List.mem_map_of_mem inside)
  · intro j member
    rcases List.mem_append.mp member with inside | last
    · exact holds.free j inside
    · rw [List.mem_singleton.mp last]
      exact free
  · intro j member
    rcases List.mem_append.mp member with inside | last
    · exact holds.salted j inside
    · rw [List.mem_singleton.mp last]
      exact drawn
  · intro j
    change ∃ other, _ ∧ Fits registrations table told world.users (winners ++ [i]) j other
    by_cases same : j = i
    · subst same
      refine ⟨_, Function.update_self _ _ _, winners.length, ?_, rfl⟩
      simp
    · obtain ⟨other, remains, fitting⟩ := holds.threads j
      refine ⟨other, (Function.update_of_ne same _ _).trans remains, fitting.concat same ?_⟩
      intro email taken
      rw [users, List.map_append]
      rw [holds.users] at taken
      exact UserTable.contains_enrolled_concat taken

/-- A step of a registration, from whatever stage it is at. -/
theorem exists_moves_advance (named : ∀ i, (registrations i).user.email.isEmpty = false)
    (taken : Bool) {stage : Registration.Stage}
    (remains : race.threads i = (registrations i).remaining stage) :
    ∃ world next, (registrations i).Moves taken race.world stage world next ∧
      race.advance registrations (i, taken) =
        ⟨world, Function.update race.threads i ((registrations i).remaining next)⟩ := by
  cases stage with
  | checking =>
      rw [Registration.remaining_checking (named i)] at remains
      exact ⟨_, _, .told, advance_ask taken remains⟩
  | refusing => exact ⟨_, _, .refused, advance_ask taken remains⟩
  | salting =>
      rw [Registration.remaining_salting] at remains
      rw [advance_ask taken remains]
      have asked : (registrations i).answer taken .drawSalt race.world =
          ((registrations i).salt, race.world) := rfl
      rw [asked]
      cases drawn : (registrations i).salt with
      | error report => exact ⟨_, _, .lacking (.salt drawn), rfl⟩
      | ok salt =>
          dsimp only
          by_cases long : 0xffffffff < (Octets.ofText (registrations i).user.password).length
          · rw [if_pos long]
            exact ⟨_, _, .lacking (.brevity long), rfl⟩
          · have same : { registrations i with salt := .ok salt } = registrations i := by
              rw [← drawn]
            rw [if_neg long, same]
            exact ⟨_, _, .salted drawn long, rfl⟩
  | inserting =>
      have asked : (registrations i).answer taken (.insertUser (registrations i).row) race.world =
          race.world.answer (.insertUser (registrations i).row) := rfl
      rw [advance_ask taken remains, asked]
      cases reply : (race.world.answer (.insertUser (registrations i).row)).1 with
      | error error => exact ⟨_, _, .rejected reply, rfl⟩
      | ok id => exact ⟨_, _, .inserted reply, rfl⟩
  | logging id => exact ⟨_, _, .logged, advance_ask taken remains⟩
  | done result =>
      refine ⟨_, _, .ended, (advance_done taken remains).trans ?_⟩
      rw [← remains, Function.update_eq_self]

/-- Every step keeps what holds, with one more winner where an insertion succeeds. -/
theorem Holds.advance (named : ∀ i, (registrations i).user.email.isEmpty = false)
    (holds : Holds registrations table told race winners) (taken : Bool)
    (truthful : told → ∀ email resume, race.threads i = .ask (.emailTaken email) resume →
      taken = true → race.world.users.contains email = true) :
    ∃ after, Holds registrations table told (race.advance registrations (i, taken)) after := by
  obtain ⟨stage, remains, fits⟩ := holds.threads i
  obtain ⟨world, next, moves, stepped⟩ := exists_moves_advance named taken remains
  rw [stepped]
  cases moves with
  | told =>
      rw [Registration.remaining_checking (named i)] at remains
      cases taken with
      | true =>
          have heard : Fits registrations table told race.world.users winners i .refusing :=
            ⟨fits, fun truth => truthful truth _ _ remains rfl⟩
          exact ⟨winners, holds.update holds.sound rfl heard⟩
      | false =>
          have unsalted : Fits registrations table told race.world.users winners i .salting := fits
          exact ⟨winners, holds.update holds.sound rfl unsalted⟩
  | @refused event =>
      have sound : (race.world.logged event).userStore = .sound := holds.sound
      have refused : Fits registrations table told race.world.users winners i
          (.done (.error .alreadyExists)) := ⟨fits.1, .inl ⟨rfl, fits.2⟩⟩
      exact ⟨winners, holds.update sound rfl refused⟩
  | lacking lacks =>
      have failed : Fits registrations table told race.world.users winners i
          (.done (.error (.internal _))) := ⟨fits, .inr ⟨_, rfl, lacks⟩⟩
      exact ⟨winners, holds.update holds.sound rfl failed⟩
  | salted drawn =>
      have ready : Fits registrations table told race.world.users winners i .inserting :=
        ⟨fits, _, drawn⟩
      exact ⟨winners, holds.update holds.sound rfl ready⟩
  | inserted reply =>
      obtain ⟨sound, ⟨-, refused, -⟩ | ⟨vacant, granted, users⟩⟩ :=
        holds.answer_insertUser (named i) fits.2
      · cases reply.symm.trans refused
      · cases reply.symm.trans granted
        exact ⟨winners ++ [i], holds.win (named i) vacant fits.2 sound users⟩
  | rejected reply =>
      obtain ⟨sound, ⟨contained, refused, users⟩ | ⟨-, granted, -⟩⟩ :=
        holds.answer_insertUser (named i) fits.2
      · cases reply.symm.trans refused
        have lost : Fits registrations table told race.world.users winners i
            (.done (.error .alreadyExists)) := ⟨fits.1, .inl ⟨rfl, fun _ => contained⟩⟩
        exact ⟨winners, holds.update sound users lost⟩
      · cases reply.symm.trans granted
  | @logged event id =>
      have sound : (race.world.logged event).userStore = .sound := holds.sound
      have finished : Fits registrations table told race.world.users winners i
          (.done (.ok id)) := fits
      exact ⟨winners, holds.update sound rfl finished⟩
  | ended =>
      have same : Fits registrations table told race.world.users winners i (.done _) := fits
      exact ⟨winners, holds.update holds.sound rfl same⟩

theorem Holds.follow (named : ∀ i, (registrations i).user.email.isEmpty = false)
    {schedule : List (ι × Bool)} (holds : Holds registrations table told race winners)
    (truthful : told → NeverCallsFreeTaken registrations race schedule) :
    ∃ after, Holds registrations table told (race.follow registrations schedule) after := by
  induction schedule generalizing race winners with
  | nil => exact ⟨winners, holds⟩
  | cons move rest ih =>
      obtain ⟨i, taken⟩ := move
      obtain ⟨more, next⟩ := holds.advance named taken fun truth => (truthful truth).1
      exact ih next fun truth => (truthful truth).2

/-! ## Every registration ends -/

/-- Where a step of a registration leaves the registration itself. -/
theorem exists_moves_self (named : ∀ i, (registrations i).user.email.isEmpty = false)
    (taken : Bool) {stage : Registration.Stage}
    (remains : race.threads i = (registrations i).remaining stage) :
    ∃ world next, (registrations i).Moves taken race.world stage world next ∧
      (race.advance registrations (i, taken)).threads i = (registrations i).remaining next := by
  obtain ⟨world, next, moves, stepped⟩ := exists_moves_advance named taken remains
  rw [stepped]
  exact ⟨world, next, moves, Function.update_self _ _ _⟩

/-- The steps of the others leave a registration where it is. -/
theorem advance_of_ne {j : ι} (different : i ≠ j) (taken : Bool) :
    (race.advance registrations (j, taken)).threads i = race.threads i := by
  cases asks : race.threads j with
  | done result => rw [advance_done taken asks]
  | ask question resume =>
      rw [advance_ask taken asks]
      exact Function.update_of_ne different _ _

/-- Whoever is given as many steps as there are left for it comes to a result. -/
theorem finishes_of_left_le (named : ∀ i, (registrations i).user.email.isEmpty = false)
    {schedule : List (ι × Bool)} {stage : Registration.Stage}
    (remains : race.threads i = (registrations i).remaining stage)
    (enough : stage.left ≤ schedule.countP (·.1 = i)) :
    ∃ result, (race.follow registrations schedule).threads i = .done result := by
  induction schedule generalizing race stage with
  | nil =>
      obtain ⟨result, rfl⟩ := Registration.Stage.left_eq_zero_iff.mp (Nat.le_zero.mp enough)
      exact ⟨result, remains⟩
  | cons move rest ih =>
      obtain ⟨j, taken⟩ := move
      by_cases same : j = i
      · subst same
        obtain ⟨_, next, moves, remaining⟩ := exists_moves_self named taken remains
        refine ih remaining (Nat.le_trans moves.left_le ?_)
        rw [List.countP_cons_of_pos (by simp)] at enough
        exact Nat.sub_le_of_le_add enough
      · refine ih ((advance_of_ne (Ne.symm same) taken).trans remains) ?_
        rwa [List.countP_cons_of_neg (by simpa using same)] at enough

/-- Four steps are enough for every registration. -/
theorem finishes (named : ∀ i, (registrations i).user.email.isEmpty = false) (world : World)
    {schedule : List (ι × Bool)} (enough : 4 ≤ schedule.countP (·.1 = i)) :
    ∃ result, ((start world registrations).follow registrations schedule).threads i =
      .done result :=
  have remains : (start world registrations).threads i = (registrations i).remaining .checking :=
    rfl
  finishes_of_left_le named remains enough

/-- One registration, with a password and with what it is given for a salt. -/
def alone (password : String) (salt : Except String Salt) (_ : Unit) : Registration :=
  ⟨.cheap, ⟨"a", password, none⟩, salt⟩

section Crowd

variable {count : Nat} {world : World}

end Crowd

end Race

end SessionGate
