import SessionGate.Proofs.Store.Hosting

/-!
# Stores that work or fail

A conversation follows a core when every turn is answered as the core answers it, unless it goes to
a store that fails, or to a random source that has nothing to give: then a fault is all there is,
and nothing has changed. Both may fail at any turn and work again at the next.
-/

namespace SessionGate

/-- The statuses of the failures that a question may lead to. -/
def Question.failureStatuses : Question → List Nat
  | .findUser _ => [404, 500]
  | .emailTaken _ => [500]
  | .insertUser _ => [400, 409, 500]
  | .putSession _ _ _ | .deleteSession _ => [400, 500]
  | .getSession _ => [400, 404, 500]
  | .drawSalt | .drawToken => [500]
  | .readClock | .log _ => []

theorem Turn.internal_mem_failureStatuses {turn : Turn} {fault : Fault}
    (failed : turn.failure? = some (.internal fault)) : 500 ∈ turn.1.failureStatuses := by
  obtain ⟨question, answer⟩ := turn
  cases question with
  | readClock | log event => cases failed
  | _ => simp [Question.failureStatuses]

theorem UserTable.status_insert {table : UserTable} {row : UserRow} {error : AuthError}
    (refused : table.insert row = .error error) : error.status = 400 ∨ error.status = 409 := by
  rw [insert] at refused
  split at refused
  · cases refused
    exact .inl rfl
  · split at refused <;> cases refused
    exact .inr rfl

theorem ExpiringMap.status_set {map : ExpiringMap} {now : Time.Instant} {key : String}
    {value : Octets} {lifetime : Option Time.Lifetime} {error : AuthError}
    (refused : map.set now key value lifetime = .error error) : error.status = 500 := by
  rw [set] at refused
  cases limit : expiry now lifetime with
  | ok expires =>
      rw [limit] at refused
      cases refused
  | error known =>
      rw [limit] at refused
      cases refused
      unfold expiry at limit
      split at limit
      · cases limit
      · split at limit
        · cases limit
          rfl
        · split at limit <;> cases limit
          rfl

namespace Core

theorem status_identityOf {stored : Option Octets} {error : AuthError}
    (refused : identityOf stored = .error error) : error.status = 404 ∨ error.status = 500 := by
  cases stored with
  | none =>
      cases refused
      exact .inl rfl
  | some octets =>
      rw [identityOf] at refused
      cases decoded : Identity.decode octets with
      | ok identity =>
          rw [decoded] at refused
          cases refused
      | error unreadable =>
          rw [decoded] at refused
          cases refused
          exact .inr rfl

variable {core next after : Core} {turn : Turn} {turns rest : List Turn} {user : User}

/-- How a core takes a turn, and what becomes of it. What fails leaves everything as it is. -/
inductive Takes : Core → Turn → Core → Prop where
  | answered (core : Core) (question : Question) :
      Takes core ⟨question, (core.answer question).1⟩ (core.answer question).2
  | failed {core : Core} {turn : Turn} {fault : Fault}
      -- Neither the clock nor the log has a failure for an answer, so they do not fail here.
      (failed : turn.failure? = some (.internal fault)) : Takes core turn core

/-- A conversation follows a core, turn by turn. -/
inductive Follows : Core → List Turn → Core → Prop where
  | nil (core : Core) : Follows core [] core
  | cons {core next after : Core} {turn : Turn} {turns : List Turn} (takes : core.Takes turn next)
      (later : Follows next turns after) : Follows core (turn :: turns) after

/-! ## One turn -/

theorem precedes_answer (question : Question) (core : Core) :
    core.Precedes (core.answer question).2 :=
  World.precedes_answer question core.world

theorem Takes.precedes (takes : core.Takes turn next) : core.Precedes next := by
  cases takes with
  | answered question => exact precedes_answer question core
  | failed failed => exact .refl core

theorem Takes.replies (sound : core.IsSound) (takes : core.Takes turn next) :
    core.users.Replies True turn next.users := by
  cases takes with
  | failed failed =>
      cases addressed : turn.1.isOnAccounts with
      | true => exact .failed trivial addressed failed
      | false => exact .elsewhere addressed
  | answered question =>
      cases question with
      | findUser email =>
          rw [answer_findUser sound.users]
          cases found : core.users.find? email with
          | none => exact .missed found
          | some user => exact .found found
      | emailTaken email =>
          rw [answer_emailTaken sound.users]
          exact .told email
      | insertUser row =>
          rw [answer_insertUser sound.users]
          cases inserted : core.users.insert row with
          | error error => exact .refused inserted
          | ok made => exact .inserted inserted
      | putSession token identity lifetime =>
          rw [answer_putSession sound.sessions]
          split
          · exact .elsewhere rfl
          · cases core.sessions.set core.now token identity.encode (some lifetime) <;>
              exact .elsewhere rfl
      | deleteSession token =>
          rw [answer_deleteSession sound.sessions]
          split <;> exact .elsewhere rfl
      | getSession token =>
          rw [answer_getSession_of_sound sound.sessions]
          split <;> exact .elsewhere rfl
      | readClock | drawSalt | drawToken | log event => exact .elsewhere rfl

/-- A core fails a question with one of the failures there are for it. -/
theorem Takes.status_mem (sound : core.IsSound) (takes : core.Takes turn next) {error : AuthError}
    (failed : turn.failure? = some error) : error.status ∈ turn.1.failureStatuses := by
  cases takes with
  | failed faulty =>
      cases faulty.symm.trans failed
      exact Turn.internal_mem_failureStatuses faulty
  | answered question =>
      revert failed
      cases question with
      | findUser email =>
          rw [answer_findUser sound.users]
          cases core.users.find? email with
          | none =>
              rintro ⟨⟩
              simp [Question.failureStatuses, AuthError.status]
          | some user => nofun
      | emailTaken email =>
          rw [answer_emailTaken sound.users]
          nofun
      | insertUser row =>
          rw [answer_insertUser sound.users]
          cases inserted : core.users.insert row with
          | error error =>
              rintro ⟨⟩
              have known := UserTable.status_insert inserted
              simp only [Question.failureStatuses, List.mem_cons]
              exact known.imp_right .inl
          | ok made => nofun
      | putSession token identity lifetime =>
          rw [answer_putSession sound.sessions]
          split
          · rintro ⟨⟩
            simp [Question.failureStatuses, AuthError.status]
          · cases stored : core.sessions.set core.now token identity.encode (some lifetime) with
            | error error =>
                rintro ⟨⟩
                have known := ExpiringMap.status_set stored
                simp [Question.failureStatuses, known]
            | ok sessions => nofun
      | deleteSession token =>
          rw [answer_deleteSession sound.sessions]
          split
          · rintro ⟨⟩
            simp [Question.failureStatuses, AuthError.status]
          · nofun
      | getSession token =>
          rw [answer_getSession_of_sound sound.sessions]
          split
          · rintro ⟨⟩
            simp [Question.failureStatuses, AuthError.status]
          · cases known : identityOf (core.sessions.get core.now token).1 with
            | ok identity => nofun
            | error error =>
                rintro ⟨⟩
                simpa [Question.failureStatuses] using .inr (status_identityOf known)
      | readClock | drawSalt | drawToken | log event => nofun

/-- A turn without a failure is answered as the core answers it. -/
theorem Takes.answer_eq (takes : core.Takes turn next) (fine : turn.failure? = none) :
    core.answer turn.1 = (turn.2, next) := by
  cases takes with
  | answered question => rfl
  | failed failed => cases failed.symm.trans fine

theorem Takes.set_of_put (sound : core.IsSound) {token : String} {identity : Identity}
    {lifetime : Time.Lifetime}
    (takes : core.Takes ⟨.putSession token identity lifetime, .ok ()⟩ next) :
    core.sessions.set core.now token identity.encode (some lifetime) = .ok next.sessions := by
  have answered : core.answer (.putSession token identity lifetime) = (.ok (), next) :=
    takes.answer_eq rfl
  rw [answer_putSession sound.sessions] at answered
  split at answered
  · cases answered
  · cases stored : core.sessions.set core.now token identity.encode (some lifetime) with
    | ok sessions =>
        rw [stored] at answered
        cases answered
        rfl
    | error error =>
        rw [stored] at answered
        cases answered

theorem Takes.sessions_of_delete (sound : core.IsSound) {token : String}
    (takes : core.Takes ⟨.deleteSession token, .ok ()⟩ next) :
    next.sessions = core.sessions.erase token := by
  have answered : core.answer (.deleteSession token) = (.ok (), next) := takes.answer_eq rfl
  rw [answer_deleteSession sound.sessions] at answered
  split at answered
  · cases answered
  · cases answered
    rfl

theorem Takes.find?_of_get (sound : core.IsSound) {token : String} {identity : Identity}
    (takes : core.Takes ⟨.getSession token, .ok identity⟩ next) {key : String}
    (other : key ≠ token) : next.sessions.find? key = core.sessions.find? key := by
  have answered : core.answer (.getSession token) = (.ok identity, next) := takes.answer_eq rfl
  rw [answer_getSession_of_sound sound.sessions] at answered
  split at answered
  · cases answered
  · obtain ⟨-, rfl⟩ := Prod.mk.inj answered
    exact (ExpiringMap.find?_get _ _ _ _).trans (if_neg other)

/-- What the clock is said to show, it shows, and nothing changes. -/
theorem Takes.of_readClock {now : Time.Instant} (takes : core.Takes ⟨.readClock, now⟩ next) :
    now = core.now ∧ next = core := by
  have answered : core.answer .readClock = (now, next) := takes.answer_eq rfl
  exact ⟨(congrArg Prod.fst answered).symm, (congrArg Prod.snd answered).symm⟩

/-! ## Conversations -/

theorem Follows.precedes (follows : core.Follows turns after) : core.Precedes after := by
  induction follows with
  | nil core => exact .refl core
  | cons takes _ ih => exact takes.precedes.trans ih

theorem Follows.hosts (sound : core.IsSound) (follows : core.Follows turns after) :
    core.users.Hosts True turns after.users := by
  induction follows with
  | nil core => exact .nil .refl
  | cons takes _ ih => exact .cons .refl (takes.replies sound) (ih (takes.precedes.isSound sound))

theorem Follows.split (follows : core.Follows (turns ++ rest) after) :
    ∃ middle, core.Follows turns middle ∧ middle.Follows rest after := by
  induction turns generalizing core with
  | nil => exact ⟨core, .nil core, follows⟩
  | cons turn turns ih =>
      cases follows with
      | cons takes later =>
          obtain ⟨middle, first, second⟩ := ih later
          exact ⟨middle, .cons takes first, second⟩

theorem follows_singleton_iff : core.Follows [turn] after ↔ core.Takes turn after := by
  constructor
  · intro follows
    cases follows with
    | cons takes later =>
        cases later
        exact takes
  · exact fun takes => .cons takes (.nil after)

/-- Every turn is taken by a core that is as sound as the first one. -/
theorem Follows.exists_takes (follows : core.Follows turns after) (member : turn ∈ turns) :
    ∃ before next, core.Precedes before ∧ before.Takes turn next := by
  induction follows with
  | nil core => cases member
  | @cons core next after first turns takes _ ih =>
      rcases List.mem_cons.mp member with rfl | inside
      · exact ⟨core, next, .refl core, takes⟩
      · obtain ⟨before, later, precedes, taken⟩ := ih inside
        exact ⟨before, later, takes.precedes.trans precedes, taken⟩

theorem Follows.subset (sound : core.IsSound) (follows : core.Follows turns after) :
    core.users.users ⊆ after.users.users := by
  induction follows with
  | nil core => exact List.Subset.refl _
  | cons takes _ ih =>
      exact List.Subset.trans (takes.replies sound).subset (ih (takes.precedes.isSound sound))

/-- What is in the table afterwards was there before, or has been inserted. -/
theorem Follows.mem_users (sound : core.IsSound) (follows : core.Follows turns after)
    (member : user ∈ after.users.users) :
    user ∈ core.users.users ∨
      ∃ row id, ⟨.insertUser row, .ok id⟩ ∈ turns ∧ user = row.withId id := by
  induction follows with
  | nil core => exact .inl member
  | cons takes _ ih =>
      rcases ih (takes.precedes.isSound sound) member with earlier | ⟨row, id, inserted, same⟩
      · rcases (takes.replies sound).users_eq with unchanged | ⟨row, id, rfl, appended⟩
        · exact .inl (unchanged ▸ earlier)
        · rw [appended, List.mem_append, List.mem_singleton] at earlier
          exact earlier.imp_right fun same => ⟨row, id, List.mem_cons_self, same⟩
      · exact .inr ⟨row, id, List.mem_cons_of_mem _ inserted, same⟩

/-- Every turn goes to a table whose accounts afterwards are all there in the end. -/
theorem Follows.exists_replies (sound : core.IsSound) (follows : core.Follows turns after)
    (member : turn ∈ turns) :
    ∃ before next : UserTable, before.Replies True turn next ∧ next.users ⊆ after.users.users := by
  induction follows with
  | nil core => cases member
  | cons takes later ih =>
      have nextSound := takes.precedes.isSound sound
      rcases List.mem_cons.mp member with rfl | inside
      · exact ⟨_, _, takes.replies sound, later.subset nextSound⟩
      · exact ih nextSound inside

theorem Follows.mem_of_inserted (sound : core.IsSound) (follows : core.Follows turns after)
    {row : UserRow} {id : UserId} (inserted : ⟨.insertUser row, .ok id⟩ ∈ turns) :
    row.withId id ∈ after.users.users := by
  obtain ⟨before, next, replies, stays⟩ := follows.exists_replies sound inserted
  exact stays replies.mem_of_inserted

/-- An account that has been found is in the table, under the email that was asked for. -/
theorem Follows.mem_of_found (sound : core.IsSound) (follows : core.Follows turns after)
    {email : String} (found : ⟨.findUser email, .ok user⟩ ∈ turns) :
    user ∈ after.users.users ∧ user.email = email := by
  obtain ⟨before, next, replies, stays⟩ := follows.exists_replies sound found
  have stored := replies.eq_of_found
  exact ⟨stays (replies.subset (List.mem_of_find?_eq_some stored)),
    by simpa using List.find?_some stored⟩

/-- Whatever fails in a conversation, its status is one of those that its question fails with. -/
theorem Follows.status_mem (sound : core.IsSound) (follows : core.Follows turns after)
    (member : turn ∈ turns) {error : AuthError} (failed : turn.failure? = some error)
    {statuses : List Nat} (within : turn.1.failureStatuses ⊆ statuses) :
    error.status ∈ statuses := by
  obtain ⟨before, next, precedes, takes⟩ := follows.exists_takes member
  exact within (takes.status_mem (precedes.isSound sound) failed)

/-- What a program asks in a core follows the core. -/
theorem follows_transcript {α : Type} (program : Program α) (core : Core) :
    core.Follows (program.transcript answer core) (core.run program).2 := by
  induction program generalizing core with
  | done value => exact .nil core
  | ask question resume ih =>
      have later := ih (core.answer question).1 (core.answer question).2
      rw [Program.transcript_ask]
      cases log : question.isLog with
      | false => exact .cons (.answered core question) later
      | true =>
          cases question with
          | log event => exact later
          | _ => cases log

end Core

end SessionGate
