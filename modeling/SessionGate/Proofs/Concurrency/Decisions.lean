import SessionGate.Proofs.Concurrency.Foresight

/-!
# Where calls are decided

A call is decided at one of its questions: from there on its end is foreseen, and until then it
has only looked at the stores, so that it might as well be made all over again.
-/

namespace SessionGate

open Time

namespace Question

/-- Whether the question does no more than look at a store. -/
def IsLook : Question → Prop
  | .findUser _ | .emailTaken _ => True
  | _ => False

/-- Whether the question looks a token up or revokes it. -/
def Touches (token : String) : Question → Prop
  | .deleteSession other | .getSession other => other = token
  | _ => False

end Question

theorem Core.answerDrawing_of_isLook {core : Core} (sound : core.IsSound) {draws : Draws}
    {question : Question} (look : question.IsLook) :
    (core.answerDrawing draws question).2 = core := by
  cases question with
  | findUser email =>
      apply (congrArg Prod.snd (answer_findUser sound.users email)).trans
      cases core.users.find? email <;> rfl
  | emailTaken email => exact congrArg Prod.snd (answer_emailTaken sound.users email)
  | _ => exact look.elim

namespace Manager
variable {draws : Draws} {manager : Manager} {user : NewUser} {role : Role}
  {record : PasswordRecord}

theorem isTimeless_provision (manager : Manager) (user : NewUser) (role : Role) :
    (Reply.opened <$> (manager.provision user role).run).IsTimeless := by
  rw [provision, Hasher.freshTextRecord_eq]
  refine ⟨trivial, fun drawn => ?_⟩
  cases drawn with
  | error report => trivial
  | ok salt =>
      change Program.IsTimeless (Reply.opened <$>
        ExceptT.bindCont _ (manager.hasher.record (Octets.ofText user.password) salt.toList))
      cases manager.hasher.record (Octets.ofText user.password) salt.toList with
      | error error => trivial
      | ok record =>
          refine ⟨trivial, fun answer => ?_⟩
          cases answer with
          | error error => trivial
          | ok id => exact ⟨trivial, fun _ => trivial⟩

theorem isTimeless_register (manager : Manager) (user : NewUser) :
    (Reply.opened <$> (manager.register user).run).IsTimeless := by
  rw [register]
  cases user.isEmpty with
  | true => trivial
  | false =>
      refine ⟨trivial, fun answer => ?_⟩
      rcases answer with error | taken
      · trivial
      · cases taken with
        | true => exact ⟨trivial, fun _ => trivial⟩
        | false => exact manager.isTimeless_provision user .user

theorem isTimeless_logout (token : String) :
    (Reply.revoked <$> (Manager.logout token).run).IsTimeless := by
  rw [logout]
  cases token.isEmpty with
  | true => trivial
  | false =>
      refine ⟨trivial, fun answer => ?_⟩
      cases answer with
      | error error => trivial
      | ok value => exact ⟨trivial, fun _ => trivial⟩

theorem isTimeless_resolve (token : String) :
    (Reply.identified <$> (Manager.resolve token).run).IsTimeless := by
  rw [resolve]
  cases token.isEmpty with
  | true => trivial
  | false =>
      refine ⟨trivial, fun answer => ?_⟩
      cases answer with
      | error error => trivial
      | ok value => exact ⟨trivial, fun _ => trivial⟩

theorem foresee_provision_of_error {error : AuthError}
    (refused : manager.hasher.record (Octets.ofText user.password) draws.salt.toList =
      .error error) (role : Role) (now : Instant) :
    (Reply.opened <$> (manager.provision user role).run).foresee draws now =
      some (.opened (.error error), none) := by
  rw [provision, Hasher.freshTextRecord_eq]
  change Program.foresee draws now (Reply.opened <$>
    ExceptT.bindCont _ (manager.hasher.record (Octets.ofText user.password) draws.salt.toList)) = _
  rw [refused]
  rfl

/-- With a record for the password, the insertion of the account comes next, and what it is
answered is the reply. -/
theorem skip_provision
    (made : manager.hasher.record (Octets.ofText user.password) draws.salt.toList = .ok record)
    (role : Role) :
    ∃ resume, (Reply.opened <$> (manager.provision user role).run).skip draws =
        .ask (.insertUser ⟨user.email, user.name, record, role⟩) resume ∧
      ∀ answer now, (resume answer).foresee draws now = some (.opened answer, none) := by
  rw [provision, Hasher.freshTextRecord_eq]
  change ∃ resume, Program.skip draws (Reply.opened <$>
    ExceptT.bindCont _ (manager.hasher.record (Octets.ofText user.password) draws.salt.toList)) =
      .ask _ resume ∧ _
  rw [made]
  refine ⟨_, rfl, ?_⟩
  intro answer now
  cases answer <;> rfl

end Manager

namespace Operation

/-- Whether an entry, if there is one, is one that the operation may store: that of the token that
it draws, where it is a login. -/
def MayStore (operation : Operation) (draws : Draws) : Option (String × Entry) → Prop
  | none => True
  | some (token, _) => operation.IsLogin ∧ token = draws.tokenText

/-- What remains of an operation has its end foreseen after the next question that is put to a
store, or else that question has been a look and nothing is foreseen yet. Until then the operation
might start again with the same outcome. -/
inductive Undecided (operation : Operation) (draws : Draws) : Program Reply → Prop where
  | intro {program : Program Reply} {question : Question}
      {resume : question.Answer → Program Reply}
      (asks : program.skip draws = .ask question resume)
      (contended : question.IsContended draws)
      (uses : ∀ token, question.Touches token → operation.Uses token)
      (restarts : ∀ core : Core, core.IsSound →
        operation.perform draws core = core.runDrawing draws program)
      (owns : ∀ answer now reply entry,
        (resume answer).foresee draws now = some (reply, entry) → operation.MayStore draws entry)
      (looks : ∀ answer now, (resume answer).foresee draws now = none → question.IsLook)
      (remains : ∀ answer now, (resume answer).foresee draws now = none →
        Undecided operation draws (resume answer)) :
      Undecided operation draws program

/-- How an operation stands that has started: it is undecided or its end is foreseen, and it
stores no entry but its own. Only logins depend on the clock. -/
structure Underway (operation : Operation) (draws : Draws) (now : Instant)
    (program : Program Reply) : Prop where
  stage : operation.Undecided draws program ∨
    ∃ reply entry, program.foresee draws now = some (reply, entry)
  owns : ∀ reply entry, program.foresee draws now = some (reply, entry) →
    operation.MayStore draws entry
  timeless : operation.IsLogin ∨ program.IsTimeless

variable {operation : Operation} {draws : Draws} {now : Instant} {program : Program Reply}

theorem Undecided.foresee_eq_none (undecided : operation.Undecided draws program)
    (now : Instant) : program.foresee draws now = none := by
  obtain ⟨asks, contended⟩ := undecided
  rw [← Program.foresee_skip, asks]
  exact Program.foresee_ask_of_isContended contended now

/-- The answer to a question that no store is asked leaves an operation undecided. -/
theorem Undecided.of_drawn? {question : Question} {resume : question.Answer → Program Reply}
    {answer : question.Answer} (undecided : operation.Undecided draws (.ask question resume))
    (drawn : question.drawn? draws = some answer) :
    operation.Undecided draws (resume answer) := by
  obtain ⟨asks, contended, uses, restarts, owns, looks, remains⟩ := undecided
  rw [Program.skip, drawn] at asks
  refine .intro asks contended uses (fun core sound => ?_) owns looks remains
  rw [restarts core sound, Core.runDrawing_ask, Core.answerDrawing_of_drawn? drawn]

/-- The last question of an operation that is put to a store decides it. -/
theorem Undecided.of_foresee {question : Question} {resume : question.Answer → Program Reply}
    (asks : program.skip draws = .ask question resume) (contended : question.IsContended draws)
    (uses : ∀ token, question.Touches token → operation.Uses token)
    (restarts : ∀ core : Core, core.IsSound →
      operation.perform draws core = core.runDrawing draws program)
    (foreseen : ∀ answer now, ∃ reply entry,
      (resume answer).foresee draws now = some (reply, entry) ∧ operation.MayStore draws entry) :
    operation.Undecided draws program := by
  have never : ∀ answer now, (resume answer).foresee draws now ≠ none := by
    intro answer now
    obtain ⟨reply, entry, known, -⟩ := foreseen answer now
    simp [known]
  refine .intro asks contended uses restarts ?_ ?_ ?_
  · intro answer now reply entry known
    obtain ⟨other, kept, same, owned⟩ := foreseen answer now
    obtain ⟨-, rfl⟩ := Prod.mk.inj (Option.some.inj (same.symm.trans known))
    exact owned
  · intro answer now unknown
    exact absurd unknown (never answer now)
  · intro answer now unknown
    exact absurd unknown (never answer now)

/-! ## Every call has a point of decision -/

/-- An insertion is decided by the store, unless it cannot succeed. -/
theorem undecided_or_foreseen_of_provision {manager : Manager} {user : NewUser} {role : Role}
    (restarts : ∀ record, manager.hasher.record (Octets.ofText user.password) draws.salt.toList =
      .ok record → user.email.isEmpty = false → record.octets.isEmpty = false →
      ∀ core : Core, core.IsSound → operation.perform draws core =
        core.runDrawing draws (Reply.opened <$> (manager.provision user role).run)) :
    operation.Undecided draws (Reply.opened <$> (manager.provision user role).run) ∨
      ∃ reply, ∀ now, (Reply.opened <$> (manager.provision user role).run).foresee draws now =
        some (reply, none) := by
  cases made : manager.hasher.record (Octets.ofText user.password) draws.salt.toList with
  | error error => exact .inr ⟨_, Manager.foresee_provision_of_error made role⟩
  | ok record =>
      obtain ⟨resume, asks, foreseen⟩ := Manager.skip_provision made role
      cases incomplete : (user.email.isEmpty || record.octets.isEmpty) with
      | true =>
          refine .inr ⟨.opened (.error (.badRequest .incompleteRow)), fun now => ?_⟩
          have certain : (Question.insertUser ⟨user.email, user.name, record, role⟩).certain?
              draws now = some (.error (.badRequest .incompleteRow)) := by
            rw [Question.certain?, incomplete]
            rfl
          rw [← Program.foresee_skip, asks, Program.foresee_ask_of_certain? certain]
          exact foreseen _ now
      | false =>
          obtain ⟨email, octets⟩ := Bool.or_eq_false_iff.mp incomplete
          refine .inl (.of_foresee asks (fun now => ⟨?_, rfl⟩) (fun _ => False.elim)
            (restarts record made email octets) fun answer now =>
              ⟨_, _, foreseen answer now, trivial⟩)
          rw [Question.certain?, incomplete]
          rfl

/-- Whoever registers an address that has been taken since the look might as well have found it
taken. -/
theorem perform_register {manager : Manager} {user : NewUser} (something : user.isEmpty = false)
    {record : PasswordRecord}
    (made : manager.hasher.record (Octets.ofText user.password) draws.salt.toList = .ok record)
    (email : user.email.isEmpty = false) (octets : record.octets.isEmpty = false) {core : Core}
    (sound : core.IsSound) :
    (Operation.register manager user).perform draws core =
      core.runDrawing draws (Reply.opened <$> (manager.provision user .user).run) := by
  change core.runDrawing draws (Reply.opened <$> (manager.register user).run) = _
  have asked : core.answerDrawing draws (.emailTaken user.email) =
      (.ok (core.users.contains user.email), core) := Core.answer_emailTaken sound.users user.email
  rw [Manager.register, something]
  apply (Core.runDrawing_ask (.emailTaken user.email) _).trans
  rw [asked]
  cases contained : core.users.contains user.email with
  | false => rfl
  | true =>
      -- The look would have refused the address, and so does the insertion.
      obtain ⟨resume, asks, foreseen⟩ := Manager.skip_provision made .user
      have refused : core.answerDrawing draws
          (.insertUser ⟨user.email, user.name, record, .user⟩) = (.error .alreadyExists, core) := by
        apply (Core.answer_insertUser sound.users _).trans
        rw [UserTable.insert_of_complete email octets, contained]
        rfl
      rw [← Core.runDrawing_skip (Reply.opened <$> (manager.provision user .user).run), asks,
        Core.runDrawing_ask, refused]
      exact (Core.runDrawing_of_foresee sound (foreseen _ core.now)).symm

theorem undecided_or_foreseen_of_register (manager : Manager) (user : NewUser) (draws : Draws) :
    (Operation.register manager user).Undecided draws
        (Reply.opened <$> (manager.register user).run) ∨
      ∃ reply, ∀ now, (Reply.opened <$> (manager.register user).run).foresee draws now =
        some (reply, none) := by
  have timeless := manager.isTimeless_register user
  have restarts : ∀ core : Core, core.IsSound → (Operation.register manager user).perform draws
      core = core.runDrawing draws (Reply.opened <$> (manager.register user).run) := fun _ _ => rfl
  cases something : user.isEmpty with
  | true =>
      rw [Manager.register, something]
      exact .inr ⟨_, fun _ => rfl⟩
  | false =>
      have provisioned : (Operation.register manager user).Undecided draws
            (Reply.opened <$> (manager.provision user .user).run) ∨ _ :=
        undecided_or_foreseen_of_provision fun record made email octets core =>
          perform_register something made email octets
      rw [Manager.register, something] at timeless restarts ⊢
      refine .inl (.intro rfl (fun _ => ⟨rfl, rfl⟩) (fun _ => False.elim) restarts ?_ ?_ ?_)
      · intro answer now reply entry foreseen
        rw [(timeless.2 answer).eq_none_of_foresee foreseen]
        trivial
      · intro answer now unknown
        trivial
      · intro answer now unknown
        rcases answer with error | taken
        · cases unknown
        · cases taken with
          | true => cases unknown
          | false =>
              rcases provisioned with undecided | ⟨reply, foreseen⟩
              · exact undecided
              · exact absurd (unknown.symm.trans (foreseen now)) (by simp)

theorem undecided_login (manager : Manager) (credentials : Credentials) (draws : Draws) :
    (Operation.login manager credentials).Undecided draws
      (Reply.issued <$> (manager.login credentials).run) := by
  refine .of_foresee rfl (fun _ => ⟨rfl, rfl⟩) (fun _ => False.elim) (fun _ _ => rfl) ?_
  intro answer now
  cases answer with
  | error error => exact ⟨_, _, rfl, trivial⟩
  | ok user =>
      have checked := manager.hasher.conclude_verify (Octets.ofText credentials.password)
        user.password draws now
      cases right : manager.hasher.verifies (Octets.ofText credentials.password) user.password with
      | false =>
          rw [right] at checked
          exact ⟨.issued (.error .wrongCredentials), none, Action.foresee_bind checked, trivial⟩
      | true =>
          rw [right] at checked
          have clockRead : Program.conclude draws now Action.readClock = some (.ok now) := rfl
          have tokenDrawn : Program.conclude draws now Action.drawToken = some (.ok draws.token) :=
            rfl
          have sessionOpened : ∀ outcome, manager.openSession user now draws.tokenText = outcome →
              Program.conclude draws now
                (ExceptT.mk (pure (manager.openSession user now draws.tokenText)) : Action _) =
                  some outcome := fun _ => congrArg some
          cases opened : manager.openSession user now draws.tokenText with
          | error error =>
              refine ⟨.issued (.error error), none, (Action.foresee_bind checked).trans ?_, trivial⟩
              apply (Action.foresee_bind clockRead).trans
              apply (Action.foresee_bind tokenDrawn).trans
              exact Action.foresee_bind (sessionOpened _ opened)
          | ok pair =>
              obtain ⟨session, lifetime⟩ := pair
              obtain ⟨named, -⟩ := Manager.eq_of_openSession opened
              obtain ⟨answer, entry, stored, own⟩ :=
                Question.stored?_putSession session.token session.identity lifetime now
              refine ⟨.issued (answer.map fun _ => (session, user.id)), entry,
                (Action.foresee_bind checked).trans ?_, ?_⟩
              · apply (Action.foresee_bind clockRead).trans
                apply (Action.foresee_bind tokenDrawn).trans
                apply (Action.foresee_bind (sessionOpened _ opened)).trans
                apply (Action.foresee_putSession stored).trans
                cases answer <;> rfl
              · rcases own with rfl | ⟨kept, rfl⟩
                · trivial
                · exact ⟨trivial, named⟩

theorem undecided_or_foreseen_of_logout (token : String) (draws : Draws) :
    (Operation.logout token).Undecided draws (Reply.revoked <$> (Manager.logout token).run) ∨
      ∃ reply, ∀ now, (Reply.revoked <$> (Manager.logout token).run).foresee draws now =
        some (reply, none) := by
  have restarts : ∀ core : Core, core.IsSound → (Operation.logout token).perform draws core =
      core.runDrawing draws (Reply.revoked <$> (Manager.logout token).run) := fun _ _ => rfl
  cases blank : token.isEmpty with
  | true =>
      rw [Manager.logout, blank]
      exact .inr ⟨_, fun _ => rfl⟩
  | false =>
      rw [Manager.logout, blank] at restarts ⊢
      refine .inl (.of_foresee rfl (fun _ => ⟨rfl, rfl⟩) (fun _ touched => touched) restarts ?_)
      intro answer now
      cases answer with
      | error error => exact ⟨_, _, rfl, trivial⟩
      | ok value => exact ⟨_, _, rfl, trivial⟩

theorem undecided_or_foreseen_of_resolve (token : String) (draws : Draws) :
    (Operation.resolve token).Undecided draws (Reply.identified <$> (Manager.resolve token).run) ∨
      ∃ reply, ∀ now, (Reply.identified <$> (Manager.resolve token).run).foresee draws now =
        some (reply, none) := by
  have restarts : ∀ core : Core, core.IsSound → (Operation.resolve token).perform draws core =
      core.runDrawing draws (Reply.identified <$> (Manager.resolve token).run) := fun _ _ => rfl
  cases blank : token.isEmpty with
  | true =>
      rw [Manager.resolve, blank]
      exact .inr ⟨_, fun _ => rfl⟩
  | false =>
      rw [Manager.resolve, blank] at restarts ⊢
      refine .inl (.of_foresee rfl (fun _ => ⟨rfl, rfl⟩) (fun _ touched => touched) restarts ?_)
      intro answer now
      cases answer with
      | error error => exact ⟨_, _, rfl, trivial⟩
      | ok value => exact ⟨_, _, rfl, trivial⟩

theorem Underway.of_isTimeless (timeless : program.IsTimeless)
    (stage : operation.Undecided draws program ∨
      ∃ reply, ∀ now, program.foresee draws now = some (reply, none)) (now : Instant) :
    operation.Underway draws now program where
  stage := stage.imp_right fun ⟨reply, foreseen⟩ => ⟨reply, none, foreseen now⟩
  owns reply entry foreseen := by
    rw [timeless.eq_none_of_foresee foreseen]
    trivial
  timeless := .inr timeless

theorem underway_of_work (works : operation.work = .inl program) (draws : Draws)
    (now : Instant) : operation.Underway draws now program := by
  cases operation with
  | register manager user =>
      obtain rfl := Sum.inl.inj works
      exact .of_isTimeless (manager.isTimeless_register user)
        (undecided_or_foreseen_of_register manager user draws) now
  | provision manager user role =>
      obtain rfl := Sum.inl.inj works
      exact .of_isTimeless (manager.isTimeless_provision user role)
        (undecided_or_foreseen_of_provision fun _ _ _ _ _ _ => rfl) now
  | login manager credentials =>
      obtain rfl := Sum.inl.inj works
      have undecided := undecided_login manager credentials draws
      refine ⟨.inl undecided, fun reply entry foreseen => ?_, .inl trivial⟩
      exact absurd (foreseen.symm.trans (undecided.foresee_eq_none now)) (by simp)
  | logout token =>
      obtain rfl := Sum.inl.inj works
      exact .of_isTimeless (Manager.isTimeless_logout token)
        (undecided_or_foreseen_of_logout token draws) now
  | resolve token =>
      obtain rfl := Sum.inl.inj works
      exact .of_isTimeless (Manager.isTimeless_resolve token)
        (undecided_or_foreseen_of_resolve token draws) now
  | setRole id role => cases works
  | setClock later => cases works
  | advance span => cases works

end Operation

end SessionGate
