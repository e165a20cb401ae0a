import SessionGate.Proofs.Concurrency.Calls

/-!
# What is settled before it is done

Some answers do not depend on what the stores hold: those of the clock and the random source, that
of storing a session, and the refusal of a row that lacks a part. A program that asks for nothing
else has its end settled, and with it the one entry that it may still store.
-/

namespace SessionGate

open Time

namespace Question

/-- The answer to a question that nothing but the call itself has a say in. -/
def drawn? (draws : Draws) : (question : Question) → Option question.Answer
  | .drawSalt => some (.ok draws.salt)
  | .drawToken => some (.ok draws.token)
  | .log _ => some ()
  | _ => none

/-- The answer to a question that no store has a say in. -/
def certain? (draws : Draws) (now : Instant) : (question : Question) → Option question.Answer
  | .insertUser row =>
      if row.email.isEmpty || row.password.octets.isEmpty then
        some (.error (.badRequest .incompleteRow))
      else none
  | .readClock => some now
  | question => question.drawn? draws

/-- The answer to storing a session, and the entry that is stored where there is no failure. -/
def stored? (now : Instant) : (question : Question) →
    Option (question.Answer × Option (String × Entry))
  | .putSession token identity lifetime =>
      if token.isEmpty then some (.error .invalidToken, none)
      else match ExpiringMap.expiry now (some lifetime) with
        | .error error => some (.error error, none)
        | .ok expires => some (.ok (), some (token, ⟨identity.encode, expires⟩))
  | _ => none

/-- Whether the answer depends on what the stores hold. -/
def IsContended (draws : Draws) (question : Question) : Prop :=
  ∀ now, question.certain? draws now = none ∧ question.stored? now = none

/-- Whether the answer does not depend on the clock. -/
def IsTimeless : Question → Prop
  | .readClock | .putSession _ _ _ => False
  | _ => True

variable {draws : Draws} {now : Instant} {question : Question} {answer : question.Answer}

theorem certain?_of_drawn? (drawn : question.drawn? draws = some answer) (now : Instant) :
    question.certain? draws now = some answer := by
  cases question with
  | insertUser row => cases drawn
  | readClock => cases drawn
  | _ => exact drawn

theorem stored?_of_certain? (certain : question.certain? draws now = some answer) :
    question.stored? now = none := by
  cases question with
  | putSession token identity lifetime => cases certain
  | _ => rfl

theorem stored?_putSession (token : String) (identity : Identity) (lifetime : Lifetime)
    (now : Instant) :
    ∃ answer entry, (Question.putSession token identity lifetime).stored? now =
      some (answer, entry) ∧ (entry = none ∨ ∃ kept, entry = some (token, kept)) := by
  rw [stored?]
  cases token.isEmpty with
  | true => exact ⟨_, _, rfl, .inl rfl⟩
  | false =>
      cases ExpiringMap.expiry now (some lifetime) with
      | error error => exact ⟨_, _, rfl, .inl rfl⟩
      | ok expires => exact ⟨_, _, rfl, .inr ⟨_, rfl⟩⟩

theorem IsTimeless.certain?_eq (timeless : question.IsTimeless) (draws : Draws)
    (now later : Instant) : question.certain? draws now = question.certain? draws later := by
  cases question with
  | readClock => exact timeless.elim
  | _ => rfl

theorem IsTimeless.stored?_eq_none (timeless : question.IsTimeless) (now : Instant) :
    question.stored? now = none := by
  cases question with
  | putSession token identity lifetime => exact timeless.elim
  | _ => rfl

end Question

namespace Program

variable {α β : Type} {draws : Draws} {now : Instant}

/-- What remains of a program at the first question that others have a say in. -/
def skip (draws : Draws) : Program α → Program α
  | .done value => .done value
  | .ask question resume =>
      match question.drawn? draws with
      | some answer => (resume answer).skip draws
      | none => .ask question resume

/-- The end of a program whose questions all have certain answers. -/
def conclude (draws : Draws) (now : Instant) : Program α → Option α
  | .done value => some value
  | .ask question resume =>
      match question.certain? draws now with
      | some answer => (resume answer).conclude draws now
      | none => none

/-- The end of a program whose questions all have certain answers, but for one session that it
may store on the way; and the entry of that session. -/
def foresee (draws : Draws) (now : Instant) : Program α → Option (α × Option (String × Entry))
  | .done value => some (value, none)
  | .ask question resume =>
      match question.stored? now with
      | some (answer, entry) => ((resume answer).conclude draws now).map fun value => (value, entry)
      | none =>
          match question.certain? draws now with
          | some answer => (resume answer).foresee draws now
          | none => none

/-- Whether nothing that the program may ask depends on the clock. -/
def IsTimeless : Program α → Prop
  | .done _ => True
  | .ask question resume => question.IsTimeless ∧ ∀ answer, (resume answer).IsTimeless

variable {question : Question} {resume : question.Answer → Program α} {answer : question.Answer}

theorem foresee_ask_of_certain? (certain : question.certain? draws now = some answer) :
    (ask question resume).foresee draws now = (resume answer).foresee draws now := by
  simp only [foresee, Question.stored?_of_certain? certain, certain]

theorem foresee_ask_of_stored? {entry : Option (String × Entry)}
    (stored : question.stored? now = some (answer, entry)) :
    (ask question resume).foresee draws now =
      ((resume answer).conclude draws now).map fun value => (value, entry) := by
  simp only [foresee, stored]

theorem foresee_ask_of_isContended (contended : question.IsContended draws) (now : Instant) :
    (ask question resume).foresee draws now = none := by
  obtain ⟨uncertain, unstored⟩ := contended now
  simp only [foresee, unstored, uncertain]

theorem foresee_of_conclude {program : Program α} {value : α}
    (concluded : program.conclude draws now = some value) :
    program.foresee draws now = some (value, none) := by
  induction program with
  | done other => simpa [conclude, foresee] using concluded
  | ask question resume ih =>
      rw [conclude] at concluded
      cases certain : question.certain? draws now with
      | none => simp [certain] at concluded
      | some answer =>
          rw [foresee_ask_of_certain? certain]
          rw [certain] at concluded
          exact ih answer concluded

theorem foresee_skip (program : Program α) (draws : Draws) (now : Instant) :
    (program.skip draws).foresee draws now = program.foresee draws now := by
  induction program with
  | done value => rfl
  | ask question resume ih =>
      rw [skip]
      cases drawn : question.drawn? draws with
      | none => rfl
      | some answer =>
          rw [foresee_ask_of_certain? (Question.certain?_of_drawn? drawn now)]
          exact ih answer

theorem foresee_bind {program : Program α} {next : α → Program β} {value : α}
    (concluded : program.conclude draws now = some value) :
    (program >>= next).foresee draws now = (next value).foresee draws now := by
  induction program with
  | done other =>
      obtain rfl := Option.some.inj concluded
      rfl
  | ask question resume ih =>
      rw [conclude] at concluded
      cases certain : question.certain? draws now with
      | none => simp [certain] at concluded
      | some answer =>
          rw [certain] at concluded
          rw [bind_ask, foresee_ask_of_certain? certain]
          exact ih answer concluded

/-- What is settled of a timeless program does not change with the clock, and stores nothing. -/
theorem IsTimeless.foresee_eq {program : Program α} (timeless : program.IsTimeless)
    (draws : Draws) (now later : Instant) :
    program.foresee draws now = program.foresee draws later := by
  induction program with
  | done value => rfl
  | ask question resume ih =>
      obtain ⟨first, rest⟩ := timeless
      rw [foresee, foresee, first.stored?_eq_none, first.stored?_eq_none,
        first.certain?_eq draws now later]
      cases question.certain? draws later with
      | none => rfl
      | some answer => exact ih answer (rest answer)

theorem IsTimeless.eq_none_of_foresee {program : Program α} (timeless : program.IsTimeless)
    {value : α} {entry : Option (String × Entry)}
    (foreseen : program.foresee draws now = some (value, entry)) : entry = none := by
  induction program with
  | done other => exact (Prod.mk.inj (Option.some.inj foreseen)).2.symm
  | ask question resume ih =>
      obtain ⟨first, rest⟩ := timeless
      rw [foresee, first.stored?_eq_none] at foreseen
      cases certain : question.certain? draws now with
      | none => simp [certain] at foreseen
      | some answer =>
          rw [certain] at foreseen
          exact ih answer (rest answer) foreseen

end Program

namespace Action

variable {α β γ : Type} {draws : Draws} {now : Instant} {image : Except AuthError β → γ}

theorem foresee_bind {action : Action α} {next : α → Action β} {outcome : Except AuthError α}
    (concluded : Program.conclude draws now action = some outcome) :
    (image <$> (action >>= next).run).foresee draws now =
      (image <$> ExceptT.bindCont next outcome).foresee draws now := by
  have joined : image <$> (action >>= next).run =
      action.run >>= fun outcome => image <$> ExceptT.bindCont next outcome :=
    Program.bind_assoc _ _ _
  rw [joined]
  exact Program.foresee_bind concluded

theorem foresee_putSession {next : Unit → Action β} {token : String} {identity : Identity}
    {lifetime : Lifetime} {answer : Except AuthError Unit} {entry : Option (String × Entry)}
    (stored : (Question.putSession token identity lifetime).stored? now = some (answer, entry)) :
    (image <$> (Action.putSession token identity lifetime >>= next).run).foresee draws now =
      ((image <$> ExceptT.bindCont next answer).conclude draws now).map
        fun value => (value, entry) :=
  Program.foresee_ask_of_stored? stored

end Action

theorem Hasher.conclude_verify (hasher : Hasher) (password : Octets) (stored : PasswordRecord)
    (draws : Draws) (now : Instant) :
    Program.conclude draws now (Action.perform (hasher.verify password stored)) =
      some (.ok (hasher.verifies password stored)) := by
  rw [Hasher.verify, Hasher.verifies]
  cases hasher.check password stored with
  | malformed => rfl
  | failed error => rfl
  | compared isSame => cases isSame <;> rfl

namespace Core

variable {α : Type} {core : Core} {draws : Draws}

/-- The core with one more entry, if there is one. -/
def keep (core : Core) : Option (String × Entry) → Core
  | none => core
  | some (token, entry) => { core with sessions := core.sessions.insert token entry }

theorem runDrawing_ask (question : Question) (resume : question.Answer → Program α) :
    core.runDrawing draws (.ask question resume) =
      (core.answerDrawing draws question).2.runDrawing draws
        (resume (core.answerDrawing draws question).1) :=
  rfl

theorem answerDrawing_of_drawn? {question : Question} {answer : question.Answer}
    (drawn : question.drawn? draws = some answer) (core : Core) :
    core.answerDrawing draws question = (answer, core) := by
  cases question with
  | drawSalt | drawToken | log event =>
      obtain rfl := Option.some.inj drawn
      rfl
  | _ => cases drawn

theorem answerDrawing_of_certain? (sound : core.IsSound) {question : Question}
    {answer : question.Answer} (certain : question.certain? draws core.now = some answer) :
    core.answerDrawing draws question = (answer, core) := by
  cases question with
  | insertUser row =>
      rw [Question.certain?] at certain
      split at certain
      · rename_i incomplete
        obtain rfl := Option.some.inj certain
        have refused : core.users.insert row = .error (.badRequest .incompleteRow) := by
          rw [UserTable.insert, if_pos incomplete]
        exact (answer_insertUser sound.users row).trans (by rw [refused])
      · cases certain
  | readClock =>
      obtain rfl := Option.some.inj certain
      rfl
  | drawSalt | drawToken | log event =>
      obtain rfl := Option.some.inj certain
      rfl
  | _ => cases certain

theorem answerDrawing_of_stored? (sound : core.IsSound) {question : Question}
    {answer : question.Answer} {entry : Option (String × Entry)}
    (stored : question.stored? core.now = some (answer, entry)) :
    core.answerDrawing draws question = (answer, core.keep entry) := by
  cases question with
  | putSession token identity lifetime =>
      rw [Question.stored?] at stored
      apply (answer_putSession sound.sessions token identity lifetime).trans
      rw [ExpiringMap.set]
      cases blank : token.isEmpty with
      | true =>
          rw [blank] at stored
          obtain ⟨rfl, rfl⟩ := Prod.mk.inj (Option.some.inj stored)
          rfl
      | false =>
          rw [blank] at stored
          cases expiry : ExpiringMap.expiry core.now (some lifetime) with
          | error error =>
              rw [expiry] at stored
              obtain ⟨rfl, rfl⟩ := Prod.mk.inj (Option.some.inj stored)
              rfl
          | ok expires =>
              rw [expiry] at stored
              obtain ⟨rfl, rfl⟩ := Prod.mk.inj (Option.some.inj stored)
              rfl
  | _ => cases stored

theorem runDrawing_skip (program : Program α) (core : Core) :
    core.runDrawing draws (program.skip draws) = core.runDrawing draws program := by
  induction program with
  | done value => rfl
  | ask question resume ih =>
      rw [Program.skip]
      cases drawn : question.drawn? draws with
      | none => rfl
      | some answer =>
          rw [runDrawing_ask, answerDrawing_of_drawn? drawn]
          exact ih answer

@[simp]
theorem keep_now (core : Core) (entry : Option (String × Entry)) :
    (core.keep entry).now = core.now := by
  cases entry <;> rfl

theorem IsSound.keep (sound : core.IsSound) (entry : Option (String × Entry)) :
    (core.keep entry).IsSound := by
  cases entry with
  | none => exact sound
  | some pair => exact ⟨sound.users, sound.sessions⟩

/-- The next question of a program whose end is foreseen is answered as foreseen: either it stores
the entry, or the entry is still to be stored. -/
theorem answerDrawing_of_foresee (sound : core.IsSound) {question : Question}
    {resume : question.Answer → Program α} {value : α} {entry : Option (String × Entry)}
    (foreseen : (Program.ask question resume).foresee draws core.now = some (value, entry)) :
    ∃ answer kept left, core.answerDrawing draws question = (answer, core.keep kept) ∧
      (resume answer).foresee draws core.now = some (value, left) ∧
      (kept = none ∧ left = entry ∨ kept = entry ∧ left = none) := by
  cases stored : question.stored? core.now with
  | some pair =>
      obtain ⟨answer, kept⟩ := pair
      rw [Program.foresee_ask_of_stored? stored] at foreseen
      obtain ⟨other, concluded, same⟩ := Option.map_eq_some_iff.mp foreseen
      obtain ⟨rfl, rfl⟩ := Prod.mk.inj same
      exact ⟨answer, kept, none, answerDrawing_of_stored? sound stored,
        Program.foresee_of_conclude concluded, .inr ⟨rfl, rfl⟩⟩
  | none =>
      rw [Program.foresee, stored] at foreseen
      cases certain : question.certain? draws core.now with
      | none => simp [certain] at foreseen
      | some answer =>
          rw [certain] at foreseen
          exact ⟨answer, none, entry, answerDrawing_of_certain? sound certain, foreseen,
            .inl ⟨rfl, rfl⟩⟩

/-- What has been foreseen comes true. -/
theorem runDrawing_of_foresee (sound : core.IsSound) {program : Program α} {value : α}
    {entry : Option (String × Entry)}
    (foreseen : program.foresee draws core.now = some (value, entry)) :
    core.runDrawing draws program = (value, core.keep entry) := by
  induction program generalizing core entry with
  | done other =>
      obtain ⟨rfl, rfl⟩ := Prod.mk.inj (Option.some.inj foreseen)
      rfl
  | ask question resume ih =>
      obtain ⟨answer, kept, left, answered, rest, split⟩ := answerDrawing_of_foresee sound foreseen
      rw [← core.keep_now kept] at rest
      rw [runDrawing_ask, answered, ih answer (sound.keep kept) rest]
      rcases split with ⟨rfl, rfl⟩ | ⟨rfl, rfl⟩ <;> rfl

end Core

end SessionGate
