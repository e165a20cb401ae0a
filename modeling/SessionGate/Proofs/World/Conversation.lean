import SessionGate.Program

/-!
# Conversations

A program is in conversation with its surroundings: every question but an event for the log is a
turn, together with the answer that it was given. What a program may come to, whatever it is told,
is described by its conversations; what it comes to in given surroundings is one of them.
-/

namespace SessionGate

/-- A question with the answer that it was given. -/
abbrev Turn := Σ question : Question, question.Answer

/-- The failure that a store has answered with, or that follows from what the random source
reports. -/
def Turn.failure? : Turn → Option AuthError
  | ⟨.findUser _, .error error⟩ => some error
  | ⟨.emailTaken _, .error error⟩ => some error
  | ⟨.insertUser _, .error error⟩ => some error
  | ⟨.putSession _ _ _, .error error⟩ => some error
  | ⟨.deleteSession _, .error error⟩ => some error
  | ⟨.getSession _, .error error⟩ => some error
  | ⟨.drawSalt, .error report⟩ => some (.internal (.saltDraw report))
  | ⟨.drawToken, .error report⟩ => some (.internal (.tokenDraw report))
  | _ => none

/-- What answers questions, out of a state that every answer may change. -/
abbrev Surroundings (σ : Type) := (question : Question) → σ → question.Answer × σ

/-- Whether the question is an event for the log. -/
def Question.isLog : Question → Bool
  | .log _ => true
  | _ => false

namespace Program

variable {α β σ : Type}

/-- The program ends with the value after these turns. The log is left out. -/
inductive Converses : Program α → List Turn → α → Prop where
  | done (value : α) : (done value).Converses [] value
  | logged {event : Event} {resume : Unit → Program α} {turns : List Turn} {value : α}
      (later : (resume ()).Converses turns value) :
      (ask (.log event) resume).Converses turns value
  | asked {question : Question} {resume : question.Answer → Program α} {turns : List Turn}
      {value : α} (heard : question.isLog = false) (answer : question.Answer)
      (later : (resume answer).Converses turns value) :
      (ask question resume).Converses (⟨question, answer⟩ :: turns) value

/-- The turns of a program in given surroundings. -/
def transcript (answer : Surroundings σ) : Program α → σ → List Turn
  | .done _, _ => []
  | .ask question resume, state =>
      let (reply, after) := answer question state
      let later := (resume reply).transcript answer after
      if question.isLog then later else ⟨question, reply⟩ :: later

theorem transcript_ask (answer : Surroundings σ) (question : Question)
    (resume : question.Answer → Program α) (state : σ) :
    (ask question resume).transcript answer state =
      if question.isLog then
        (resume (answer question state).1).transcript answer (answer question state).2
      else ⟨question, (answer question state).1⟩ ::
        (resume (answer question state).1).transcript answer (answer question state).2 :=
  rfl

/-- What happens in given surroundings is one of the conversations. -/
theorem converses_transcript (answer : Surroundings σ) (program : Program α) (state : σ) :
    program.Converses (program.transcript answer state) (program.run answer state).1 := by
  induction program generalizing state with
  | done value => exact .done value
  | ask question resume ih =>
      have later := ih (answer question state).1 (answer question state).2
      rw [transcript_ask, run_ask]
      -- An event for the log is no turn: nobody answers it.
      cases log : question.isLog with
      | false => exact .asked log _ later
      | true =>
          cases question with
          | log event => exact .logged later
          | _ => cases log

/-- Every turn has been answered by the surroundings in one of their states. -/
theorem exists_state_of_mem_transcript {answer : Surroundings σ} {program : Program α} {state : σ}
    {turn : Turn} (member : turn ∈ program.transcript answer state) :
    ∃ before, turn.2 = (answer turn.1 before).1 := by
  induction program generalizing state with
  | done value => cases member
  | ask question resume ih =>
      rw [transcript_ask] at member
      cases log : question.isLog with
      | true =>
          rw [log, if_pos rfl] at member
          exact ih _ member
      | false =>
          rw [log, if_neg Bool.false_ne_true] at member
          rcases List.mem_cons.mp member with rfl | later
          · exact ⟨state, rfl⟩
          · exact ih _ later

variable {turns : List Turn} {value : α}

@[simp]
theorem converses_done_iff {other : α} :
    (done other).Converses turns value ↔ turns = [] ∧ value = other := by
  constructor
  · rintro ⟨⟩
    exact ⟨rfl, rfl⟩
  · rintro ⟨rfl, rfl⟩
    exact .done _

theorem converses_bind_iff {program : Program β} {next : β → Program α} :
    (program >>= next).Converses turns value ↔
      ∃ first rest middle, turns = first ++ rest ∧ program.Converses first middle ∧
        (next middle).Converses rest value := by
  constructor
  · intro converses
    induction program generalizing turns with
    | done middle => exact ⟨[], turns, middle, rfl, .done middle, converses⟩
    | ask question resume ih =>
        rw [bind_ask] at converses
        cases converses with
        | logged later =>
            obtain ⟨first, rest, middle, rfl, before, behind⟩ := ih () later
            exact ⟨first, rest, middle, rfl, .logged before, behind⟩
        | asked heard answer later =>
            obtain ⟨first, rest, middle, rfl, before, behind⟩ := ih answer later
            exact ⟨_ :: first, rest, middle, rfl, .asked heard answer before, behind⟩
  · -- The other way the induction is on the conversation of the first part, not on its program.
    rintro ⟨first, rest, middle, rfl, before, behind⟩
    induction before with
    | done middle => exact behind
    | logged _ ih => exact .logged (ih behind)
    | asked heard answer _ ih => exact .asked heard answer (ih behind)

theorem converses_query_iff (question : Question) {answer : question.Answer}
    (heard : question.isLog = false) :
    (query question).Converses turns answer ↔ turns = [⟨question, answer⟩] := by
  constructor
  · intro converses
    cases question with
    | log event => cases heard
    | _ =>
        cases converses with
        | asked _ _ later =>
            obtain ⟨rfl, rfl⟩ := converses_done_iff.mp later
            rfl
  · rintro rfl
    exact .asked heard answer (.done answer)

theorem converses_query_log_iff {event : Event} {value : Unit} :
    (query (.log event)).Converses turns value ↔ turns = [] := by
  constructor
  · intro converses
    cases converses with
    | logged later => exact (converses_done_iff.mp later).1
    | asked heard _ _ => cases heard
  · rintro rfl
    exact .logged (.done ())

end Program

namespace Action

variable {α β σ : Type} {turns : List Turn} {result : Except AuthError α}

/-- The action comes to the result after these turns. -/
def Converses (action : Action α) (turns : List Turn) (result : Except AuthError α) : Prop :=
  Program.Converses action.run turns result

/-- The turns of an action in given surroundings. -/
def transcript (answer : Surroundings σ) (action : Action α) (state : σ) : List Turn :=
  Program.transcript answer action.run state

/-- What an action comes to in given surroundings. -/
def outcome (answer : Surroundings σ) (action : Action α) (state : σ) : Except AuthError α :=
  (Program.run answer action.run state).1

theorem converses_transcript (answer : Surroundings σ) (action : Action α) (state : σ) :
    action.Converses (action.transcript answer state) (action.outcome answer state) :=
  Program.converses_transcript answer action.run state

@[simp]
theorem converses_settled_iff {settled : Except AuthError α} :
    Converses (ExceptT.mk (pure settled)) turns result ↔ turns = [] ∧ result = settled :=
  Program.converses_done_iff

@[simp]
theorem converses_pure_iff {value : α} :
    Converses (pure value) turns result ↔ turns = [] ∧ result = .ok value :=
  Program.converses_done_iff

@[simp]
theorem converses_throw_iff {error : AuthError} :
    Converses (throw error) turns result ↔ turns = [] ∧ result = .error error :=
  Program.converses_done_iff

/-- An action goes on where its first part has succeeded, and otherwise ends as that does. -/
theorem converses_bind_iff {action : Action β} {next : β → Action α} :
    Converses (action >>= next) turns result ↔
      (∃ error, action.Converses turns (.error error) ∧ result = .error error) ∨
        ∃ first rest value, turns = first ++ rest ∧ action.Converses first (.ok value) ∧
          (next value).Converses rest result := by
  change (action.run >>= ExceptT.bindCont next : Program (Except AuthError α)).Converses turns
    result ↔ _
  rw [Program.converses_bind_iff]
  constructor
  · rintro ⟨first, rest, error | value, rfl, before, behind⟩
    · obtain ⟨rfl, rfl⟩ := Program.converses_done_iff.mp behind
      exact .inl ⟨error, (List.append_nil first).symm ▸ before, rfl⟩
    · exact .inr ⟨first, rest, value, rfl, before, behind⟩
  · rintro (⟨error, before, rfl⟩ | ⟨first, rest, value, rfl, before, behind⟩)
    · exact ⟨turns, [], .error error, (List.append_nil turns).symm, before, .done _⟩
    · exact ⟨first, rest, .ok value, rfl, before, behind⟩

@[simp]
theorem converses_throw_bind_iff {error : AuthError} {next : β → Action α} :
    Converses (throw error >>= next) turns result ↔ turns = [] ∧ result = .error error :=
  Program.converses_done_iff

theorem converses_perform_iff {program : Program α} :
    (perform program).Converses turns result ↔
      ∃ value, program.Converses turns value ∧ result = .ok value := by
  have lifted : (perform program).run = program >>= fun value => .done (.ok value) := by
    rw [perform, ExceptT.run_lift, ← bind_pure_comp]
    rfl
  rw [Converses, lifted, Program.converses_bind_iff]
  constructor
  · rintro ⟨first, rest, value, rfl, before, behind⟩
    obtain ⟨rfl, rfl⟩ := Program.converses_done_iff.mp behind
    exact ⟨value, (List.append_nil first).symm ▸ before, rfl⟩
  · rintro ⟨value, before, rfl⟩
    exact ⟨turns, [], value, (List.append_nil turns).symm, before, .done _⟩

/-- What cannot fail is always gone on from. -/
theorem converses_perform_bind_iff {program : Program β} {next : β → Action α} :
    Converses (perform program >>= next) turns result ↔
      ∃ first rest value, turns = first ++ rest ∧ program.Converses first value ∧
        (next value).Converses rest result := by
  rw [converses_bind_iff]
  constructor
  · rintro (⟨error, before, -⟩ | ⟨first, rest, value, rfl, before, behind⟩)
    · obtain ⟨_, -, impossible⟩ := converses_perform_iff.mp before
      cases impossible
    · obtain ⟨_, first', same⟩ := converses_perform_iff.mp before
      cases same
      exact ⟨first, rest, value, rfl, first', behind⟩
  · rintro ⟨first, rest, value, rfl, before, behind⟩
    exact .inr ⟨first, rest, value, rfl, converses_perform_iff.mpr ⟨value, before, rfl⟩, behind⟩

theorem converses_perform_query_bind_iff (question : Question) (heard : question.isLog = false)
    {next : question.Answer → Action α} :
    Converses (perform (Program.query question) >>= next) turns result ↔
      ∃ answer rest, turns = ⟨question, answer⟩ :: rest ∧ (next answer).Converses rest result := by
  rw [converses_perform_bind_iff]
  simp only [Program.converses_query_iff question heard]
  constructor
  · rintro ⟨_, rest, answer, rfl, rfl, behind⟩
    exact ⟨answer, rest, rfl, behind⟩
  · rintro ⟨answer, rest, rfl, behind⟩
    exact ⟨_, rest, answer, rfl, rfl, behind⟩

/-! ## Questions as actions -/

@[simp]
theorem converses_findUser_iff {email : String} {result : Except AuthError User} :
    (findUser email).Converses turns result ↔ turns = [⟨.findUser email, result⟩] :=
  Program.converses_query_iff (.findUser email) rfl

@[simp]
theorem converses_emailTaken_iff {email : String} {result : Except AuthError Bool} :
    (emailTaken email).Converses turns result ↔ turns = [⟨.emailTaken email, result⟩] :=
  Program.converses_query_iff (.emailTaken email) rfl

@[simp]
theorem converses_insertUser_iff {row : UserRow} {result : Except AuthError UserId} :
    (insertUser row).Converses turns result ↔ turns = [⟨.insertUser row, result⟩] :=
  Program.converses_query_iff (.insertUser row) rfl

@[simp]
theorem converses_putSession_iff {token : String} {identity : Identity} {lifetime : Time.Lifetime}
    {result : Except AuthError Unit} :
    (putSession token identity lifetime).Converses turns result ↔
      turns = [⟨.putSession token identity lifetime, result⟩] :=
  Program.converses_query_iff (.putSession token identity lifetime) rfl

@[simp]
theorem converses_deleteSession_iff {token : String} {result : Except AuthError Unit} :
    (deleteSession token).Converses turns result ↔ turns = [⟨.deleteSession token, result⟩] :=
  Program.converses_query_iff (.deleteSession token) rfl

@[simp]
theorem converses_getSession_iff {token : String} {result : Except AuthError Identity} :
    (getSession token).Converses turns result ↔ turns = [⟨.getSession token, result⟩] :=
  Program.converses_query_iff (.getSession token) rfl

@[simp]
theorem converses_readClock_iff {result : Except AuthError Time.Instant} :
    readClock.Converses turns result ↔
      ∃ now, turns = [⟨.readClock, now⟩] ∧ result = .ok now := by
  rw [readClock, converses_perform_iff]
  simp only [Program.converses_query_iff .readClock rfl]

/-- What goes on with what is drawn ends in a fault where nothing is. -/
theorem converses_draw_bind_iff {program : Program (Except String β)} {fault : String → Fault}
    {next : β → Action α} :
    Converses (draw program fault >>= next) turns result ↔
      (∃ report, program.Converses turns (.error report) ∧
        result = .error (.internal (fault report))) ∨
      ∃ first rest value, turns = first ++ rest ∧ program.Converses first (.ok value) ∧
        (next value).Converses rest result := by
  have drawn : (draw program fault >>= next).run = program >>= fun drawn =>
      ExceptT.bindCont next (drawn.mapError fun report => .internal (fault report)) :=
    Program.bind_assoc program _ _
  rw [Converses, drawn, Program.converses_bind_iff]
  constructor
  · rintro ⟨first, rest, report | value, rfl, before, behind⟩
    · obtain ⟨rfl, rfl⟩ := Program.converses_done_iff.mp behind
      exact .inl ⟨report, (List.append_nil first).symm ▸ before, rfl⟩
    · exact .inr ⟨first, rest, value, rfl, before, behind⟩
  · rintro (⟨report, before, rfl⟩ | ⟨first, rest, value, rfl, before, behind⟩)
    · exact ⟨turns, [], .error report, (List.append_nil turns).symm, before, .done _⟩
    · exact ⟨first, rest, .ok value, rfl, before, behind⟩

theorem converses_drawSalt_bind_iff {next : Salt → Action α} :
    Converses (drawSalt >>= next) turns result ↔
      (∃ report, turns = [⟨.drawSalt, .error report⟩] ∧
        result = .error (.internal (.saltDraw report))) ∨
      ∃ salt rest, turns = ⟨.drawSalt, .ok salt⟩ :: rest ∧ (next salt).Converses rest result := by
  rw [drawSalt, converses_draw_bind_iff]
  simp only [Program.converses_query_iff .drawSalt rfl]
  refine or_congr_right ⟨?_, ?_⟩
  · rintro ⟨_, rest, salt, rfl, rfl, behind⟩
    exact ⟨salt, rest, rfl, behind⟩
  · rintro ⟨salt, rest, rfl, behind⟩
    exact ⟨_, rest, salt, rfl, rfl, behind⟩

theorem converses_drawToken_bind_iff {next : TokenBytes → Action α} :
    Converses (drawToken >>= next) turns result ↔
      (∃ report, turns = [⟨.drawToken, .error report⟩] ∧
        result = .error (.internal (.tokenDraw report))) ∨
      ∃ bytes rest, turns = ⟨.drawToken, .ok bytes⟩ :: rest ∧
        (next bytes).Converses rest result := by
  rw [drawToken, converses_draw_bind_iff]
  simp only [Program.converses_query_iff .drawToken rfl]
  refine or_congr_right ⟨?_, ?_⟩
  · rintro ⟨_, rest, bytes, rfl, rfl, behind⟩
    exact ⟨bytes, rest, rfl, behind⟩
  · rintro ⟨bytes, rest, rfl, behind⟩
    exact ⟨_, rest, bytes, rfl, rfl, behind⟩

@[simp]
theorem converses_logService_iff {level : Level} {message : String}
    {fields : List (String × String)} {result : Except AuthError Unit} :
    (logService level message fields).Converses turns result ↔ turns = [] ∧ result = .ok () := by
  rw [logService, log, converses_perform_iff]
  constructor
  · rintro ⟨_, logged, rfl⟩
    exact ⟨Program.converses_query_log_iff.mp logged, rfl⟩
  · rintro ⟨rfl, rfl⟩
    exact ⟨(), Program.converses_query_log_iff.mpr rfl, rfl⟩

/-- An event for the log leaves no trace in a conversation. -/
theorem converses_logService_bind_iff {level : Level} {message : String}
    {fields : List (String × String)} {next : Unit → Action α} :
    Converses (logService level message fields >>= next) turns result ↔
      (next ()).Converses turns result := by
  rw [converses_bind_iff]
  constructor
  · rintro (⟨error, logged, -⟩ | ⟨first, rest, value, rfl, logged, behind⟩)
    · cases (converses_logService_iff.mp logged).2
    · obtain ⟨rfl, -⟩ := converses_logService_iff.mp logged
      exact behind
  · intro behind
    exact .inr ⟨[], turns, (), rfl, converses_logService_iff.mpr ⟨rfl, rfl⟩, behind⟩

end Action

end SessionGate
