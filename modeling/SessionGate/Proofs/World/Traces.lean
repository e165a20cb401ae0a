import SessionGate.Proofs.World.Conversation

/-!
# Traces of failures

The proceedings of a program are its questions with their answers, the events for the log among
them. A store's internal failure leaves a trace in them if it is what the program comes to in the
end, or if an event reports it.
-/

namespace SessionGate

namespace Program

variable {α β σ : Type}

/-- The program ends with the value after these turns. The log is not left out. -/
inductive Proceeds : Program α → List Turn → α → Prop where
  | done (value : α) : (done value).Proceeds [] value
  | asked {question : Question} {resume : question.Answer → Program α} {turns : List Turn}
      {value : α} (answer : question.Answer) (later : (resume answer).Proceeds turns value) :
      (ask question resume).Proceeds (⟨question, answer⟩ :: turns) value

/-- The proceedings of a program in given surroundings. -/
def proceedings (answer : Surroundings σ) : Program α → σ → List Turn
  | .done _, _ => []
  | .ask question resume, state =>
      let (reply, after) := answer question state
      ⟨question, reply⟩ :: (resume reply).proceedings answer after

theorem proceeds_proceedings (answer : Surroundings σ) (program : Program α) (state : σ) :
    program.Proceeds (program.proceedings answer state) (program.run answer state).1 := by
  induction program generalizing state with
  | done value => exact .done value
  | ask question resume ih => exact .asked _ (ih _ _)

variable {turns : List Turn} {value : α}

theorem proceeds_done_iff {other : α} :
    (done other).Proceeds turns value ↔ turns = [] ∧ value = other := by
  constructor
  · rintro ⟨⟩
    exact ⟨rfl, rfl⟩
  · rintro ⟨rfl, rfl⟩
    exact .done _

theorem proceeds_query_iff {question : Question} {answer : question.Answer} :
    (query question).Proceeds turns answer ↔ turns = [⟨question, answer⟩] := by
  constructor
  · intro proceeds
    cases proceeds with
    | asked answer later =>
        obtain ⟨rfl, rfl⟩ := proceeds_done_iff.mp later
        rfl
  · rintro rfl
    exact .asked answer (.done answer)

theorem proceeds_bind_iff {program : Program β} {next : β → Program α} :
    (program >>= next).Proceeds turns value ↔
      ∃ first rest middle, turns = first ++ rest ∧ program.Proceeds first middle ∧
        (next middle).Proceeds rest value := by
  constructor
  · intro proceeds
    induction program generalizing turns with
    | done middle => exact ⟨[], turns, middle, rfl, .done middle, proceeds⟩
    | ask question resume ih =>
        rw [bind_ask] at proceeds
        cases proceeds with
        | asked answer later =>
            obtain ⟨first, rest, middle, rfl, before, behind⟩ := ih answer later
            exact ⟨_ :: first, rest, middle, rfl, .asked answer before, behind⟩
  · rintro ⟨first, rest, middle, rfl, before, behind⟩
    induction before with
    | done middle => exact behind
    | asked answer _ ih => exact .asked answer (ih behind)

end Program

/-! ## Reports -/

/-- The event warns of a failure, or tells of it as an error, in the failure's own words. -/
def Event.Reports (event : Event) (error : AuthError) : Prop :=
  (event.level = .warn ∨ event.level = .error) ∧ ("error", error.message) ∈ event.fields

/-- An event among the turns reports the failure. -/
def IsReported (turns : List Turn) (error : AuthError) : Prop :=
  ∃ event : Event, ⟨.log event, ()⟩ ∈ turns ∧ event.Reports error

theorem IsReported.mono {turns more : List Turn} {error : AuthError}
    (reported : IsReported turns error) (within : turns ⊆ more) : IsReported more error := by
  obtain ⟨event, logged, reports⟩ := reported
  exact ⟨event, within logged, reports⟩

/-- No internal failure of a store among the turns is lost, if `left` is the failure that is still
to be told of: each of them is that one or is reported. The turns keep clear of the log of
requests. -/
structure IsTraced (turns : List Turn) (left : Option AuthError) : Prop where
  service : ∀ event : Event, ⟨.log event, ()⟩ ∈ turns → event.channel = .service
  traced : ∀ turn ∈ turns, ∀ fault, turn.failure? = some (.internal fault) →
    left = some (.internal fault) ∨ IsReported turns (.internal fault)

namespace IsTraced

variable {first rest : List Turn} {left remaining : Option AuthError}

theorem nil (left : Option AuthError) : IsTraced [] left :=
  ⟨by simp, by simp⟩

/-- What is left by the first turns has to be left or reported by the rest of them. -/
theorem append (before : IsTraced first left) (behind : IsTraced rest remaining)
    (handed : ∀ fault, left = some (.internal fault) →
      remaining = some (.internal fault) ∨ IsReported rest (.internal fault)) :
    IsTraced (first ++ rest) remaining where
  service event member := by
    rcases List.mem_append.mp member with inFirst | inRest
    · exact before.service event inFirst
    · exact behind.service event inRest
  traced turn member fault failed := by
    have inBehind := List.subset_append_right first rest
    rcases List.mem_append.mp member with inFirst | inRest
    · rcases before.traced turn inFirst fault failed with isLeft | reported
      · exact (handed fault isLeft).imp_right (·.mono inBehind)
      · exact .inr (reported.mono (List.subset_append_left first rest))
    · exact (behind.traced turn inRest fault failed).imp_right (·.mono inBehind)

end IsTraced

/-- Whatever the program is told, no internal failure of a store is lost, if some of its values tell
of a failure themselves. -/
def Program.LeavesTrace {α : Type} (program : Program α) (failure? : α → Option AuthError) :
    Prop :=
  ∀ turns value, program.Proceeds turns value → IsTraced turns (failure? value)

namespace Program

variable {α β : Type} {failure? : α → Option AuthError}

theorem leavesTrace_done (value : α) : (done value).LeavesTrace failure? := by
  intro turns other proceeds
  obtain ⟨rfl, rfl⟩ := proceeds_done_iff.mp proceeds
  exact .nil _

theorem leavesTrace_bind {program : Program β} {next : β → Program α}
    {firstFailure? : β → Option AuthError} (before : program.LeavesTrace firstFailure?)
    (behind : ∀ value, (next value).LeavesTrace failure?)
    (handed : ∀ value fault, firstFailure? value = some (.internal fault) →
      ∀ turns result, (next value).Proceeds turns result →
        failure? result = some (.internal fault) ∨ IsReported turns (.internal fault)) :
    (program >>= next).LeavesTrace failure? := by
  intro turns result proceeds
  obtain ⟨first, rest, middle, rfl, proceedsFirst, proceedsRest⟩ := proceeds_bind_iff.mp proceeds
  exact (before _ _ proceedsFirst).append (behind _ _ _ proceedsRest)
    fun fault isLeft => handed _ fault isLeft _ _ proceedsRest

/-- Where the first part has no failure to tell of, the second part is handed none. -/
theorem leavesTrace_bind_of_none {program : Program β} {next : β → Program α}
    (before : program.LeavesTrace fun _ => none)
    (behind : ∀ value, (next value).LeavesTrace failure?) :
    (program >>= next).LeavesTrace failure? :=
  leavesTrace_bind before behind (by nofun)

/-- A question hands on the failure that it is answered with. -/
theorem leavesTrace_query {question : Question} {failure? : question.Answer → Option AuthError}
    (heard : question.isLog = false)
    (handsOn : ∀ answer, Turn.failure? ⟨question, answer⟩ = failure? answer) :
    (query question).LeavesTrace failure? := by
  intro turns answer proceeds
  obtain rfl := proceeds_query_iff.mp proceeds
  constructor
  · intro event member
    cases List.mem_singleton.mp member
    cases heard
  · intro turn member fault failed
    obtain rfl := List.mem_singleton.mp member
    exact .inl ((handsOn answer).symm.trans failed)

theorem leavesTrace_logService (level : Level) (message : String)
    (fields : List (String × String)) {failure? : Unit → Option AuthError} :
    (logService level message fields).LeavesTrace failure? := by
  intro turns answer proceeds
  obtain rfl := proceeds_query_iff.mp proceeds
  constructor
  · intro event member
    cases List.mem_singleton.mp member
    rfl
  · intro turn member fault failed
    obtain rfl := List.mem_singleton.mp member
    cases failed

end Program

/-! ## Actions -/

/-- The failure that a result tells of. -/
def failureOf {α : Type} : Except AuthError α → Option AuthError
  | .ok _ => none
  | .error error => some error

/-- Whatever the action is told, it passes the stores' internal failures on or reports them. -/
def Action.LeavesTrace {α : Type} (action : Action α) : Prop :=
  Program.LeavesTrace action.run failureOf

/-- Whatever the action is told, a value that it succeeds with is good. -/
def Action.Succeeds {α : Type} (action : Action α) (good : α → Prop) : Prop :=
  ∀ turns value, Program.Proceeds action.run turns (.ok value) → good value

namespace Action

variable {α β : Type} {good : α → Prop}

theorem leavesTrace_settled (outcome : Except AuthError α) :
    LeavesTrace (ExceptT.mk (pure outcome)) :=
  Program.leavesTrace_done outcome

theorem leavesTrace_pure (value : α) : LeavesTrace (pure value) :=
  leavesTrace_settled (.ok value)

theorem leavesTrace_throw (error : AuthError) : LeavesTrace (throw error : Action α) :=
  leavesTrace_settled (.error error)

theorem leavesTrace_bind {action : Action β} {next : β → Action α} (before : action.LeavesTrace)
    (behind : ∀ value, (next value).LeavesTrace) : LeavesTrace (action >>= next) := by
  refine Program.leavesTrace_bind before (fun result => ?_) (fun result fault isLeft => ?_)
  · cases result with
    | ok value => exact behind value
    | error error => exact leavesTrace_throw error
  · cases result with
    | ok value => cases isLeft
    | error error =>
        intro turns later proceeds
        obtain ⟨-, rfl⟩ := Program.proceeds_done_iff.mp proceeds
        exact .inl isLeft

/-- A program may make what it likes of a failure, as long as it reports an internal one. -/
theorem leavesTrace_perform_bind {action : Action β} {next : Except AuthError β → Action α}
    (before : action.LeavesTrace) (behind : ∀ result, (next result).LeavesTrace)
    (reports : ∀ fault turns result,
      Program.Proceeds (next (.error (.internal fault))).run turns result →
        IsReported turns (.internal fault)) :
    LeavesTrace (perform action.run >>= next) := by
  rw [LeavesTrace, perform, ExceptT.run_bind_lift]
  refine Program.leavesTrace_bind before behind fun result fault isLeft turns later proceeds => ?_
  cases result with
  | ok value => cases isLeft
  | error error =>
      cases isLeft
      exact .inr (reports fault turns later proceeds)

theorem leavesTrace_perform {program : Program α} (traced : program.LeavesTrace fun _ => none) :
    (perform program).LeavesTrace := by
  rw [LeavesTrace, perform, ExceptT.run_lift, ← bind_pure_comp]
  exact Program.leavesTrace_bind_of_none traced leavesTrace_pure

theorem leavesTrace_logService (level : Level) (message : String)
    (fields : List (String × String)) : (logService level message fields).LeavesTrace :=
  leavesTrace_perform (Program.leavesTrace_logService level message fields)

theorem proceeds_settled_iff {turns : List Turn} {settled result : Except AuthError α} :
    Program.Proceeds (ExceptT.mk (pure settled) : Action α).run turns result ↔
      turns = [] ∧ result = settled :=
  Program.proceeds_done_iff

/-- An action goes on where its first part has succeeded, and otherwise ends as that does. -/
theorem proceeds_bind_iff {action : Action β} {next : β → Action α} {turns : List Turn}
    {result : Except AuthError α} :
    Program.Proceeds (action >>= next).run turns result ↔
      (∃ error, Program.Proceeds action.run turns (.error error) ∧ result = .error error) ∨
        ∃ first rest value, turns = first ++ rest ∧
          Program.Proceeds action.run first (.ok value) ∧
          Program.Proceeds (next value).run rest result := by
  change Program.Proceeds (action.run >>= ExceptT.bindCont next) turns result ↔ _
  rw [Program.proceeds_bind_iff]
  constructor
  · rintro ⟨first, rest, error | value, rfl, before, behind⟩
    · obtain ⟨rfl, rfl⟩ := Program.proceeds_done_iff.mp behind
      exact .inl ⟨error, (List.append_nil first).symm ▸ before, rfl⟩
    · exact .inr ⟨first, rest, value, rfl, before, behind⟩
  · rintro (⟨error, before, rfl⟩ | ⟨first, rest, value, rfl, before, behind⟩)
    · exact ⟨turns, [], .error error, (List.append_nil turns).symm, before, .done _⟩
    · exact ⟨first, rest, .ok value, rfl, before, behind⟩

/-- What does not fail is gone through and gives its value. -/
theorem proceeds_perform_iff {program : Program α} {turns : List Turn}
    {result : Except AuthError α} :
    Program.Proceeds (perform program).run turns result ↔
      ∃ value, program.Proceeds turns value ∧ result = .ok value := by
  rw [perform, ExceptT.run_lift, ← bind_pure_comp, Program.proceeds_bind_iff]
  constructor
  · rintro ⟨first, rest, value, rfl, before, behind⟩
    obtain ⟨rfl, rfl⟩ := Program.proceeds_done_iff.mp behind
    exact ⟨value, (List.append_nil first).symm ▸ before, rfl⟩
  · rintro ⟨value, before, rfl⟩
    exact ⟨turns, [], value, (List.append_nil turns).symm, before, .done _⟩

/-- After a question that cannot fail, the action goes on with the answer. -/
theorem proceeds_perform_query_bind_iff {question : Question} {next : question.Answer → Action α}
    {turns : List Turn} {result : Except AuthError α} :
    Program.Proceeds (perform (Program.query question) >>= next).run turns result ↔
      ∃ answer rest, turns = ⟨question, answer⟩ :: rest ∧
        Program.Proceeds (next answer).run rest result := by
  rw [proceeds_bind_iff]
  constructor
  · rintro (⟨error, asked, -⟩ | ⟨first, rest, answer, rfl, asked, behind⟩)
    · obtain ⟨_, -, impossible⟩ := proceeds_perform_iff.mp asked
      cases impossible
    · obtain ⟨_, told, same⟩ := proceeds_perform_iff.mp asked
      cases same
      obtain rfl := Program.proceeds_query_iff.mp told
      exact ⟨answer, rest, rfl, behind⟩
  · rintro ⟨answer, rest, rfl, behind⟩
    exact .inr ⟨[_], rest, answer, rfl,
      proceeds_perform_iff.mpr ⟨answer, Program.proceeds_query_iff.mpr rfl, rfl⟩, behind⟩

theorem proceeds_logService_iff {level : Level} {message : String}
    {fields : List (String × String)} {turns : List Turn} {result : Except AuthError Unit} :
    Program.Proceeds (logService level message fields).run turns result ↔
      turns = [⟨.log (.service level message fields), ()⟩] ∧ result = .ok () := by
  rw [logService, log, proceeds_perform_iff]
  constructor
  · rintro ⟨_, told, rfl⟩
    exact ⟨Program.proceeds_query_iff.mp told, rfl⟩
  · rintro ⟨rfl, rfl⟩
    exact ⟨(), Program.proceeds_query_iff.mpr rfl, rfl⟩

theorem leavesTrace_findUser (email : String) : (findUser email).LeavesTrace :=
  Program.leavesTrace_query rfl fun answer => by cases answer <;> rfl

theorem leavesTrace_emailTaken (email : String) : (emailTaken email).LeavesTrace :=
  Program.leavesTrace_query rfl fun answer => by cases answer <;> rfl

theorem leavesTrace_insertUser (row : UserRow) : (insertUser row).LeavesTrace :=
  Program.leavesTrace_query rfl fun answer => by cases answer <;> rfl

theorem leavesTrace_putSession (token : String) (identity : Identity) (lifetime : Time.Lifetime) :
    (putSession token identity lifetime).LeavesTrace :=
  Program.leavesTrace_query rfl fun answer => by cases answer <;> rfl

theorem leavesTrace_deleteSession (token : String) : (deleteSession token).LeavesTrace :=
  Program.leavesTrace_query rfl fun answer => by cases answer <;> rfl

theorem leavesTrace_getSession (token : String) : (getSession token).LeavesTrace :=
  Program.leavesTrace_query rfl fun answer => by cases answer <;> rfl

theorem leavesTrace_readClock : readClock.LeavesTrace :=
  leavesTrace_perform (Program.leavesTrace_query rfl fun _ => rfl)

/-- What is drawn, or the report of why nothing is, is all that a draw passes on. -/
theorem leavesTrace_draw {program : Program (Except String α)} {fault : String → Fault}
    (traced : program.LeavesTrace fun drawn =>
      failureOf (drawn.mapError fun report => .internal (fault report))) :
    (draw program fault).LeavesTrace := by
  refine Program.leavesTrace_bind traced (fun drawn => leavesTrace_settled _) ?_
  intro drawn fault isLeft turns result proceeds
  obtain ⟨-, rfl⟩ := Program.proceeds_done_iff.mp proceeds
  exact .inl isLeft

theorem leavesTrace_drawSalt : drawSalt.LeavesTrace :=
  leavesTrace_draw (Program.leavesTrace_query rfl fun drawn => by cases drawn <;> rfl)

theorem leavesTrace_drawToken : drawToken.LeavesTrace :=
  leavesTrace_draw (Program.leavesTrace_query rfl fun drawn => by cases drawn <;> rfl)

/-- What an action succeeds with is settled by what comes last in it. -/
theorem succeeds_bind {action : Action β} {next : β → Action α}
    (last : ∀ value, (next value).Succeeds good) : (action >>= next).Succeeds good := by
  intro turns value proceeds
  obtain ⟨first, rest, result, rfl, -, behind⟩ := Program.proceeds_bind_iff.mp proceeds
  cases result with
  | ok middle => exact last middle rest value behind
  | error error => cases (Program.proceeds_done_iff.mp behind).2

theorem succeeds_settled {outcome : Except AuthError α}
    (settled : ∀ value, outcome = .ok value → good value) :
    Succeeds (ExceptT.mk (pure outcome)) good := by
  intro turns value proceeds
  exact settled value (Program.proceeds_done_iff.mp proceeds).2.symm

theorem succeeds_pure {value : α} (holds : good value) : Succeeds (pure value) good :=
  succeeds_settled fun _ same => Except.ok.inj same ▸ holds

theorem succeeds_throw (error : AuthError) : Succeeds (throw error : Action α) good := by
  refine succeeds_settled fun value same => ?_
  cases (same : Except.error error = Except.ok value)

end Action

end SessionGate
