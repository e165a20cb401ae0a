import SessionGate.Proofs.World.Traces
import SessionGate.World

/-!
# Outages

The stores of a world may be out of order, now and then: any call on them may fail internally, and
then it has no effect. The journal still notes the call, as it notes every event. Stores that work
put events of their own between them, for the debugging of the service.
-/

namespace SessionGate

/-- How a question to a store fails. Other questions do not. -/
def Question.refusal? (error : AuthError) : (question : Question) → Option question.Answer
  | .findUser _ | .emailTaken _ | .insertUser _ => some (.error error)
  | .putSession _ _ _ | .deleteSession _ | .getSession _ => some (.error error)
  | .readClock | .drawSalt | .drawToken | .log _ => none

/-- What the journal notes of a question, in itself. -/
def Question.notes : Question → List JournalEntry
  | .log event => [.logged event]
  | question => if question.isStoreCall then [.called question] else []

theorem Question.notes_of_isStoreCall {question : Question} (call : question.isStoreCall = true) :
    question.notes = [.called question] := by
  cases question with
  | readClock | drawSalt | drawToken | log event => cases call
  | _ => rfl

theorem Question.isStoreCall_of_refusal? {question : Question} {error : AuthError}
    {refusal : question.Answer} (refused : question.refusal? error = some refusal) :
    question.isStoreCall = true := by
  cases question with
  | readClock | drawSalt | drawToken | log event => cases refused
  | _ => rfl

/-- The entry is an event that a store has logged. -/
def JournalEntry.IsOfStore (entry : JournalEntry) : Prop :=
  ∃ message fields, entry = .logged (.service .debug message fields)

namespace World

variable {α : Type} {world after : World}

/-- Answer a question in a world whose stores are out of order at some calls. The calls are
counted. -/
def answerAmid (outages : Nat → Option Fault) : Surroundings (World × Nat) :=
  fun question (world, count) =>
    match (outages count).bind fun fault => question.refusal? (.internal fault) with
    | some refusal => (refusal, world.noted question, count + 1)
    | none =>
        let (answer, after) := world.answer question
        (answer, after, if question.isStoreCall then count + 1 else count)

/-! ## What stores note -/

/-- The stores have noted events of their own, and nothing else has been noted. -/
def NotesOwn (world after : World) : Prop :=
  ∃ own : List JournalEntry,
    (∀ entry ∈ own, entry.IsOfStore) ∧ after.journal = world.journal ++ own

theorem NotesOwn.of_eq (same : after.journal = world.journal) : world.NotesOwn after :=
  ⟨[], by simp, by rw [same, List.append_nil]⟩

theorem NotesOwn.loggedByStore (same : after.journal = world.journal) (message : String)
    (fields : List (String × String)) : world.NotesOwn (after.loggedByStore message fields) :=
  ⟨[.logged (.service .debug message fields)],
    fun _ member => ⟨message, fields, List.mem_singleton.mp member⟩, congrArg (· ++ [_]) same⟩

theorem notesOwn_viaUserStore {stale : Option α} {sound : World → Except AuthError α × World}
    (notes : world.NotesOwn (sound world).2) :
    world.NotesOwn (world.viaUserStore stale sound).2 := by
  unfold viaUserStore
  cases world.userStore with
  | sound => exact notes
  | stale =>
      cases stale with
      | none => exact notes
      | some answer => exact .of_eq rfl
  | failing report => exact .of_eq rfl

theorem notesOwn_viaSessionStore {forgetful : Option α}
    {sound : World → Except AuthError α × World} (notes : world.NotesOwn (sound world).2) :
    world.NotesOwn (world.viaSessionStore forgetful sound).2 := by
  unfold viaSessionStore
  cases world.sessionStore with
  | sound => exact notes
  | forgetful =>
      cases forgetful with
      | none => exact notes
      | some answer => exact .of_eq rfl
  | failing report => exact .of_eq rfl

theorem notesOwn_findUser (email : String) (world : World) :
    world.NotesOwn (world.findUser email).2 := by
  rw [findUser]
  cases world.users.find? email with
  | none => exact .loggedByStore rfl _ _
  | some user => exact .of_eq rfl

theorem notesOwn_insertUser (row : UserRow) (world : World) :
    world.NotesOwn (world.insertUser row).2 := by
  rw [insertUser]
  cases world.users.insert row with
  | error error => exact .of_eq rfl
  | ok inserted =>
      have journal : { world with users := inserted.2 }.journal = world.journal := rfl
      exact .loggedByStore journal _ _

theorem journal_setEntry (key : String) (value : Octets) (lifetime : Option Time.Lifetime)
    (world : World) : (world.setEntry key value lifetime).2.journal = world.journal := by
  rw [setEntry]
  cases world.sessions.set world.now key value lifetime <;> rfl

theorem notesOwn_putSession (token : String) (identity : Identity) (lifetime : Time.Lifetime)
    (world : World) : world.NotesOwn (world.putSession token identity lifetime).2 := by
  have same := journal_setEntry token identity.encode (some lifetime) world
  rw [putSession]
  cases token.isEmpty with
  | true => exact .of_eq rfl
  | false =>
      rcases stored : world.setEntry token identity.encode (some lifetime) with
        ⟨error | _, after⟩ <;>
        rw [stored] at same
      · exact .of_eq same
      · exact .loggedByStore same _ _

theorem notesOwn_deleteSession (token : String) (world : World) :
    world.NotesOwn (world.deleteSession token).2 := by
  rw [deleteSession]
  cases token.isEmpty with
  | true => exact .of_eq rfl
  | false => exact .loggedByStore rfl _ _

theorem notesOwn_getSession (token : String) (world : World) :
    world.NotesOwn (world.getSession token).2 := by
  rw [getSession, getEntry]
  cases token.isEmpty with
  | true => exact .of_eq rfl
  | false =>
      rcases world.sessions.get world.now token with ⟨_ | octets, sessions⟩
      · exact .of_eq rfl
      · simp only [Bool.false_eq_true, if_false]
        cases Identity.decode octets <;> exact .of_eq rfl

theorem notesOwn_reply {question : Question} (call : question.isStoreCall = true)
    (world : World) : world.NotesOwn (world.reply question).2 := by
  cases question with
  | findUser email => exact notesOwn_viaUserStore (notesOwn_findUser email world)
  | emailTaken email => exact notesOwn_viaUserStore (.of_eq rfl)
  | insertUser row => exact notesOwn_viaUserStore (notesOwn_insertUser row world)
  | putSession token identity lifetime =>
      exact notesOwn_viaSessionStore (notesOwn_putSession token identity lifetime world)
  | deleteSession token => exact notesOwn_viaSessionStore (notesOwn_deleteSession token world)
  | getSession token => exact notesOwn_viaSessionStore (notesOwn_getSession token world)
  | readClock | drawSalt | drawToken | log event => cases call

/-- The question is noted, and then what the store says of its own accord, if it was asked. -/
theorem exists_journal_answer (question : Question) (world : World) :
    ∃ own : List JournalEntry, (∀ entry ∈ own, entry.IsOfStore) ∧
      (question.isStoreCall = false → own = []) ∧
      (world.answer question).2.journal = world.journal ++ (question.notes ++ own) := by
  cases call : question.isStoreCall with
  | false =>
      refine ⟨[], by simp, fun _ => rfl, ?_⟩
      cases question with
      | readClock | drawSalt | drawToken => simp [answer, noted, reply, Question.notes, call]
      | log event => rfl
      | _ => cases call
  | true =>
      obtain ⟨own, ofStore, added⟩ := notesOwn_reply call (world.noted question)
      refine ⟨own, ofStore, nofun, ?_⟩
      rw [answer, added, noted, if_pos call, Question.notes_of_isStoreCall call,
        List.append_assoc]

/-- The question is noted also where the store is out of order. -/
theorem exists_journal_answerAmid (outages : Nat → Option Fault) (question : Question)
    (world : World) (count : Nat) :
    ∃ own : List JournalEntry, (∀ entry ∈ own, entry.IsOfStore) ∧
      (question.isStoreCall = false → own = []) ∧
      (answerAmid outages question (world, count)).2.1.journal =
        world.journal ++ (question.notes ++ own) := by
  rw [answerAmid]
  split
  · rename_i refusal refused
    obtain ⟨fault, -, fails⟩ := Option.bind_eq_some_iff.mp refused
    have call := Question.isStoreCall_of_refusal? fails
    refine ⟨[], by simp, fun _ => rfl, ?_⟩
    rw [noted, if_pos call, Question.notes_of_isStoreCall call, List.append_nil]
  · exact exists_journal_answer question world

/-! ## What the journal tells of proceedings -/

/-- The entries are what the journal notes of proceedings, with events of the stores between. -/
inductive Notes : List Turn → List JournalEntry → Prop where
  | nil : Notes [] []
  | cons {turn : Turn} {own : List JournalEntry} {turns : List Turn} {entries : List JournalEntry}
      (ofStore : ∀ entry ∈ own, entry.IsOfStore)
      (unasked : turn.1.isStoreCall = false → own = []) (later : Notes turns entries) :
      Notes (turn :: turns) (turn.1.notes ++ own ++ entries)

theorem exists_journal_run (outages : Nat → Option Fault) (program : Program α)
    (state : World × Nat) :
    ∃ entries, (program.run (answerAmid outages) state).2.1.journal =
        state.1.journal ++ entries ∧
      Notes (program.proceedings (answerAmid outages) state) entries := by
  induction program generalizing state with
  | done value => exact ⟨[], (List.append_nil _).symm, .nil⟩
  | ask question resume ih =>
      obtain ⟨world, count⟩ := state
      obtain ⟨own, ofStore, unasked, added⟩ :=
        exists_journal_answerAmid outages question world count
      obtain ⟨entries, rest, later⟩ := ih (answerAmid outages question (world, count)).1
        (answerAmid outages question (world, count)).2
      refine ⟨question.notes ++ own ++ entries, ?_, .cons ofStore unasked later⟩
      rw [Program.run_ask, rest, added, List.append_assoc]

variable {turns rest : List Turn} {entries : List JournalEntry} {event : Event}

theorem Notes.split (notes : Notes (turns ++ rest) entries) :
    ∃ front back, entries = front ++ back ∧ Notes turns front ∧ Notes rest back := by
  induction turns generalizing entries with
  | nil => exact ⟨[], entries, rfl, .nil, notes⟩
  | cons turn turns ih =>
      cases notes with
      | cons ofStore unasked later =>
          obtain ⟨front, back, rfl, first, second⟩ := ih later
          exact ⟨_, back, (List.append_assoc _ _ _).symm, .cons ofStore unasked first, second⟩

theorem Notes.logged_mem (notes : Notes turns entries) (told : ⟨.log event, ()⟩ ∈ turns) :
    .logged event ∈ entries := by
  induction notes with
  | nil => cases told
  | cons ofStore unasked later ih =>
      rcases List.mem_cons.mp told with rfl | inRest
      · exact List.mem_append_left _ (List.mem_append_left _ List.mem_cons_self)
      · exact List.mem_append_right _ (ih inRest)

/-- Events that no program has logged are those of the stores. -/
theorem Notes.of_logged_mem (notes : Notes turns entries) (logged : .logged event ∈ entries) :
    ⟨.log event, ()⟩ ∈ turns ∨ (JournalEntry.logged event).IsOfStore := by
  induction notes with
  | nil => cases logged
  | @cons turn own turns entries ofStore unasked later ih =>
      rcases List.mem_append.mp logged with inFront | inRest
      · rcases List.mem_append.mp inFront with noted | inOwn
        · obtain ⟨question, answer⟩ := turn
          cases question with
          | log other =>
              cases List.mem_singleton.mp noted
              exact .inl List.mem_cons_self
          | _ => simp [Question.notes, Question.isStoreCall] at noted
        · exact .inr (ofStore _ inOwn)
      · exact (ih inRest).imp_left (List.mem_cons_of_mem turn)

/-- An event alone is noted alone. -/
theorem Notes.eq_singleton (notes : Notes [⟨.log event, ()⟩] entries) :
    entries = [.logged event] := by
  cases notes with
  | cons ofStore unasked later =>
      cases later
      rw [unasked rfl]
      rfl

end World

end SessionGate
