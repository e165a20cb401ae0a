import SessionGate.Proofs.Concurrency.Decisions

/-!
# Entries that are still to be stored

A core lags behind another by the entries that calls have been promised and have not stored yet.
Questions that touch none of these entries are answered the same way in both, and leave the one as
far behind as it was.
-/

namespace SessionGate

open Time

namespace Core

theorem answerDrawing_now {core : Core} (sound : core.IsSound) (draws : Draws)
    (question : Question) : (core.answerDrawing draws question).2.now = core.now := by
  cases question with
  | drawSalt | drawToken => rfl
  | _ => exact answer_now sound _

/-- The core is the other one but for the entries that are owed: the other has them already. -/
structure LagsBehind (owed : String → Entry → Prop) (core ahead : Core) : Prop where
  sound : core.IsSound
  alike : ahead = { core with sessions := ahead.sessions }
  stored : ∀ key entry, owed key entry → ahead.sessions.find? key = some entry
  others : ∀ key, (∀ entry, ¬ owed key entry) →
    ahead.sessions.find? key = core.sessions.find? key

namespace LagsBehind

variable {owed after : String → Entry → Prop} {core ahead : Core} {draws : Draws}

theorem refl (sound : core.IsSound) (none : ∀ key entry, ¬ owed key entry) :
    core.LagsBehind owed core :=
  ⟨sound, rfl, fun key entry due => absurd due (none key entry), fun _ _ => rfl⟩

theorem ahead_users (lags : core.LagsBehind owed ahead) : ahead.users = core.users := by
  rw [lags.alike]

theorem ahead_now (lags : core.LagsBehind owed ahead) : ahead.now = core.now := by
  rw [lags.alike]

theorem ahead_sound (lags : core.LagsBehind owed ahead) : ahead.IsSound := by
  rw [lags.alike]
  exact ⟨lags.sound.users, lags.sound.sessions⟩

theorem setUsers (lags : core.LagsBehind owed ahead) (users : UserTable) :
    { core with users }.LagsBehind owed { ahead with users } where
  sound := ⟨lags.sound.users, lags.sound.sessions⟩
  alike := congrArg (fun core : Core => { core with users }) lags.alike
  stored := lags.stored
  others := lags.others

theorem setNow (lags : core.LagsBehind owed ahead) (now : Instant) :
    { core with now }.LagsBehind owed { ahead with now } where
  sound := ⟨lags.sound.users, lags.sound.sessions⟩
  alike := congrArg (fun core : Core => { core with now }) lags.alike
  stored := lags.stored
  others := lags.others

theorem setSessions (lags : core.LagsBehind owed ahead) {sessions left : ExpiringMap}
    {token : String} {entry : Option Entry} (clear : ∀ entry, ¬ owed token entry)
    (here : ∀ key, sessions.find? key = if key = token then entry else core.sessions.find? key)
    (there : ∀ key, left.find? key = if key = token then entry else ahead.sessions.find? key) :
    { core with sessions }.LagsBehind owed { ahead with sessions := left } where
  sound := ⟨lags.sound.users, lags.sound.sessions⟩
  alike := congrArg (fun core : Core => { core with sessions := left }) lags.alike
  stored key kept due := by
    have different : key ≠ token := by
      rintro rfl
      exact clear kept due
    rw [there, if_neg different]
    exact lags.stored key kept due
  others key free := by
    change left.find? key = sessions.find? key
    rw [here, there, lags.others key free]

/-- A question that a store is asked about no entry that is owed is answered the same way in both
cores. -/
theorem answer (lags : core.LagsBehind owed ahead) {question : Question}
    (contended : question.IsContended draws)
    (clear : ∀ token, question.Touches token → ∀ entry, ¬ owed token entry) :
    (ahead.answerDrawing draws question).1 = (core.answerDrawing draws question).1 ∧
      (core.answerDrawing draws question).2.LagsBehind owed
        (ahead.answerDrawing draws question).2 := by
  cases question with
  | findUser email =>
      have here := answer_findUser lags.sound.users email
      have there := answer_findUser lags.ahead_sound.users email
      rw [lags.ahead_users] at there
      change (ahead.answer _).1 = (core.answer _).1 ∧
        (core.answer _).2.LagsBehind owed (ahead.answer _).2
      rw [here, there]
      cases core.users.find? email <;> exact ⟨rfl, lags⟩
  | emailTaken email =>
      have here := answer_emailTaken lags.sound.users email
      have there := answer_emailTaken lags.ahead_sound.users email
      rw [lags.ahead_users] at there
      change (ahead.answer _).1 = (core.answer _).1 ∧
        (core.answer _).2.LagsBehind owed (ahead.answer _).2
      rw [here, there]
      exact ⟨rfl, lags⟩
  | insertUser row =>
      have here := answer_insertUser lags.sound.users row
      have there := answer_insertUser lags.ahead_sound.users row
      rw [lags.ahead_users] at there
      change (ahead.answer _).1 = (core.answer _).1 ∧
        (core.answer _).2.LagsBehind owed (ahead.answer _).2
      rw [here, there]
      cases core.users.insert row with
      | error error => exact ⟨rfl, lags⟩
      | ok inserted => exact ⟨rfl, lags.setUsers inserted.2⟩
  | deleteSession token =>
      have here := answer_deleteSession lags.sound.sessions token
      have there := answer_deleteSession lags.ahead_sound.sessions token
      change (ahead.answer _).1 = (core.answer _).1 ∧
        (core.answer _).2.LagsBehind owed (ahead.answer _).2
      rw [here, there]
      cases token.isEmpty with
      | true => exact ⟨rfl, lags⟩
      | false =>
          exact ⟨rfl, lags.setSessions (clear token rfl) (core.sessions.find?_erase token)
            (ahead.sessions.find?_erase token)⟩
  | getSession token =>
      have here := answer_getSession_of_sound lags.sound.sessions token
      have there := answer_getSession_of_sound lags.ahead_sound.sessions token
      have same : ahead.sessions.live? core.now token = core.sessions.live? core.now token := by
        rw [ExpiringMap.live?, ExpiringMap.live?, lags.others token (clear token rfl)]
      have value : (ahead.sessions.get ahead.now token).1 =
          (core.sessions.get core.now token).1 := by
        rw [lags.ahead_now, ExpiringMap.get_fst, ExpiringMap.get_fst, same]
      change (ahead.answer _).1 = (core.answer _).1 ∧
        (core.answer _).2.LagsBehind owed (ahead.answer _).2
      rw [here, there]
      cases token.isEmpty with
      | true => exact ⟨rfl, lags⟩
      | false =>
          refine ⟨congrArg identityOf value, lags.setSessions (clear token rfl)
            (core.sessions.find?_get core.now token) fun key => ?_⟩
          rw [ExpiringMap.find?_get, lags.ahead_now, same]
  | putSession token identity lifetime =>
      have unstored := (contended core.now).2
      obtain ⟨answer, entry, stored, -⟩ :=
        Question.stored?_putSession token identity lifetime core.now
      rw [stored] at unstored
      cases unstored
  | readClock | drawSalt | drawToken | log event => cases (contended core.now).1

/-- An entry is promised that nobody was owed. -/
theorem promise (lags : core.LagsBehind owed ahead) {entry : Option (String × Entry)}
    (free : ∀ token kept, entry = some (token, kept) → ∀ other, ¬ owed token other)
    (more : ∀ key kept, after key kept ↔ owed key kept ∨ entry = some (key, kept)) :
    core.LagsBehind after (ahead.keep entry) := by
  cases entry with
  | none =>
      have same : after = owed := by
        funext key kept
        simpa using more key kept
      exact same ▸ lags
  | some pair =>
      obtain ⟨token, promised⟩ := pair
      have found : ∀ key, (ahead.sessions.insert token promised).find? key =
          if key = token then some promised else ahead.sessions.find? key :=
        ahead.sessions.find?_insert token promised
      refine ⟨lags.sound, ?_, ?_, ?_⟩
      · exact congrArg (fun core : Core =>
          { core with sessions := ahead.sessions.insert token promised }) lags.alike
      · intro key kept due
        apply (found key).trans
        rcases (more key kept).mp due with old | new
        · have different : key ≠ token := by
            rintro rfl
            exact free key promised rfl kept old
          rw [if_neg different]
          exact lags.stored key kept old
        · obtain ⟨rfl, rfl⟩ := Prod.mk.inj (Option.some.inj new)
          rw [if_pos rfl]
      · intro key none
        have different : key ≠ token := by
          rintro rfl
          exact none promised ((more key promised).mpr (.inr rfl))
        apply (found key).trans
        rw [if_neg different]
        exact lags.others key fun kept old => none kept ((more key kept).mpr (.inl old))

/-- An entry that was owed is stored. -/
theorem pay (lags : core.LagsBehind owed ahead) {entry : Option (String × Entry)}
    (due : ∀ token kept, entry = some (token, kept) → owed token kept)
    (less : ∀ key kept, after key kept ↔
      owed key kept ∧ ∀ other, entry ≠ some (key, other)) :
    (core.keep entry).LagsBehind after ahead := by
  cases entry with
  | none =>
      have same : after = owed := by
        funext key kept
        simpa using less key kept
      exact same ▸ lags
  | some pair =>
      obtain ⟨token, paid⟩ := pair
      refine ⟨⟨lags.sound.users, lags.sound.sessions⟩, lags.alike, ?_, ?_⟩
      · intro key kept still
        exact lags.stored key kept ((less key kept).mp still).1
      · intro key none
        change _ = (core.sessions.insert token paid).find? key
        rw [core.sessions.find?_insert token paid]
        by_cases same : key = token
        · subst same
          rw [if_pos rfl]
          exact lags.stored key paid (due key paid rfl)
        · rw [if_neg same]
          refine lags.others key fun kept old => none kept ((less key kept).mpr ⟨old, ?_⟩)
          rintro other equal
          exact same (Prod.mk.inj (Option.some.inj equal)).1.symm

end LagsBehind

end Core

end SessionGate
