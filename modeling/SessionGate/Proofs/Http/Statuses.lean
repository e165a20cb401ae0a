import SessionGate.Proofs.Http.Coherence
import SessionGate.Proofs.World.Faults

/-!
# Statuses

Which statuses an entry point answers with, over stores that work or fail with a fault. What a
caller presents is refused with one status, what a store refuses has the status of the failure, and
all faults have one status.
-/

namespace SessionGate

variable {core after : Core} {turns : List Turn} {manager : Manager}

/-! ## The gate and the session rules -/

theorem Gate.Asks.status {carrier : Option Carrier} {error : AuthError}
    (asks : Asks carrier turns (.error error)) (sound : core.IsSound)
    (follows : core.Follows turns after) : error.status ∈ [400, 401, 404, 500] := by
  generalize refused : Except.error error = result at asks
  cases asks with
  | nobody missing =>
      cases refused
      decide
  | @somebody token turns known carried resolves =>
      cases resolves with
      | blank blank =>
          cases refused
          decide
      | asked notBlank =>
          cases known with
          | ok identity =>
              rw [pass] at refused
              split at refused <;> cases refused
              decide
          | error failure =>
              cases refused
              exact follows.status_mem sound List.mem_cons_self rfl
                (by simp [Question.failureStatuses])

namespace Manager

theorem Registers.status {user : NewUser} {error : AuthError}
    (registers : manager.Registers user turns (.error error)) (sound : core.IsSound)
    (follows : core.Follows turns after) : error.status ∈ [400, 409, 500] := by
  cases registers with
  | nothing empty => decide
  | unknown something error =>
      exact follows.status_mem sound List.mem_cons_self rfl (by simp [Question.failureStatuses])
  | taken something => decide
  | free something provisions =>
      cases provisions with
      | unsalted report =>
          change 500 ∈ _
          decide
      | unhashable salt long => decide
      | inserted salt made records =>
          exact follows.status_mem sound
            (List.mem_cons_of_mem _ (List.mem_cons_of_mem _ List.mem_cons_self)) rfl
            (by simp [Question.failureStatuses])

theorem LogsIn.status {credentials : Credentials} {error : AuthError}
    (logsIn : manager.LogsIn credentials turns (.error error)) (sound : core.IsSound)
    (follows : core.Follows turns after) : error.status ∈ [400, 404, 500] := by
  generalize failed : Except.error error = result at logsIn
  cases logsIn with
  | unknown refusal =>
      cases failed
      exact follows.status_mem sound List.mem_cons_self rfl (by simp [Question.failureStatuses])
  | wrong wrong =>
      cases failed
      decide
  | undrawn now report right =>
      cases failed
      change 500 ∈ _
      decide
  | unopened bytes right refused =>
      cases failed
      obtain ⟨fault, rfl⟩ := internal_of_openSession refused
      change 500 ∈ _
      decide
  | stored answer right opened =>
      cases answer with
      | ok value => cases failed
      | error refusal =>
          cases failed
          exact follows.status_mem sound (List.mem_cons_of_mem _ (List.mem_cons_of_mem _
            (List.mem_cons_of_mem _ List.mem_cons_self))) rfl (by simp [Question.failureStatuses])

theorem Revokes.status {token : String} {error : AuthError}
    (revokes : Revokes token turns (.error error)) (sound : core.IsSound)
    (follows : core.Follows turns after) : error.status ∈ [400, 500] := by
  cases revokes with
  | blank blank => decide
  | asked notBlank =>
      exact follows.status_mem sound List.mem_cons_self rfl (by simp [Question.failureStatuses])

end Manager

namespace Http

variable {request : Request}

/-! ## The entry points -/

variable {result : Except AuthError Response}

theorem LoginCourse.status (course : LoginCourse manager request turns result)
    (sound : core.IsSound) (follows : core.Follows turns after) :
    (responseOf result).status ∈ [200, 400, 401, 404, 500] := by
  cases course with
  | live asks => decide
  | @unfit turns refusal error asks unfit =>
      change error.status ∈ _
      rw [status_presentedCredentials request error unfit]
      decide
  | @answered gate talk refusal credentials outcome asks presented logsIn =>
      obtain ⟨asked, gated, talks⟩ := follows.split
      cases outcome with
      | ok opened =>
          change 200 ∈ _
          decide
      | error error =>
          exact (by decide : [400, 404, 500] ⊆ [200, 400, 401, 404, 500])
            (logsIn.status (gated.precedes.isSound sound) talks)

theorem exists_inserted_of_registers {user : NewUser} {id : UserId}
    (registers : manager.Registers user turns (.ok id)) :
    ∃ row, ⟨.insertUser row, .ok id⟩ ∈ turns := by
  cases registers with
  | free something provisions =>
      cases provisions with
      | inserted salt made records =>
          exact ⟨_, List.mem_cons_of_mem _ (List.mem_cons_of_mem _ List.mem_cons_self)⟩

theorem RegisterCourse.status (course : RegisterCourse manager request turns result)
    (sound : core.IsSound) (follows : core.Follows turns after) :
    (responseOf result).status ∈ [200, 400, 401, 409, 500] := by
  cases whole : course with
  | live asks => decide
  | @unfit turns refusal error asks unfit =>
      change error.status ∈ _
      rw [status_presentedUser request error unfit]
      decide
  | @unopened gate talk refusal error user asks presented registers =>
      obtain ⟨asked, gated, opens⟩ := follows.split
      exact (by decide : [400, 409, 500] ⊆ [200, 400, 401, 409, 500])
        (registers.status (gated.precedes.isSound sound) opens)
  | answered asks presented registers logsIn =>
      -- After the insertion the login leg cannot miss the account, whatever it is told.
      obtain ⟨row, inserted⟩ := exists_inserted_of_registers registers
      obtain ⟨user, -, -, -, -, ⟨-, fault, failed⟩ | ⟨-, _, enters, same⟩⟩ :=
        course.of_inserted (follows.hosts sound)
          (List.mem_append_right _ (List.mem_append_left _ inserted))
      · rw [failed]
        change 500 ∈ _
        decide
      · rw [same]
        cases enters with
        | stored put =>
            change 200 ∈ _
            decide
        | unstored put =>
            exact follows.status_mem sound put rfl (by simp [Question.failureStatuses])
        | endless timed closed =>
            change 500 ∈ _
            decide
        | undrawn drawn =>
            change 500 ∈ _
            decide

theorem LogoutCourse.status (course : LogoutCourse request turns result) (sound : core.IsSound)
    (follows : core.Follows turns after) :
    (responseOf result).status ∈ [204, 400, 401, 404, 500] := by
  cases course with
  | refused asks =>
      exact (by decide : [400, 401, 404, 500] ⊆ [204, 400, 401, 404, 500])
        (asks.status sound follows)
  | failed carried asks revokes =>
      obtain ⟨asked, gated, talks⟩ := follows.split
      exact (by decide : [400, 500] ⊆ [204, 400, 401, 404, 500])
        (revokes.status (gated.precedes.isSound sound) talks)
  | ended now carried asks revokes =>
      change 204 ∈ _
      decide

end Http

end SessionGate
