import SessionGate.Proofs.Concurrency.Lag

/-!
# Calls carried out where they are decided

A pool of calls under way is simulated by the core in which each call that is decided has been
carried out as a whole. A login that is decided owes the store the entry of its session. Nobody
else has a say in that entry until the login has returned, and so it may be stored late.
-/

namespace SessionGate

open Time

theorem Core.setRole_world (id : UserId) (role : Role) (core : Core) :
    core.world.setRole id role =
      match core.users.setRole id role with
      | .error error => (.error error, core.world)
      | .ok users => (.ok (), { core with users }.world) := by
  have users : core.world.users = core.users := rfl
  rw [World.setRole, users]
  cases core.users.setRole id role <;> rfl

theorem Core.advance_world (span : Span) (core : Core) :
    core.world.advance span =
      match core.now.add? span with
      | some now => .ok { core with now }.world
      | none => .error .outOfRange :=
  rfl

namespace Operation

variable {operation : Operation} {draws : Draws} {now later : Instant} {program : Program Reply}

theorem Underway.move (underway : operation.Underway draws now program)
    (steady : program.foresee draws later = program.foresee draws now) :
    operation.Underway draws later program where
  stage := by
    rw [steady]
    exact underway.stage
  owns := by
    rw [steady]
    exact underway.owns
  timeless := underway.timeless

theorem Underway.resume {question : Question} {resume : question.Answer → Program Reply}
    (underway : operation.Underway draws now (.ask question resume)) {answer : question.Answer}
    (stage : operation.Undecided draws (resume answer) ∨
      ∃ reply entry, (resume answer).foresee draws later = some (reply, entry))
    (owns : ∀ reply entry, (resume answer).foresee draws later = some (reply, entry) →
      operation.MayStore draws entry) :
    operation.Underway draws later (resume answer) :=
  ⟨stage, owns, underway.timeless.imp_right fun timeless => timeless.2 answer⟩

theorem Underway.done (operation : Operation) (draws : Draws) (now : Instant) (reply : Reply) :
    operation.Underway draws now (.done reply) where
  stage := .inr ⟨reply, none, rfl⟩
  owns other entry foreseen := by
    obtain ⟨-, rfl⟩ := Prod.mk.inj (Option.some.inj foreseen)
    trivial
  timeless := .inr trivial

/-- An operation that is carried out at once has the same reply and the same effect in a core that
lags behind. -/
theorem lagsBehind_effect {effect : Core → Reply × Core} (works : operation.work = .inr effect)
    {owed : String → Entry → Prop} {core ahead : Core} (lags : core.LagsBehind owed ahead) :
    (effect ahead).1 = (effect core).1 ∧ (effect core).2.LagsBehind owed (effect ahead).2 := by
  cases operation with
  | setRole id role =>
      obtain rfl := Sum.inr.inj works
      simp only [Core.setRole_world, lags.ahead_users]
      cases core.users.setRole id role with
      | error error => exact ⟨rfl, lags⟩
      | ok users => exact ⟨rfl, lags.setUsers users⟩
  | setClock later =>
      obtain rfl := Sum.inr.inj works
      exact ⟨rfl, lags.setNow later⟩
  | advance span =>
      obtain rfl := Sum.inr.inj works
      simp only [Core.advance_world, lags.ahead_now]
      cases core.now.add? span with
      | none => exact ⟨rfl, lags⟩
      | some moved => exact ⟨rfl, lags.setNow moved⟩
  | _ => cases works

theorem now_of_effect {effect : Core → Reply × Core} (works : operation.work = .inr effect)
    (still : ¬ operation.IsClockMove) (core : Core) : (effect core).2.now = core.now := by
  cases operation with
  | setRole id role =>
      obtain rfl := Sum.inr.inj works
      simp only [Core.setRole_world]
      cases core.users.setRole id role <;> rfl
  | setClock later => exact absurd trivial still
  | advance span => exact absurd trivial still
  | _ => cases works

end Operation

namespace Pool

variable {ι : Type}

/-- What an operation has settled on: its reply, and the entry that it still owes the store. -/
def settled? (draws : ι → Draws) (pool : Pool ι) (i : ι) :
    Option (Reply × Option (String × Entry)) :=
  (pool.threads i).bind fun program => program.foresee (draws i) pool.core.now

def reply? (draws : ι → Draws) (pool : Pool ι) (i : ι) : Option Reply :=
  (pool.settled? draws i).map Prod.fst

/-- Some operation owes the store an entry. -/
def Owes (draws : ι → Draws) (pool : Pool ι) (key : String) (entry : Entry) : Prop :=
  ∃ i reply, pool.settled? draws i = some (reply, some (key, entry))

/-- Whether nothing that is foreseen of other operations changes with the time. -/
def Steady (draws : ι → Draws) (pool : Pool ι) (i : ι) (now : Instant) : Prop :=
  ∀ j, j ≠ i → ∀ program, pool.threads j = some program →
    program.foresee (draws j) now = program.foresee (draws j) pool.core.now

/-- No two logins draw the same token. -/
def DrawsDistinct (operations : ι → Operation) (draws : ι → Draws) (callers : List ι) : Prop :=
  ∀ i ∈ callers, ∀ j ∈ callers, (operations i).IsLogin → (operations j).IsLogin →
    (draws i).tokenText = (draws j).tokenText → i = j

/-- The operation is one of the callers', and if it is given the token of a login, that login has
returned. -/
def Entitled (operations : ι → Operation) (draws : ι → Draws) (callers : List ι) (pool : Pool ι)
    (i : ι) : Prop :=
  i ∈ callers ∧ ∀ j ∈ callers, (operations j).IsLogin →
    (operations i).Uses (draws j).tokenText → pool.HasReturned j

/-- The core of the pool lags behind the core in which the operations that are decided have been
carried out one after another. -/
structure Simulates (operations : ι → Operation) (draws : ι → Draws) (callers : List ι)
    (pool : Pool ι) (ahead : Core) : Prop where
  lags : pool.core.LagsBehind (pool.Owes draws) ahead
  underway : ∀ i program, pool.threads i = some program →
    (operations i).Underway (draws i) pool.core.now program
  entitled : ∀ i program, pool.threads i = some program →
    Entitled operations draws callers pool i

variable {operations : ι → Operation} {draws : ι → Draws} {callers : List ι} {pool : Pool ι}
  {ahead : Core} {i : ι}

theorem settled?_of_threads {program : Program Reply} (remains : pool.threads i = some program) :
    pool.settled? draws i = program.foresee (draws i) pool.core.now := by
  rw [settled?, remains]
  rfl

theorem settled?_of_none (idle : pool.threads i = none) : pool.settled? draws i = none := by
  rw [settled?, idle]
  rfl

theorem HasReturned.settled? (returned : pool.HasReturned i) (draws : ι → Draws) :
    ∃ reply, pool.settled? draws i = some (reply, none) := by
  obtain ⟨reply, finished⟩ := returned
  exact ⟨reply, settled?_of_threads finished⟩

/-- Whoever owes an entry is a login, and the entry is that of its token. -/
theorem Simulates.debtor (holds : Simulates operations draws callers pool ahead) {reply : Reply}
    {key : String} {entry : Entry}
    (settled : pool.settled? draws i = some (reply, some (key, entry))) :
    i ∈ callers ∧ (operations i).IsLogin ∧ key = (draws i).tokenText := by
  obtain ⟨program, remains, foreseen⟩ := Option.bind_eq_some_iff.mp settled
  obtain ⟨login, own⟩ := (holds.underway i program remains).owns reply _ foreseen
  exact ⟨(holds.entitled i program remains).1, login, own⟩

/-- No entry is owed of a token that an operation is given. -/
theorem Simulates.not_owes (holds : Simulates operations draws callers pool ahead)
    {program : Program Reply} (remains : pool.threads i = some program) {token : String}
    (uses : (operations i).Uses token) (entry : Entry) : ¬ pool.Owes draws token entry := by
  rintro ⟨j, reply, settled⟩
  obtain ⟨caller, login, rfl⟩ := holds.debtor settled
  have returned := (holds.entitled i program remains).2 j caller login uses
  obtain ⟨other, same⟩ := returned.settled? draws
  cases settled.symm.trans same

theorem Steady.of_now {now : Instant} (same : now = pool.core.now) : pool.Steady draws i now := by
  rintro j - program -
  rw [same]

variable [DecidableEq ι] {core : Core} {program : Program Reply}

/-- A step of one operation settles nothing of the others. -/
theorem Steady.settled?_moved (steady : pool.Steady draws i core.now) (program : Program Reply)
    (j : ι) :
    (pool.moved core i program).settled? draws j =
      if j = i then program.foresee (draws i) core.now else pool.settled? draws j := by
  by_cases same : j = i
  · subst same
    rw [if_pos rfl]
    exact settled?_of_threads moved_threads_self
  · rw [if_neg same, settled?, settled?, moved_threads_of_ne same]
    cases remains : pool.threads j with
    | none => rfl
    | some other => exact steady j same other remains

namespace Simulates

/-- A step keeps what holds if its own operation stands as it should afterwards. -/
theorem moved (holds : Simulates operations draws callers pool ahead)
    (entitled : Entitled operations draws callers pool i) (unfinished : ¬ pool.HasReturned i)
    (underway : (operations i).Underway (draws i) core.now program)
    (steady : pool.Steady draws i core.now) {next : Core}
    (lags : core.LagsBehind ((pool.moved core i program).Owes draws) next) :
    Simulates operations draws callers (pool.moved core i program) next where
  lags := lags
  underway j other remains := by
    by_cases same : j = i
    · subst same
      obtain rfl : program = other := Option.some.inj (moved_threads_self.symm.trans remains)
      exact underway
    · have before := (moved_threads_of_ne same).symm.trans remains
      exact (holds.underway j other before).move (steady j same other before)
  entitled j other remains := by
    have before : Entitled operations draws callers pool j := by
      by_cases same : j = i
      · subst same
        exact entitled
      · exact holds.entitled j other ((moved_threads_of_ne same).symm.trans remains)
    exact ⟨before.1, fun k caller login uses => (before.2 k caller login uses).moved unfinished⟩

/-- A step that decides nothing and leaves the core alone. -/
theorem quiet (holds : Simulates operations draws callers pool ahead)
    (entitled : Entitled operations draws callers pool i) (unfinished : ¬ pool.HasReturned i)
    (underway : (operations i).Underway (draws i) pool.core.now program)
    (same : program.foresee (draws i) pool.core.now = pool.settled? draws i) :
    Simulates operations draws callers (pool.moved pool.core i program) ahead ∧
      ∀ j, (pool.moved pool.core i program).reply? draws j = pool.reply? draws j := by
  have steady : pool.Steady draws i pool.core.now := .of_now rfl
  have settled : ∀ j, (pool.moved pool.core i program).settled? draws j =
      pool.settled? draws j := by
    intro j
    rw [steady.settled?_moved, same]
    by_cases equal : j = i
    · rw [if_pos equal, equal]
    · rw [if_neg equal]
  constructor
  · apply holds.moved entitled unfinished underway steady
    have owes : (pool.moved pool.core i program).Owes draws = pool.Owes draws := by
      funext key entry
      simp only [Owes, settled]
    rw [owes]
    exact holds.lags
  · intro j
    rw [reply?, reply?, settled]

/-- A step that decides its operation: what it promises to store is promised by nobody else. -/
theorem decide (holds : Simulates operations draws callers pool ahead)
    (distinct : DrawsDistinct operations draws callers)
    (entitled : Entitled operations draws callers pool i) (fresh : pool.settled? draws i = none)
    (underway : (operations i).Underway (draws i) core.now program)
    (steady : pool.Steady draws i core.now) {next : Core}
    (lags : core.LagsBehind (pool.Owes draws) next) {reply : Reply}
    {entry : Option (String × Entry)}
    (foreseen : program.foresee (draws i) core.now = some (reply, entry)) :
    Simulates operations draws callers (pool.moved core i program) (next.keep entry) ∧
      ∀ j, (pool.moved core i program).reply? draws j =
        if j = i then some reply else pool.reply? draws j := by
  have unfinished : ¬ pool.HasReturned i := by
    intro returned
    obtain ⟨other, settled⟩ := returned.settled? draws
    cases fresh.symm.trans settled
  have settled : ∀ j, (pool.moved core i program).settled? draws j =
      if j = i then some (reply, entry) else pool.settled? draws j := by
    intro j
    rw [steady.settled?_moved, foreseen]
  constructor
  · refine holds.moved entitled unfinished underway steady (lags.promise ?_ ?_)
    -- Whoever else owed an entry of the token would be another login that has drawn it.
    · rintro token kept rfl other ⟨j, owed, due⟩
      obtain ⟨caller, login, own⟩ := holds.debtor due
      obtain ⟨ownLogin, rfl⟩ := underway.owns reply _ foreseen
      obtain rfl := distinct i entitled.1 j caller ownLogin login own
      cases fresh.symm.trans due
    · intro key kept
      simp only [Owes, settled]
      constructor
      · rintro ⟨j, owed, due⟩
        by_cases equal : j = i
        · rw [if_pos equal] at due
          exact .inr (Prod.mk.inj (Option.some.inj due)).2
        · rw [if_neg equal] at due
          exact .inl ⟨j, owed, due⟩
      · rintro (⟨j, owed, due⟩ | rfl)
        · have different : j ≠ i := by
            rintro rfl
            cases fresh.symm.trans due
          exact ⟨j, owed, (if_neg different).trans due⟩
        · exact ⟨i, reply, if_pos rfl⟩
  · intro j
    rw [reply?, reply?, settled]
    split <;> rfl

/-- A step that stores what its operation owes, if it owes anything. -/
theorem pay (holds : Simulates operations draws callers pool ahead)
    (distinct : DrawsDistinct operations draws callers)
    (entitled : Entitled operations draws callers pool i) (unfinished : ¬ pool.HasReturned i)
    {reply : Reply} {entry : Option (String × Entry)}
    (before : pool.settled? draws i = some (reply, entry))
    (underway : (operations i).Underway (draws i) pool.core.now program)
    (foreseen : program.foresee (draws i) pool.core.now = some (reply, none)) :
    Simulates operations draws callers (pool.moved (pool.core.keep entry) i program) ahead ∧
      ∀ j, (pool.moved (pool.core.keep entry) i program).reply? draws j =
        pool.reply? draws j := by
  have now : (pool.core.keep entry).now = pool.core.now := pool.core.keep_now entry
  have steady : pool.Steady draws i (pool.core.keep entry).now := .of_now now
  have settled : ∀ j, (pool.moved (pool.core.keep entry) i program).settled? draws j =
      if j = i then some (reply, none) else pool.settled? draws j := by
    intro j
    rw [steady.settled?_moved, now, foreseen]
  constructor
  · refine holds.moved entitled unfinished (now ▸ underway) steady (holds.lags.pay ?_ ?_)
    · rintro token kept rfl
      exact ⟨i, reply, before⟩
    · intro key kept
      simp only [Owes, settled]
      constructor
      · rintro ⟨j, owed, due⟩
        by_cases equal : j = i
        · rw [if_pos equal] at due
          cases due
        · rw [if_neg equal] at due
          refine ⟨⟨j, owed, due⟩, ?_⟩
          rintro other rfl
          obtain ⟨caller, login, own⟩ := holds.debtor due
          obtain ⟨-, ownLogin, rfl⟩ := holds.debtor before
          exact equal (distinct j caller i entitled.1 login ownLogin own.symm)
      · rintro ⟨⟨j, owed, due⟩, others⟩
        have different : j ≠ i := by
          rintro rfl
          obtain ⟨-, rfl⟩ := Prod.mk.inj (Option.some.inj (before.symm.trans due))
          exact others kept rfl
        exact ⟨j, owed, (if_neg different).trans due⟩
  · intro j
    rw [reply?, reply?, settled]
    by_cases equal : j = i
    · subst equal
      rw [if_pos rfl, before]
      rfl
    · rw [if_neg equal]

end Simulates

/-- What a step of an operation comes to: it decides nothing, or it decides its operation, which is
next to be carried out. -/
inductive Proceeds (operations : ι → Operation) (draws : ι → Draws) (callers : List ι)
    (pool : Pool ι) (ahead : Core) (i : ι) (next : Pool ι) : Prop where
  | waits (holds : Simulates operations draws callers next ahead)
      (replies : ∀ j, next.reply? draws j = pool.reply? draws j)
  | decides {reply : Reply} {after : Core} (fresh : pool.settled? draws i = none)
      (performed : (operations i).perform (draws i) ahead = (reply, after))
      (holds : Simulates operations draws callers next after)
      (replies : ∀ j, next.reply? draws j = if j = i then some reply else pool.reply? draws j)

namespace Simulates

theorem start (holds : Simulates operations draws callers pool ahead)
    (distinct : DrawsDistinct operations draws callers)
    (entitled : Entitled operations draws callers pool i) (idle : pool.threads i = none)
    (works : (operations i).work = .inl program) :
    Proceeds operations draws callers pool ahead i (pool.moved pool.core i program) := by
  have fresh : pool.settled? draws i = none := settled?_of_none idle
  have underway := Operation.underway_of_work works (draws i) pool.core.now
  rcases underway.stage with undecided | ⟨reply, entry, foreseen⟩
  · have unfinished : ¬ pool.HasReturned i := by
      rintro ⟨reply, finished⟩
      cases idle.symm.trans finished
    have unknown := (undecided.foresee_eq_none pool.core.now).trans fresh.symm
    obtain ⟨still, replies⟩ := holds.quiet entitled unfinished underway unknown
    exact .waits still replies
  · obtain ⟨still, replies⟩ :=
      holds.decide distinct entitled fresh underway (.of_now rfl) holds.lags foreseen
    refine .decides fresh ?_ still replies
    rw [Operation.perform, works]
    rw [← holds.lags.ahead_now] at foreseen
    exact Core.runDrawing_of_foresee holds.lags.ahead_sound foreseen

theorem startAtOnce (holds : Simulates operations draws callers pool ahead)
    (distinct : DrawsDistinct operations draws callers)
    (entitled : Entitled operations draws callers pool i) (idle : pool.threads i = none)
    (quiet : (operations i).IsClockMove → ∀ j program, pool.threads j = some program →
      (operations j).IsLogin → pool.HasReturned j)
    {effect : Core → Reply × Core} (works : (operations i).work = .inr effect) :
    Proceeds operations draws callers pool ahead i
      (pool.moved (effect pool.core).2 i (.done (effect pool.core).1)) := by
  have fresh : pool.settled? draws i = none := settled?_of_none idle
  obtain ⟨same, lags⟩ := Operation.lagsBehind_effect works holds.lags
  have steady : pool.Steady draws i (effect pool.core).2.now := by
    -- When the clock moves, logins have returned, and nothing else that is foreseen is timed.
    by_cases clock : (operations i).IsClockMove
    · rintro j - program remains
      rcases (holds.underway j program remains).timeless with login | timeless
      · obtain ⟨reply, finished⟩ := quiet clock j program remains login
        obtain rfl := Option.some.inj (remains.symm.trans finished)
        rfl
      · exact timeless.foresee_eq (draws j) _ _
    · exact .of_now (Operation.now_of_effect works clock pool.core)
  obtain ⟨still, replies⟩ := holds.decide distinct entitled fresh
    (Operation.Underway.done _ _ _ _) steady lags rfl
  refine .decides fresh ?_ still replies
  rw [Operation.perform, works]
  exact Prod.ext same rfl

variable {question : Question} {resume : question.Answer → Program Reply}

omit [DecidableEq ι] in
theorem unfinished_of_ask (asks : pool.threads i = some (.ask question resume)) :
    ¬ pool.HasReturned i := by
  rintro ⟨reply, finished⟩
  cases asks.symm.trans finished

theorem answer_of_foreseen (holds : Simulates operations draws callers pool ahead)
    (distinct : DrawsDistinct operations draws callers)
    (asks : pool.threads i = some (.ask question resume)) {reply : Reply}
    {entry : Option (String × Entry)}
    (foreseen : (Program.ask question resume).foresee (draws i) pool.core.now =
      some (reply, entry)) :
    Proceeds operations draws callers pool ahead i
      (pool.moved (pool.core.answerDrawing (draws i) question).2 i
        (resume (pool.core.answerDrawing (draws i) question).1)) := by
  have entitled := holds.entitled i _ asks
  have unfinished := unfinished_of_ask asks
  have underway := holds.underway i _ asks
  have settled := (settled?_of_threads asks).trans foreseen
  obtain ⟨answer, kept, left, answered, rest, split⟩ :=
    Core.answerDrawing_of_foresee holds.lags.sound foreseen
  rw [answered]
  rcases split with ⟨rfl, rfl⟩ | ⟨rfl, rfl⟩
  · have later : (operations i).Underway (draws i) pool.core.now (resume answer) := by
      apply underway.resume (.inr ⟨reply, left, rest⟩)
      intro other entry known
      rw [rest] at known
      exact underway.owns other entry (foreseen.trans known)
    obtain ⟨still, replies⟩ := holds.quiet entitled unfinished later (rest.trans settled.symm)
    exact .waits still replies
  · have later : (operations i).Underway (draws i) pool.core.now (resume answer) := by
      apply underway.resume (.inr ⟨reply, none, rest⟩)
      intro other entry known
      obtain ⟨-, rfl⟩ := Prod.mk.inj (Option.some.inj (rest.symm.trans known))
      trivial
    obtain ⟨still, replies⟩ := holds.pay distinct entitled unfinished settled later rest
    exact .waits still replies

/-- An operation that is undecided goes on waiting, or is decided by the answer of a store. -/
theorem answer_of_undecided (holds : Simulates operations draws callers pool ahead)
    (distinct : DrawsDistinct operations draws callers)
    (asks : pool.threads i = some (.ask question resume))
    (undecided : (operations i).Undecided (draws i) (.ask question resume)) :
    Proceeds operations draws callers pool ahead i
      (pool.moved (pool.core.answerDrawing (draws i) question).2 i
        (resume (pool.core.answerDrawing (draws i) question).1)) := by
  have entitled := holds.entitled i _ asks
  have unfinished := unfinished_of_ask asks
  have underway := holds.underway i _ asks
  have fresh : pool.settled? draws i = none :=
    (settled?_of_threads asks).trans (undecided.foresee_eq_none pool.core.now)
  have waiting : ∀ answer, (operations i).Undecided (draws i) (resume answer) →
      Proceeds operations draws callers pool ahead i
        (pool.moved pool.core i (resume answer)) := by
    intro answer still
    have unknown := still.foresee_eq_none pool.core.now
    have later : (operations i).Underway (draws i) pool.core.now (resume answer) := by
      apply underway.resume (.inl still)
      intro reply entry known
      cases unknown.symm.trans known
    obtain ⟨next, replies⟩ := holds.quiet entitled unfinished later (unknown.trans fresh.symm)
    exact .waits next replies
  cases drawn : question.drawn? (draws i) with
  | some answer =>
      rw [Core.answerDrawing_of_drawn? drawn]
      exact waiting answer (undecided.of_drawn? drawn)
  | none =>
      obtain ⟨here, contended, uses, restarts, owns, looks, remains⟩ := undecided
      rw [Program.skip, drawn] at here
      cases here
      have clear : ∀ token, question.Touches token → ∀ entry, ¬ pool.Owes draws token entry :=
        fun token touched => holds.not_owes asks (uses token touched)
      obtain ⟨same, lags⟩ := holds.lags.answer contended clear
      -- The core ahead gives the same answer; if it decides, the operation is carried out there as
      -- a whole, which is the same as going on from here.
      cases foreseen : (resume (pool.core.answerDrawing (draws i) question).1).foresee (draws i)
          pool.core.now with
      | none =>
          rw [Core.answerDrawing_of_isLook holds.lags.sound (looks _ _ foreseen)]
          exact waiting _ (remains _ _ foreseen)
      | some pair =>
          obtain ⟨reply, entry⟩ := pair
          have now := Core.answerDrawing_now holds.lags.sound (draws i) question
          have aheadNow := lags.ahead_now.trans now
          rw [← now] at foreseen
          have later := underway.resume (.inr ⟨reply, entry, foreseen⟩) (owns _ _)
          obtain ⟨next, replies⟩ :=
            holds.decide distinct entitled fresh later (.of_now now) lags foreseen
          refine .decides fresh ?_ next replies
          rw [restarts ahead holds.lags.ahead_sound, Core.runDrawing_ask, same]
          rw [← lags.ahead_now] at foreseen
          exact Core.runDrawing_of_foresee lags.ahead_sound foreseen

/-- Every step keeps what holds. -/
theorem advance (holds : Simulates operations draws callers pool ahead)
    (distinct : DrawsDistinct operations draws callers)
    (entitled : Entitled operations draws callers pool i)
    (quiet : pool.threads i = none → (operations i).IsClockMove → ∀ j program,
      pool.threads j = some program → (operations j).IsLogin → pool.HasReturned j) :
    Proceeds operations draws callers pool ahead i (pool.advance operations draws i) := by
  cases remains : pool.threads i with
  | none =>
      cases works : (operations i).work with
      | inl program =>
          rw [advance_of_program remains works]
          exact holds.start distinct entitled remains works
      | inr effect =>
          rw [advance_of_effect remains works]
          exact holds.startAtOnce distinct entitled remains (quiet remains) works
  | some program =>
      cases program with
      | done reply =>
          rw [advance_of_done remains]
          exact .waits holds fun _ => rfl
      | ask question resume =>
          rw [advance_of_ask remains]
          rcases (holds.underway i _ remains).stage with undecided | ⟨reply, entry, foreseen⟩
          · exact holds.answer_of_undecided distinct remains undecided
          · exact holds.answer_of_foreseen distinct remains foreseen

end Simulates

end Pool

end SessionGate
