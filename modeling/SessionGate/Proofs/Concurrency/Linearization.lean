import SessionGate.Proofs.Concurrency.Simulation

/-!
# Calls at once come out as calls one after another

Whatever the order of their steps, calls that run at the same time come out as if they had been made
one after another, each at the step that decides it.
-/

namespace SessionGate

namespace Pool

variable {ι : Type} [DecidableEq ι]

/-- How the calls of a schedule are made: no two logins draw the same token, no call is given the
token of a login before that login has returned, and the clock is moved only while no login is in
progress. -/
structure IsDisciplined (operations : ι → Operation) (draws : ι → Draws) (core : Core)
    (schedule : List ι) : Prop where
  distinct : DrawsDistinct operations draws schedule
  returned : ∀ before i rest, schedule = before ++ i :: rest → i ∉ before → ∀ j ∈ schedule,
    (operations j).IsLogin → (operations i).Uses (draws j).tokenText →
    ((idle core).follow operations draws before).HasReturned j
  quiet : ∀ before i rest, schedule = before ++ i :: rest → i ∉ before →
    (operations i).IsClockMove → ∀ j ∈ before, (operations j).IsLogin →
    ((idle core).follow operations draws before).HasReturned j

/-- The calls of a schedule come out as in an order in which they are made one after another: every
call has its place and its reply there, a call that has returned before another starts comes before
it, and both stores end with the same contents. -/
structure Linearizes (operations : ι → Operation) (draws : ι → Draws) (core : Core)
    (schedule : List ι) (order : List (ι × Reply)) : Prop where
  once : (order.map Prod.fst).Nodup
  complete : ∀ i, i ∈ order.map Prod.fst ↔ i ∈ schedule
  replies : ∀ i reply,
    ((idle core).follow operations draws schedule).threads i = some (.done reply) →
    (i, reply) ∈ order
  inOrder : ∀ before rest i j, schedule = before ++ rest →
    ((idle core).follow operations draws before).HasReturned i → j ∉ before → j ∈ rest →
    [i, j].Sublist (order.map Prod.fst)
  outcome : ∃ after, Sequentially operations draws core order after ∧
    after.users = ((idle core).follow operations draws schedule).core.users ∧
    ∀ key, after.sessions.find? key =
      ((idle core).follow operations draws schedule).core.sessions.find? key

/-- The operations that have been decided on the way, in the order of their decisions. -/
structure Traces (operations : ι → Operation) (draws : ι → Draws) (callers : List ι) (core : Core)
    (schedule : List ι) (order : List (ι × Reply)) (ahead : Core) : Prop where
  sequential : Sequentially operations draws core order ahead
  simulates : Simulates operations draws callers ((idle core).follow operations draws schedule)
    ahead
  once : (order.map Prod.fst).Nodup
  replies : ∀ i reply, (i, reply) ∈ order ↔
    ((idle core).follow operations draws schedule).reply? draws i = some reply
  inOrder : ∀ before rest i j, schedule = before ++ rest →
    ((idle core).follow operations draws before).HasReturned i → j ∉ before →
    j ∈ order.map Prod.fst → [i, j].Sublist (order.map Prod.fst)

variable {operations : ι → Operation} {draws : ι → Draws} {callers : List ι} {core ahead : Core}
  {schedule : List ι} {order : List (ι × Reply)}

theorem Traces.nil (operations : ι → Operation) (draws : ι → Draws) (callers : List ι)
    (sound : core.IsSound) : Traces operations draws callers core [] [] core where
  sequential := .nil core
  simulates :=
    { lags := .refl sound fun key entry ⟨i, reply, settled⟩ => nomatch settled
      underway := fun i program remains => nomatch remains
      entitled := fun i program remains => nomatch remains }
  once := List.nodup_nil
  replies i reply := by
    constructor
    · intro member
      cases member
    · intro settled
      cases settled
  inOrder before rest i j split returned fresh member := by
    cases member

theorem Traces.mem_order_iff (traces : Traces operations draws callers core schedule order ahead)
    {i : ι} :
    i ∈ order.map Prod.fst ↔
      ∃ reply, ((idle core).follow operations draws schedule).reply? draws i = some reply := by
  constructor
  · intro member
    obtain ⟨⟨j, reply⟩, inside, rfl⟩ := List.mem_map.mp member
    exact ⟨reply, (traces.replies j reply).mp inside⟩
  · rintro ⟨reply, settled⟩
    exact List.mem_map_of_mem ((traces.replies i reply).mpr settled)

theorem Traces.mem_schedule (traces : Traces operations draws callers core schedule order ahead)
    {i : ι} (member : i ∈ order.map Prod.fst) : i ∈ schedule := by
  obtain ⟨reply, settled⟩ := traces.mem_order_iff.mp member
  by_contra absent
  have idle := (@threads_follow_idle_eq_none_iff ι _ core i operations draws schedule).mpr absent
  rw [reply?, settled?_of_none idle] at settled
  cases settled

theorem Traces.mem_of_hasReturned
    (traces : Traces operations draws callers core schedule order ahead) {i : ι}
    (returned : ((idle core).follow operations draws schedule).HasReturned i) :
    i ∈ order.map Prod.fst := by
  obtain ⟨reply, settled⟩ := returned.settled? draws
  refine traces.mem_order_iff.mpr ⟨reply, ?_⟩
  rw [reply?, settled]
  rfl

/-- One more step decides nothing, or decides its operation as the last one so far. -/
theorem Traces.concat (traces : Traces operations draws callers core schedule order ahead)
    (distinct : DrawsDistinct operations draws callers) {i : ι}
    (entitled : Entitled operations draws callers
      ((idle core).follow operations draws schedule) i)
    (quiet : i ∉ schedule → (operations i).IsClockMove → ∀ j ∈ schedule, (operations j).IsLogin →
      ((idle core).follow operations draws schedule).HasReturned j) :
    ∃ order ahead, Traces operations draws callers core (schedule ++ [i]) order ahead := by
  have proceeds := traces.simulates.advance distinct entitled (by
    intro idle clock j program remains login
    have absent := threads_follow_idle_eq_none_iff.mp idle
    have started : j ∈ schedule := by
      by_contra missing
      rw [threads_follow_idle_eq_none_iff.mpr missing] at remains
      cases remains
    exact quiet absent clock j started login)
  rw [← follow_concat] at proceeds
  cases proceeds with
  | waits holds replies =>
      refine ⟨order, ahead, traces.sequential, holds, traces.once, ?_, ?_⟩
      · intro j reply
        rw [traces.replies, replies]
      · intro before rest first second split returned fresh member
        rcases List.eq_nil_or_concat rest with rfl | ⟨rest, last, rfl⟩
        · rw [List.append_nil] at split
          subst split
          exact absurd (List.mem_append_left [i] (traces.mem_schedule member)) fresh
        · rw [List.concat_eq_append, ← List.append_assoc] at split
          exact traces.inOrder before rest first second (List.append_inj_left' split rfl) returned
            fresh member
  | @decides reply after fresh performed holds replies =>
      have absent : i ∉ order.map Prod.fst := by
        intro member
        obtain ⟨other, settled⟩ := traces.mem_order_iff.mp member
        rw [reply?, fresh] at settled
        cases settled
      refine ⟨order ++ [(i, reply)], after, traces.sequential.concat performed, holds, ?_, ?_, ?_⟩
      · rw [List.map_append, List.nodup_append]
        refine ⟨traces.once, List.pairwise_singleton _ i, ?_⟩
        rintro j member other last rfl
        rw [List.mem_singleton.mp last] at member
        exact absent member
      · intro j other
        rw [replies, List.mem_append, List.mem_singleton]
        by_cases same : j = i
        · subst same
          rw [if_pos rfl]
          constructor
          · rintro (member | last)
            · exact absurd (List.mem_map_of_mem member) absent
            · rw [(Prod.mk.inj last).2]
          · intro settled
            rw [Option.some.inj settled]
            exact .inr rfl
        · rw [if_neg same, ← traces.replies]
          constructor
          · rintro (member | last)
            · exact member
            · exact absurd (Prod.mk.inj last).1 same
          · exact .inl
      · intro before rest first second split returned fresh member
        rw [List.map_append] at member ⊢
        rcases List.eq_nil_or_concat rest with rfl | ⟨rest, last, rfl⟩
        -- Nothing is decided that has not started, and a step of its own starts an operation.
        · rw [List.append_nil] at split
          subst split
          rcases List.mem_append.mp member with old | new
          · exact absurd (List.mem_append_left [i] (traces.mem_schedule old)) fresh
          · exact absurd (List.mem_append_right schedule new) fresh
        · rw [List.concat_eq_append, ← List.append_assoc] at split
          have shorter := List.append_inj_left' split rfl
          rcases List.mem_append.mp member with old | new
          · exact (traces.inOrder before rest first second shorter returned fresh old).trans
              (List.sublist_append_left _ _)
          · obtain rfl := List.mem_singleton.mp new
            have early : first ∈ order.map Prod.fst := by
              apply traces.mem_of_hasReturned
              rw [shorter, follow, List.foldl_append]
              exact returned.follow rest
            exact (List.singleton_sublist.mpr early).append (List.Sublist.refl [second])

theorem IsDisciplined.traces (disciplined : IsDisciplined operations draws core schedule)
    (sound : core.IsSound) {before rest : List ι} (split : schedule = before ++ rest) :
    ∃ order ahead, Traces operations draws schedule core before order ahead := by
  -- The induction is on the steps taken so far; the callers are always those of the whole schedule.
  induction before using List.reverseRecOn generalizing rest with
  | nil => exact ⟨[], core, .nil operations draws schedule sound⟩
  | append_singleton before i ih =>
      rw [List.append_assoc, List.singleton_append] at split
      obtain ⟨order, ahead, traces⟩ := ih split
      have called : i ∈ schedule := by
        rw [split]
        exact List.mem_append_right before List.mem_cons_self
      refine traces.concat disciplined.distinct ?_ (disciplined.quiet before i rest split)
      by_cases started : i ∈ before
      · obtain ⟨program, remains⟩ := Option.ne_none_iff_exists'.mp
          (mt threads_follow_idle_eq_none_iff.mp (not_not_intro started))
        exact traces.simulates.entitled i program remains
      · exact ⟨called, disciplined.returned before i rest split started⟩

/-- Calls on sound stores at the same time, in any order of their steps, come out as some order in
which they are made one after another. -/
theorem exists_linearizes (operations : ι → Operation) (draws : ι → Draws)
    (sound : core.IsSound) (disciplined : IsDisciplined operations draws core schedule)
    (returned : ∀ i ∈ schedule,
      ((idle core).follow operations draws schedule).HasReturned i) :
    ∃ order, Linearizes operations draws core schedule order := by
  obtain ⟨order, ahead, traces⟩ :=
    disciplined.traces sound (List.append_nil schedule).symm
  have complete : ∀ i, i ∈ order.map Prod.fst ↔ i ∈ schedule := fun i =>
    ⟨traces.mem_schedule, fun member => traces.mem_of_hasReturned (returned i member)⟩
  refine ⟨order, traces.once, complete, ?_, ?_, ahead, traces.sequential, ?_, ?_⟩
  · intro i reply finished
    rw [traces.replies, reply?, settled?_of_threads finished]
    rfl
  · intro before rest i j split before_i fresh later
    refine traces.inOrder before rest i j split before_i fresh ((complete j).mpr ?_)
    rw [split]
    exact List.mem_append_right before later
  · exact traces.simulates.lags.ahead_users
  · intro key
    apply traces.simulates.lags.others key
    rintro entry ⟨i, reply, settled⟩
    obtain ⟨caller, -⟩ := traces.simulates.debtor settled
    obtain ⟨other, paid⟩ := (returned i caller).settled? draws
    cases settled.symm.trans paid

/-- What comes before the first step of an operation. -/
theorem eq_takeWhile_of_split {schedule before rest : List ι} {i : ι}
    (split : schedule = before ++ i :: rest) (fresh : i ∉ before) :
    before = schedule.takeWhile (· != i) := by
  have others : ∀ j ∈ before, (j != i) = true := by
    intro j member
    rw [bne_iff_ne]
    rintro rfl
    exact fresh member
  rw [split, List.takeWhile_append_of_pos others]
  simp

end Pool

/-! ## Twins, and others in between -/

inductive Caller where
  | elder
  | younger
  | guest
  | reader
  | clock
  deriving DecidableEq

def Caller.draws : Draws :=
  ⟨.replicate 8 0, .replicate 32 0⟩

/-- Both twins register one address, for which the guest has a password. The reader has the token
of the guest. -/
def Caller.operation : Caller → Operation
  | .elder | .younger => .register .cheap ⟨"a", "b", none⟩
  | .guest => .login .cheap ⟨"a", "b"⟩
  | .reader => .resolve Caller.draws.tokenText
  | .clock => .setClock .epoch

def Caller.core : Core :=
  (World.start .epoch (fun _ => Caller.draws.salt) fun _ => Caller.draws.token).core

/-- Both twins look before either inserts an account, and the others come in between. -/
def Caller.schedule : List Caller :=
  [.elder, .younger, .guest, .elder, .younger, .guest, .clock, .reader, .elder, .reader, .younger,
    .elder, .younger, .elder]

theorem Caller.eq_guest_of_isLogin {caller : Caller} (login : caller.operation.IsLogin) :
    caller = .guest := by
  cases caller with
  | guest => rfl
  | _ => exact login.elim

theorem Caller.isDisciplined :
    Pool.IsDisciplined Caller.operation (fun _ => Caller.draws) Caller.core Caller.schedule where
  distinct i _ j _ first second _ :=
    (Caller.eq_guest_of_isLogin first).trans (Caller.eq_guest_of_isLogin second).symm
  returned before i rest split fresh j _ login uses := by
    obtain rfl := Caller.eq_guest_of_isLogin login
    cases i with
    | reader =>
        obtain rfl := Pool.eq_takeWhile_of_split split fresh
        exact ⟨_, rfl⟩
    | _ => exact uses.elim
  quiet before i rest split fresh clock j _ login := by
    obtain rfl := Caller.eq_guest_of_isLogin login
    cases i with
    | clock =>
        obtain rfl := Pool.eq_takeWhile_of_split split fresh
        exact ⟨_, rfl⟩
    | _ => exact clock.elim

theorem Caller.exists_order :
    ∃ order, Pool.Linearizes Caller.operation (fun _ => Caller.draws) Caller.core Caller.schedule
      order := by
  refine Pool.exists_linearizes Caller.operation (fun _ => Caller.draws) ⟨rfl, rfl⟩
    Caller.isDisciplined ?_
  intro i _
  cases i with
  | elder | younger | guest | reader | clock => exact ⟨_, rfl⟩

end SessionGate
