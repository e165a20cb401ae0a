import SessionGate.Proofs.Sessions.Deeds

/-!
# Histories and the store of sessions

The store holds, for every token, the entry of the session whose login is in the history and has
not been undone since: by a logout, or by a look-up or sweep that found the session ended. No two
logins issue one token, so the history settles which session that is.
-/

namespace SessionGate

open Time

/-- The deed takes nothing away from a session: it does not revoke its token, and it finds the
session running if it looks the token up or sweeps. -/
structure Deed.Spares (deed : Deed) (session : Session) : Prop where
  notRevoked : ¬ deed.Revokes session.token
  running : deed.LooksUp session.token ∨ deed.IsSweep → deed.before.now < session.expiresAt

/-- A login of the history has issued a session for an account, and all deeds since have spared
it. -/
def Outlives (history : List Deed) (session : Session) (user : User) : Prop :=
  ∃ before login after, history = before ++ login :: after ∧ login.Issues session user ∧
    ∀ deed ∈ after, deed.Spares session

theorem Deed.Issues.session_unique {deed : Deed} {first second : Session} {owner other : User}
    (issues : deed.Issues first owner) (again : deed.Issues second other) : first = second := by
  obtain ⟨before, call⟩ := deed
  cases call with
  | login manager credentials =>
      exact (Prod.mk.inj (Except.ok.inj (issues.2.symm.trans again.2))).1
  | _ => exact issues.elim

theorem Deed.spares_of_issues {deed : Deed} {issued session : Session} {user : User}
    (issues : deed.Issues issued user) : deed.Spares session := by
  obtain ⟨before, call⟩ := deed
  cases call with
  | login manager credentials => exact ⟨nofun, nofun⟩
  | _ => exact issues.elim

/-- Deeds that lead from one core to another. -/
inductive Leads : Core → List Deed → Core → Prop where
  | nil (core : Core) : Leads core [] core
  | cons {deed : Deed} {rest : List Deed} {finish : Core}
      (later : Leads deed.after.core rest finish) : Leads deed.before.core (deed :: rest) finish

/-- No token has been drawn twice. -/
def Core.DrawsFresh (core : Core) : Prop :=
  ∀ earlier later, earlier < later → later < core.random.tokensGiven →
    Token.ofBytes (core.random.tokens earlier) ≠ Token.ofBytes (core.random.tokens later)

variable {core : Core} {history : List Deed} {deed : Deed} {session : Session} {user : User}
  {key : String}

/-- What holds since the last one of a list that begins it: in a list that has grown by one, either
the new one begins it, or it held before and the new one keeps it. -/
theorem exists_split_append_iff {α : Type} {begins keeps : α → Prop} {earlier : List α} {last : α} :
    (∃ before one after, earlier ++ [last] = before ++ one :: after ∧ begins one ∧
        ∀ other ∈ after, keeps other) ↔
      begins last ∨
        ((∃ before one after, earlier = before ++ one :: after ∧ begins one ∧
          ∀ other ∈ after, keeps other) ∧ keeps last) := by
  constructor
  · rintro ⟨before, one, after, split, begun, kept⟩
    obtain rfl | ⟨rest, final, rfl⟩ := after.eq_nil_or_concat
    · obtain ⟨-, same⟩ := List.append_inj' split rfl
      exact .inl ((List.cons.inj same).1 ▸ begun)
    · rw [List.concat_eq_append] at split kept
      have regroup : before ++ one :: (rest ++ [final]) = (before ++ one :: rest) ++ [final] := by
        simp
      obtain ⟨same, ends⟩ := List.append_inj' (split.trans regroup) rfl
      refine .inr ⟨⟨before, one, rest, same, begun, fun other member => ?_⟩, ?_⟩
      · exact kept other (List.mem_append_left _ member)
      · rw [(List.cons.inj ends).1]
        exact kept final (List.mem_append_right _ (List.mem_singleton_self _))
  · rintro (begun | ⟨⟨before, one, after, rfl, begun, kept⟩, final⟩)
    · exact ⟨earlier, last, [], rfl, begun, fun _ member => nomatch member⟩
    · refine ⟨before, one, after ++ [last], by simp, begun, fun other member => ?_⟩
      rcases List.mem_append.mp member with inside | newest
      · exact kept other inside
      · rwa [List.mem_singleton.mp newest]

theorem outlives_append_iff :
    Outlives (history ++ [deed]) session user ↔
      deed.Issues session user ∨ (Outlives history session user ∧ deed.Spares session) :=
  exists_split_append_iff

theorem Outlives.exists_issues (outlives : Outlives history session user) :
    ∃ login ∈ history, login.Issues session user := by
  obtain ⟨before, login, after, rfl, issues, -⟩ := outlives
  exact ⟨login, by simp, issues⟩

/-- The entries of the store are those of the sessions that the history has left. -/
def Core.Matches (core : Core) (history : List Deed) : Prop :=
  ∀ key : String, key.isEmpty = false → ∀ entry,
    core.sessions.find? key = some entry ↔
      ∃ session user, Outlives history session user ∧ session.token = key ∧ session.entry = entry

/-- A core that its history explains. -/
structure Keeps (core : Core) (history : List Deed) : Prop where
  sound : core.IsSound
  plain : core.now.isLeap = false
  drawn : ∀ deed ∈ history, ∀ session user, deed.Issues session user →
    session.identity = ⟨user.id, user.role⟩ ∧
      ∃ index < core.random.tokensGiven, session.token = Token.ofBytes (core.random.tokens index)
  entries : core.DrawsFresh → core.Matches history

namespace Keeps

/-- Nothing has been stored before the first call. -/
theorem nil (now : Instant) (plain : now.isLeap = false) (salts : Nat → Salt)
    (tokens : Nat → TokenBytes) : Keeps (World.start now salts tokens).core [] where
  sound := ⟨rfl, rfl⟩
  plain := plain
  drawn deed member := nomatch member
  entries fresh key notBlank entry := by
    constructor
    · nofun
    · rintro ⟨session, user, ⟨before, login, after, split, -⟩, -⟩
      simp at split

/-- The clock may be moved and accounts may change without an effect on sessions. -/
theorem of_eq {other : Core} (keeps : Keeps core history) (plain : other.now.isLeap = false)
    (sessions : other.sessions = core.sessions) (random : other.random = core.random)
    (userStore : other.userStore = core.userStore)
    (sessionStore : other.sessionStore = core.sessionStore) : Keeps other history where
  sound := ⟨userStore.trans keeps.sound.users, sessionStore.trans keeps.sound.sessions⟩
  plain := plain
  drawn := by
    rw [random]
    exact keeps.drawn
  entries fresh := by
    rw [Core.Matches, sessions]
    apply keeps.entries
    rwa [Core.DrawsFresh, random] at fresh

private theorem entry_isExpired_eq_false_iff {now : Instant} :
    session.entry.isExpired now = false ↔ now < session.expiresAt := by
  rw [← Instant.not_le]
  simp [Entry.isExpired, Session.entry]

/-- A token that is about to be drawn has not been issued, unless it is drawn twice. -/
private theorem token_ne_of_mem (keeps : Keeps core history)
    (fresh : core.tokenDrawn.DrawsFresh) {login : Deed} (member : login ∈ history)
    (issues : login.Issues session user) : session.token ≠ core.nextToken := by
  obtain ⟨-, index, below, token⟩ := keeps.drawn login member session user issues
  rw [token]
  exact fresh index core.random.tokensGiven below (Nat.lt_succ_self _)

private theorem matches_of_issues (keeps : Keeps deed.before.core history)
    (entries : deed.before.core.Matches history) (fresh : deed.after.core.DrawsFresh)
    (issues : deed.Issues session user) : deed.after.core.Matches (history ++ [deed]) := by
  obtain ⟨token, -, -, after⟩ := Deed.after_of_issues keeps.sound keeps.plain issues
  have newest : ∀ other owner, Outlives history other owner → other.token ≠ session.token := by
    intro other owner outlives
    obtain ⟨login, member, old⟩ := outlives.exists_issues
    rw [token]
    refine keeps.token_ne_of_mem ?_ member old
    rwa [after] at fresh
  intro key notBlank entry
  simp only [outlives_append_iff]
  rw [after, ExpiringMap.find?_insert]
  by_cases same : key = session.token
  · rw [if_pos same]
    constructor
    · intro stored
      exact ⟨session, user, .inl issues, same.symm, Option.some.inj stored⟩
    · rintro ⟨other, owner, anew | ⟨outlives, -⟩, tokenSame, rfl⟩
      · rw [anew.session_unique issues]
      · exact absurd (tokenSame.trans same) (newest other owner outlives)
  · rw [if_neg same]
    apply (entries key notBlank entry).trans
    constructor
    · rintro ⟨other, owner, outlives, rfl, stored⟩
      exact ⟨other, owner, .inr ⟨outlives, Deed.spares_of_issues issues⟩, rfl, stored⟩
    · rintro ⟨other, owner, anew | ⟨outlives, -⟩, rfl, stored⟩
      · rw [anew.session_unique issues] at same
        exact absurd rfl same
      · exact ⟨other, owner, outlives, rfl, stored⟩

private theorem matches_of_not_issues (keeps : Keeps deed.before.core history)
    (entries : deed.before.core.Matches history)
    (quiet : ∀ session user, ¬ deed.Issues session user) :
    deed.after.core.Matches (history ++ [deed]) := by
  intro key notBlank entry
  simp only [outlives_append_iff, quiet, false_or]
  change deed.after.sessions.find? key = some entry ↔ _
  obtain ⟨revokes, left⟩ | ⟨unrevoked, looked, left⟩ | ⟨unrevoked, unseen, left⟩ :=
    Deed.find?_after_of_not_issues keeps.sound keeps.plain notBlank quiet
  · rw [left]
    constructor
    · nofun
    · rintro ⟨session, user, ⟨-, spares⟩, rfl, -⟩
      exact absurd revokes spares.notRevoked
  · rw [left, ExpiringMap.live?_eq_some_iff]
    constructor
    · rintro ⟨stored, running⟩
      obtain ⟨session, user, outlives, rfl, rfl⟩ := (entries key notBlank entry).mp stored
      have ahead := entry_isExpired_eq_false_iff.mp running
      exact ⟨session, user, ⟨outlives, unrevoked, fun _ => ahead⟩, rfl, rfl⟩
    · rintro ⟨session, user, ⟨outlives, spares⟩, rfl, rfl⟩
      exact ⟨(entries _ notBlank _).mpr ⟨session, user, outlives, rfl, rfl⟩,
        entry_isExpired_eq_false_iff.mpr (spares.running looked)⟩
  · rw [left]
    apply (entries key notBlank entry).trans
    constructor
    · rintro ⟨session, user, outlives, rfl, stored⟩
      exact ⟨session, user, ⟨outlives, unrevoked, fun looked => absurd looked unseen⟩, rfl, stored⟩
    · rintro ⟨session, user, ⟨outlives, -⟩, same, stored⟩
      exact ⟨session, user, outlives, same, stored⟩

/-- What the history says stays true with every deed. -/
theorem append (keeps : Keeps deed.before.core history) :
    Keeps deed.after.core (history ++ [deed]) := by
  have precedes := Deed.precedes_after keeps.sound keeps.plain
  refine ⟨precedes.isSound keeps.sound, by rw [precedes.now]; exact keeps.plain, ?_, ?_⟩
  · intro login member session user issues
    rcases List.mem_append.mp member with inside | last
    · obtain ⟨identity, index, below, token⟩ := keeps.drawn login inside session user issues
      rw [precedes.tokens]
      exact ⟨identity, index, Nat.lt_of_lt_of_le below precedes.tokensGiven, token⟩
    · obtain rfl := List.mem_singleton.mp last
      obtain ⟨token, -, identity, after⟩ := Deed.after_of_issues keeps.sound keeps.plain issues
      rw [after]
      exact ⟨identity, login.before.core.random.tokensGiven, Nat.lt_succ_self _, token⟩
  · intro fresh
    have freshBefore : deed.before.core.DrawsFresh := by
      intro earlier later order below
      have still := fresh earlier later order (Nat.lt_of_lt_of_le below precedes.tokensGiven)
      rwa [precedes.tokens] at still
    by_cases issuing : ∃ session user, deed.Issues session user
    · obtain ⟨session, user, issues⟩ := issuing
      exact matches_of_issues keeps (keeps.entries freshBefore) fresh issues
    · exact matches_of_not_issues keeps (keeps.entries freshBefore) fun session user issues =>
        issuing ⟨session, user, issues⟩

/-- What the history says stays true with any number of deeds. -/
theorem append_of_leads {deeds : List Deed} {finish : Core} (keeps : Keeps core history)
    (leads : Leads core deeds finish) : Keeps finish (history ++ deeds) := by
  induction leads generalizing history with
  | nil core =>
      rw [List.append_nil]
      exact keeps
  | cons later ih =>
      rw [List.append_cons]
      exact ih keeps.append

/-- A token speaks for an identity exactly while the session issued with it runs. -/
theorem resolve_ok_iff (keeps : Keeps core history) (fresh : core.DrawsFresh)
    (notBlank : key.isEmpty = false) (identity : Identity) :
    (core.attempt (Manager.resolve key)).1 = .ok identity ↔
      ∃ session user, Outlives history session user ∧ session.token = key ∧
        identity = ⟨user.id, user.role⟩ ∧ core.now < session.expiresAt := by
  rw [Core.attempt_resolve_of_sound keeps.sound.sessions, notBlank]
  simp only [Bool.false_eq_true, if_false]
  rw [ExpiringMap.get_fst]
  have known : ∀ session user, Outlives history session user →
      session.identity = ⟨user.id, user.role⟩ := by
    intro session user outlives
    obtain ⟨login, member, issues⟩ := outlives.exists_issues
    exact (keeps.drawn login member session user issues).1
  constructor
  · intro resolved
    cases live : core.sessions.live? core.now key with
    | none =>
        rw [live] at resolved
        cases resolved
    | some entry =>
        obtain ⟨stored, running⟩ := ExpiringMap.live?_eq_some_iff.mp live
        obtain ⟨session, user, outlives, rfl, rfl⟩ :=
          (keeps.entries fresh key notBlank entry).mp stored
        rw [live, Option.map_some, Core.identityOf, Session.entry,
        Identity.decode_encode] at resolved
        have same : session.identity = identity := Except.ok.inj resolved
        exact ⟨session, user, outlives, rfl, same.symm.trans (known session user outlives),
          entry_isExpired_eq_false_iff.mp running⟩
  · rintro ⟨session, user, outlives, rfl, rfl, running⟩
    have stored := (keeps.entries fresh _ notBlank session.entry).mpr
      ⟨session, user, outlives, rfl, rfl⟩
    rw [ExpiringMap.live?_eq_some_iff.mpr ⟨stored, entry_isExpired_eq_false_iff.mpr running⟩,
      Option.map_some, Core.identityOf, Session.entry, Identity.decode_encode,
      known session user outlives]
    rfl

end Keeps

end SessionGate
