import SessionGate.Proofs.World.Faults

/-!
# What a service can come to

A service starts with empty stores that are sound. Whatever is done to it then, and whatever its
programs meet when stores fail, it keeps its accounts numbered in their order.
-/

namespace SessionGate

/-- A core that a service can come to, by acts and by programs whose questions the stores may have
failed. -/
inductive Core.IsReachable : Core → Prop where
  | start (now : Time.Instant) (salts : Nat → Salt) (tokens : Nat → TokenBytes) :
      IsReachable (World.start now salts tokens).core
  | acted {world : World} (reachable : IsReachable world.core) (act : Act) :
      IsReachable (act.perform world).2.core
  | talked {core after : Core} {α : Type} {program : Program α} {turns : List Turn} {value : α}
      (reachable : IsReachable core) (converses : program.Converses turns value)
      (follows : core.Follows turns after) : IsReachable after

/-- Both stores are sound, and the accounts are numbered in their order. -/
structure Core.IsRegular (core : Core) : Prop where
  sound : core.IsSound
  numbered : core.users.IsNumbered

theorem Core.IsRegular.follows {core after : Core} {turns : List Turn} (regular : core.IsRegular)
    (follows : core.Follows turns after) : after.IsRegular where
  sound := follows.precedes.isSound regular.sound
  numbered := (follows.hosts regular.sound).grows.isNumbered regular.numbered

/-! ## Acts and accounts -/

namespace World

theorem users_findUser (email : String) (world : World) :
    (world.findUser email).2.users = world.users := by
  rw [findUser]
  cases world.users.find? email <;> rfl

theorem users_setEntry (key : String) (value : Octets) (lifetime : Option Time.Lifetime)
    (world : World) : (world.setEntry key value lifetime).2.users = world.users := by
  rw [setEntry]
  cases world.sessions.set world.now key value lifetime <;> rfl

theorem users_putSession (token : String) (identity : Identity) (lifetime : Time.Lifetime)
    (world : World) : (world.putSession token identity lifetime).2.users = world.users := by
  cases blank : token.isEmpty with
  | true => rw [putSession_of_blank blank]
  | false =>
      exact (congrArg Core.users (core_putSession blank identity lifetime world)).trans
        (users_setEntry token identity.encode (some lifetime) world)

theorem users_getSession (token : String) (world : World) :
    (world.getSession token).2.users = world.users := by
  cases blank : token.isEmpty with
  | true => rw [getSession_of_blank blank]
  | false =>
      rw [getSession_of_notBlank blank]
      rfl

theorem users_deleteSession (token : String) (world : World) :
    (world.deleteSession token).2.users = world.users := by
  cases blank : token.isEmpty with
  | true => rw [deleteSession_of_blank blank]
  | false =>
      rw [deleteSession, blank]
      rfl

variable {world : World}

theorem grows_run {α : Type} (regular : world.core.IsRegular) (program : Program α) :
    world.users.Grows (world.run program).2.users := by
  have hosts := (Core.follows_transcript program world.core).hosts regular.sound
  have grows : world.users.Grows (world.core.run program).2.users := hosts.grows
  rwa [← core_run_snd] at grows

/-- Whatever is done, the table of accounts grows or stays. -/
theorem grows_perform (regular : world.core.IsRegular) (act : Act) :
    world.users.Grows (act.perform world).2.users := by
  have stays {table : UserTable} (same : table = world.users) : world.users.Grows table :=
    same ▸ .refl
  cases act with
  | made call =>
      cases call with
      | sweep => exact .refl
      | _ => exact grows_run regular _
  | requested router manager request => exact grows_run regular _
  | insertUser row => exact .single ⟨_, (admits_insertUser row world).becomes⟩
  | setRole id role => exact .single ⟨_, becomes_setRole id role world⟩
  | findUser email => exact stays (users_findUser email world)
  | putSession token identity lifetime =>
      exact stays (users_putSession token identity lifetime world)
  | setEntry key value lifetime => exact stays (users_setEntry key value lifetime world)
  | getSession token => exact stays (users_getSession token world)
  | deleteSession token => exact stays (users_deleteSession token world)
  | getEntry key | deleteEntry key | countEntries | setClock now => exact .refl
  | advance span =>
      simp only [Act.perform, World.advance]
      cases world.now.add? span <;> exact .refl

end World

theorem Core.IsRegular.perform {world : World} (regular : world.core.IsRegular) (act : Act) :
    (act.perform world).2.core.IsRegular where
  sound := (World.precedes_perform act world).isSound
    ⟨regular.sound.users, regular.sound.sessions⟩
  numbered := (World.grows_perform regular act).isNumbered regular.numbered

theorem Core.IsReachable.isRegular {core : Core} (reachable : core.IsReachable) :
    core.IsRegular := by
  induction reachable with
  | start now salts tokens => exact ⟨⟨rfl, rfl⟩, .empty⟩
  | acted _ act ih => exact ih.perform act
  | talked _ _ follows ih => exact ih.follows follows

end SessionGate
