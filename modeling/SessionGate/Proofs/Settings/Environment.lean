import SessionGate.Proofs.Settings.Lookup
import SessionGate.Startup

/-!
# Settings from an environment

A variable of an environment is set to bytes. Where they are no text the variable is passed over
like one that is not set, and the standard setting stands in for it. All other variables that are
set are heeded: a text that is none of a value keeps the service from starting. So what is set is
what the settings are, exactly if no variable is set to bytes that are no text.
-/

namespace SessionGate

open Time

namespace Setting

/-- The variable is set to bytes that are no text. -/
def IsGarbled (environment : String → Option Octets) (setting : Setting) : Prop :=
  ∃ octets, environment setting.name = some octets ∧ ∀ text, octets ≠ Octets.ofText text

end Setting

namespace Startup

variable {environment : String → Option Octets} {name text : String} {setting : Setting}

theorem textOf_eq_some_iff :
    textOf environment name = some text ↔ environment name = some (Octets.ofText text) := by
  rw [textOf, Option.bind_eq_some_iff]
  simp only [Octets.toText?_eq_some_iff, exists_eq_right]

theorem textOf_eq_none_iff :
    textOf environment setting.name = none ↔
      environment setting.name = none ∨ setting.IsGarbled environment := by
  rw [Option.eq_none_iff_forall_ne_some]
  simp only [ne_eq, textOf_eq_some_iff, Setting.IsGarbled]
  cases environment setting.name with
  | none => simp
  | some octets => simp

end Startup

namespace Settings

open Setting Startup

variable {environment other : String → Option Octets} {settings : Settings} {now : Instant}

theorem fromEnvironment_eq (environment : String → Option Octets) (now : Instant) :
    fromEnvironment environment now =
      (fromLookup (fun setting => textOf environment setting.name) now).1 :=
  rfl

/-- The settings are what an environment comes to. Variables that are not set leave the standard
settings as they are, and so do variables that are set to bytes that are no text. -/
structure AreGathered (environment : String → Option Octets) (settings : Settings) : Prop where
  written : ∀ (setting : Setting) (text : String),
    environment setting.name = some (Octets.ofText text) →
    setting.Denotes (Text.trim text) (setting.valueIn settings)
  otherwise : ∀ setting : Setting,
    environment setting.name = none ∨ setting.IsGarbled environment →
    setting.valueIn settings = setting.valueIn standard
  keyLength : settings.costs.keyLength = standard.costs.keyLength

/-- Every variable that is set is set to a text of what the settings are. -/
def Heed (settings : Settings) (environment : String → Option Octets) : Prop :=
  ∀ (setting : Setting) (octets : Octets), environment setting.name = some octets →
    ∃ text, octets = Octets.ofText text ∧
      setting.Denotes (Text.trim text) (setting.valueIn settings)

theorem areGathered_iff_areTold :
    AreGathered environment settings ↔
      AreTold (fun setting => textOf environment setting.name) settings := by
  constructor
  · rintro ⟨written, otherwise, keyLength⟩
    exact ⟨fun setting text told => written setting text (textOf_eq_some_iff.mp told),
      fun setting untold => otherwise setting (textOf_eq_none_iff.mp untold), keyLength⟩
  · rintro ⟨present, absent, keyLength⟩
    exact ⟨fun setting text told => present setting text (textOf_eq_some_iff.mpr told),
      fun setting untold => absent setting (textOf_eq_none_iff.mpr untold), keyLength⟩

theorem fromLookup_eq_ok_iff {lookup : Setting → Option String} :
    (fromLookup lookup now).1 = .ok settings ↔
      AreTold lookup settings ∧ settings.validate now = .ok () := by
  refine ⟨told_and_valid, fun ⟨told, valid⟩ => ?_⟩
  rw [fromLookup_of_areTold told, valid]
  rfl

theorem fromEnvironment_eq_ok_iff :
    fromEnvironment environment now = .ok settings ↔
      AreGathered environment settings ∧ settings.validate now = .ok () := by
  rw [fromEnvironment_eq, fromLookup_eq_ok_iff, areGathered_iff_areTold]

/-- Only the texts in an environment count. -/
theorem fromEnvironment_congr
    (same : ∀ (setting : Setting) (text : String),
      other setting.name = some (Octets.ofText text) ↔
        environment setting.name = some (Octets.ofText text)) :
    fromEnvironment other now = fromEnvironment environment now := by
  have written : (fun setting : Setting => textOf other setting.name) =
      fun setting => textOf environment setting.name := by
    funext setting
    refine Option.ext fun text => ?_
    rw [textOf_eq_some_iff, textOf_eq_some_iff, same]
  rw [fromEnvironment_eq, fromEnvironment_eq, written]

theorem AreGathered.heed_iff (gathered : AreGathered environment settings) :
    settings.Heed environment ↔ ∀ setting : Setting, ¬ setting.IsGarbled environment := by
  constructor
  · rintro heed setting ⟨octets, isSet, noText⟩
    obtain ⟨text, same, -⟩ := heed setting octets isSet
    exact noText text same
  · intro clean setting octets isSet
    obtain ⟨text, same⟩ : ∃ text, octets = Octets.ofText text := by
      by_contra none
      exact clean setting ⟨octets, isSet, not_exists.mp none⟩
    exact ⟨text, same, gathered.written setting text (same ▸ isSet)⟩

/-- A variable that is set to a text that does not fit keeps a service from starting. The first one
is reported. -/
theorem exists_start_eq_refused {setting : Setting} {text : String} (now : Instant)
    (isSet : environment setting.name = some (Octets.ofText text))
    (unfit : ¬ setting.IsFit text) :
    ∃ (first : Setting) (written : String) (error : ValueError),
      first.IsFirstMisset (fun setting => textOf environment setting.name) ∧
        environment first.name = some (Octets.ofText written) ∧
        Startup.start environment now = .refused (.unreadable first written error) := by
  have misset : setting.IsMisset fun setting => textOf environment setting.name :=
    ⟨text, textOf_eq_some_iff.mpr isSet, unfit⟩
  obtain ⟨first, isFirst⟩ := exists_isFirstMisset ⟨setting, misset⟩
  obtain ⟨written, present, -⟩ := isFirst.isMisset
  obtain ⟨error, failure⟩ := fromLookup_of_isFirstMisset now isFirst present
  refine ⟨first, written, error, isFirst, textOf_eq_some_iff.mp present, ?_⟩
  rw [Startup.start, fromEnvironment_eq, failure]

/-- What becomes of the variables of an environment when a service starts. -/
structure Gathers (environment : String → Option Octets) (now : Instant) : Prop where
  /-- There are settings exactly if they are what the environment comes to and are valid. -/
  succeeds : ∀ settings : Settings, fromEnvironment environment now = .ok settings ↔
    AreGathered environment settings ∧ settings.validate now = .ok ()
  /-- A text that is none of a value is an error of the start, which names the first of them. -/
  refuses : ∀ (setting : Setting) (text : String),
    environment setting.name = some (Octets.ofText text) → ¬ setting.IsFit text →
    ∃ (first : Setting) (written : String) (error : ValueError),
      first.IsFirstMisset (fun setting => textOf environment setting.name) ∧
        environment first.name = some (Octets.ofText written) ∧
        Startup.start environment now = .refused (.unreadable first written error)
  /-- Bytes that are no text make no difference. -/
  passesOver : ∀ other : String → Option Octets,
    (∀ (setting : Setting) (text : String),
      other setting.name = some (Octets.ofText text) ↔
        environment setting.name = some (Octets.ofText text)) →
    fromEnvironment other now = fromEnvironment environment now
  /-- The settings are what is set, exactly if only texts are set. -/
  heeds : ∀ settings : Settings, fromEnvironment environment now = .ok settings →
    (settings.Heed environment ↔ ∀ setting : Setting, ¬ setting.IsGarbled environment)

theorem gathers (environment : String → Option Octets) (now : Instant) :
    Gathers environment now := by
  constructor
  case succeeds => exact fun settings => fromEnvironment_eq_ok_iff
  case refuses => exact fun setting text isSet unfit => exists_start_eq_refused now isSet unfit
  case passesOver => exact fun other same => fromEnvironment_congr same
  case heeds =>
    intro settings success
    obtain ⟨gathered, -⟩ := fromEnvironment_eq_ok_iff.mp success
    exact gathered.heed_iff

/-- An environment in which the length of a session is set to a byte that is no text. -/
def garbledLength : String → Option Octets :=
  fun name => if name = Setting.sessionSeconds.name then some [0xff] else none

/-- A service starts with the standard length of a session although another one has been asked
for. -/
theorem garbled_length_is_passed_over :
    fromEnvironment garbledLength .epoch = .ok standard ∧ ¬ standard.Heed garbledLength := by
  refine ⟨by decide, fun heed => ?_⟩
  obtain ⟨text, same, -⟩ := heed .sessionSeconds [0xff] rfl
  have unread : Octets.toText? [0xff] = none := by decide
  rw [Octets.toText?_eq_some_iff.mpr same] at unread
  cases unread

end Settings

end SessionGate
