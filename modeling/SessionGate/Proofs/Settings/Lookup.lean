import SessionGate.Proofs.Decimal.Numeral
import SessionGate.Proofs.Network.SocketAddress
import SessionGate.Proofs.Text.Trimming
import SessionGate.Settings

/-!
# Looking settings up

The variables are read in their order, each at most once, up to the first one that is set to no
text of its kind. What has been read of the others makes the settings.
-/

namespace SessionGate

open Decimal Network Time

namespace Setting

/-- All settings in the order in which they are read. -/
def inOrder : List Setting :=
  [.address, .sessionSeconds, .hashPasses, .hashMemory, .hashLanes, .sweepSeconds]

/-- The settings that are read before one. -/
def earlier (setting : Setting) : List Setting :=
  inOrder.takeWhile (· ≠ setting)

/-- What a setting is set to. -/
@[reducible] def Value : Setting → Type
  | .address => SocketAddress
  | .sessionSeconds => Int
  | .hashPasses | .hashMemory | .hashLanes | .sweepSeconds => Nat

/-- What the setting is in a whole of settings. -/
def valueIn (settings : Settings) : (setting : Setting) → setting.Value
  | .address => settings.address
  | .sessionSeconds => settings.sessionSeconds
  | .hashPasses => settings.costs.passes
  | .hashMemory => settings.costs.memory
  | .hashLanes => settings.costs.lanes
  | .sweepSeconds => settings.sweepSeconds

/-- The text is one of a value of the setting. -/
def Denotes : (setting : Setting) → String → setting.Value → Prop
  | .address, text, socket => socket.IsWritten text.toList
  | .sessionSeconds, text, seconds => IntegerRange.signed64.IsWritten text.toList seconds
  | .hashPasses, text, number | .hashMemory, text, number | .hashLanes, text, number =>
      IntegerRange.unsigned32.IsWritten text.toList number
  | .sweepSeconds, text, number => IntegerRange.unsigned64.IsWritten text.toList number

/-- What a variable is set to is a text of a value of the setting. Blanks at its ends do not
count. -/
def IsFit (setting : Setting) (written : String) : Prop :=
  ∃ value, setting.Denotes (Text.trim written) value

/-- How a text of the setting is read. -/
def reader : (setting : Setting) → String → Except ValueError setting.Value
  | .address => Settings.readAddress
  | .sessionSeconds => Settings.readInteger .signed64
  | .hashPasses | .hashMemory | .hashLanes => Settings.readNatural .unsigned32
  | .sweepSeconds => Settings.readNatural .unsigned64

theorem readNatural_eq_ok_iff (range : IntegerRange) (low : range.least = 0)
    (high : 0 ≤ range.greatest) {text : String} {number : Nat} :
    Settings.readNatural range text = .ok number ↔ range.IsWritten text.toList number := by
  rw [← IntegerRange.read_eq_ok_iff (Int.le_of_eq low) high, Settings.readNatural,
    Settings.readInteger]
  cases read : range.read text with
  | error error => simp [Except.mapError, Except.map]
  | ok value =>
      have notNegative : 0 ≤ value := by
        have written := (IntegerRange.read_eq_ok_iff (Int.le_of_eq low) high).mp read
        generalize text.toList = characters at written
        cases written with
        | bare numeral fits | plus numeral fits => exact Int.natCast_nonneg _
        | minus signed numeral fits => omega
      simp only [Except.mapError, Except.map, Except.ok.injEq]
      omega

theorem reader_eq_ok_iff (setting : Setting) {text : String} {value : setting.Value} :
    setting.reader text = .ok value ↔ setting.Denotes text value := by
  cases setting with
  | address =>
      simp only [reader, Settings.readAddress, Denotes]
      rw [← SocketAddress.read?_eq_some_iff]
      cases SocketAddress.read? text <;> simp
  | sessionSeconds =>
      have low : IntegerRange.signed64.least ≤ 0 := by decide
      have high : 0 ≤ IntegerRange.signed64.greatest := by decide
      simp only [reader, Settings.readInteger, Denotes]
      rw [← IntegerRange.read_eq_ok_iff low high]
      cases IntegerRange.signed64.read text <;> simp [Except.mapError]
  | hashPasses | hashMemory | hashLanes => exact readNatural_eq_ok_iff .unsigned32 rfl (by decide)
  | sweepSeconds => exact readNatural_eq_ok_iff .unsigned64 rfl (by decide)

theorem exists_denotes_standard (setting : Setting) :
    ∃ text, setting.Denotes text (setting.valueIn Settings.standard) := by
  simp only [← reader_eq_ok_iff]
  cases setting with
  | address => exact ⟨"0.0.0.0:7878", by decide⟩
  | sessionSeconds => exact ⟨"86400", by decide⟩
  | hashPasses => exact ⟨"1", by decide⟩
  | hashMemory => exact ⟨"65536", by decide⟩
  | hashLanes => exact ⟨"4", by decide⟩
  | sweepSeconds => exact ⟨"5", by decide⟩

/-- What looking a setting up comes to. -/
def lookUp (lookup : Setting → Option String) (setting : Setting) :
    Except SettingsError setting.Value :=
  match lookup setting with
  | none => .ok (setting.valueIn Settings.standard)
  | some written => (setting.reader (Text.trim written)).mapError (.unreadable setting written)

/-- The variable is set, but to nothing that fits. -/
def IsMisset (lookup : Setting → Option String) (setting : Setting) : Prop :=
  ∃ written, lookup setting = some written ∧ ¬ setting.IsFit written

/-- The setting is the first in the order whose variable is misset. -/
structure IsFirstMisset (lookup : Setting → Option String) (setting : Setting) : Prop where
  isMisset : setting.IsMisset lookup
  before : ∀ other ∈ setting.earlier, ¬ other.IsMisset lookup

section LookUp

variable {lookup : Setting → Option String} {setting : Setting}

theorem lookUp_of_denotes {written : String} {value : setting.Value}
    (present : lookup setting = some written)
    (denotes : setting.Denotes (Text.trim written) value) :
    setting.lookUp lookup = .ok value := by
  rw [lookUp, present]
  dsimp only
  rw [(reader_eq_ok_iff setting).mpr denotes]
  rfl

theorem lookUp_of_not_isFit {written : String} (present : lookup setting = some written)
    (unfit : ¬ setting.IsFit written) :
    ∃ error, setting.lookUp lookup = .error (.unreadable setting written error) := by
  rw [lookUp, present]
  dsimp only
  cases read : setting.reader (Text.trim written) with
  | error error => exact ⟨error, rfl⟩
  | ok value => exact absurd ⟨value, (reader_eq_ok_iff setting).mp read⟩ unfit

theorem lookUp_of_not_isMisset (fine : ¬ setting.IsMisset lookup) :
    ∃ value, setting.lookUp lookup = .ok value := by
  cases present : lookup setting with
  | none => exact ⟨setting.valueIn Settings.standard, by rw [lookUp, present]⟩
  | some written =>
      obtain ⟨value, denotes⟩ := not_not.mp fun unfit => fine ⟨written, present, unfit⟩
      exact ⟨value, lookUp_of_denotes present denotes⟩

theorem length_earlier_lt {other : Setting} (isEarlier : other ∈ setting.earlier) :
    other.earlier.length < setting.earlier.length := by
  revert other
  cases setting <;> decide

theorem exists_isFirstMisset (missets : ∃ setting : Setting, setting.IsMisset lookup) :
    ∃ setting : Setting, setting.IsFirstMisset lookup := by
  obtain ⟨setting, isMisset⟩ := missets
  induction size : setting.earlier.length using Nat.strongRecOn generalizing setting with
  | ind size ih =>
      subst size
      by_cases before : ∃ other ∈ setting.earlier, other.IsMisset lookup
      case pos =>
        obtain ⟨other, isEarlier, otherMisset⟩ := before
        exact ih _ (length_earlier_lt isEarlier) other otherMisset rfl
      case neg => exact ⟨setting, isMisset, fun other isEarlier otherMisset =>
        before ⟨other, isEarlier, otherMisset⟩⟩

end LookUp

end Setting

namespace Settings

open Setting

variable {lookup : Setting → Option String} {setting : Setting} {now : Instant}

/-- The settings that have the given values, all others being as in the standard settings. -/
def ofValues (values : (setting : Setting) → setting.Value) : Settings :=
  ⟨values .address, values .sessionSeconds,
    ⟨values .hashPasses, values .hashMemory, values .hashLanes, standard.costs.keyLength⟩,
    values .sweepSeconds⟩

theorem valueIn_ofValues (values : (setting : Setting) → setting.Value) (setting : Setting) :
    setting.valueIn (ofValues values) = values setting := by
  cases setting <;> rfl

/-! ## Reading one after another -/

theorem run_bind {α β : Type} (reading : Reading α) (next : α → Reading β)
    (trail : List Setting) :
    (reading >>= next).run.run trail =
      match reading.run.run trail with
      | (.ok value, trail) => (next value).run.run trail
      | (.error error, trail) => (.error error, trail) := by
  simp only [ExceptT.run_bind, StateT.run_bind]
  obtain ⟨outcome, trail⟩ := reading.run.run trail
  cases outcome <;> rfl

/-- Reading a setting's variable in the way of the setting. -/
def reading (lookup : Setting → Option String) (setting : Setting) : Reading setting.Value :=
  readSetting lookup setting.reader (setting.valueIn standard) setting

/-- Read settings in an order, each into its place among the values there are. -/
def readAll (lookup : Setting → Option String) :
    List Setting → ((setting : Setting) → setting.Value) →
      Reading ((setting : Setting) → setting.Value)
  | [], values => return values
  | setting :: rest, values => do
      let value ← reading lookup setting
      readAll lookup rest (Function.update values setting value)

theorem readVariables_eq_readAll (lookup : Setting → Option String) :
    readVariables lookup =
      readAll lookup inOrder (fun setting => setting.valueIn standard) >>= fun values =>
        return ofValues values := by
  simp only [inOrder, readAll, bind_assoc, pure_bind]
  rfl

theorem run_reading (lookup : Setting → Option String) (setting : Setting)
    (trail : List Setting) :
    (reading lookup setting).run.run trail = (setting.lookUp lookup, trail ++ [setting]) := by
  have recorded : ((modify (· ++ [setting]) : Reading Unit)).run.run trail =
      (.ok (), trail ++ [setting]) := rfl
  rw [reading, readSetting, run_bind, recorded, lookUp]
  cases lookup setting with
  | none => rfl
  | some written =>
      dsimp only
      cases setting.reader (Text.trim written) <;> rfl

section ReadAll

variable {order : List Setting} {draft values : (setting : Setting) → setting.Value}
  {trail : List Setting}

theorem run_readAll_of_ok
    (read : ∀ setting : Setting, setting.lookUp lookup = .ok (values setting)) :
    (readAll lookup order draft).run.run trail =
      (.ok fun setting => if setting ∈ order then values setting else draft setting,
        trail ++ order) := by
  induction order generalizing draft trail with
  | nil => simp [readAll]; rfl
  | cons setting rest ih =>
      rw [readAll, run_bind, run_reading, read]
      dsimp only
      rw [ih, List.append_assoc, List.singleton_append]
      congr 2
      funext other
      by_cases same : other = setting
      · subst same
        simp
      · simp [same]

/-- The first setting that cannot be read is the last one that is looked at. -/
theorem run_readAll_of_error {before after : List Setting} {error : SettingsError}
    (read : ∀ other ∈ before, ∃ value, other.lookUp lookup = .ok value)
    (unread : setting.lookUp lookup = .error error) :
    (readAll lookup (before ++ setting :: after) draft).run.run trail =
      (.error error, trail ++ before ++ [setting]) := by
  induction before generalizing draft trail with
  | nil =>
      rw [List.nil_append, readAll, run_bind, run_reading, unread, List.append_nil]
  | cons first before ih =>
      obtain ⟨value, found⟩ := read first List.mem_cons_self
      rw [List.cons_append, readAll, run_bind, run_reading, found]
      dsimp only
      rw [ih fun other member => read other (List.mem_cons_of_mem first member),
        List.append_assoc trail, List.singleton_append]

end ReadAll

theorem exists_inOrder_eq (setting : Setting) :
    ∃ later, inOrder = setting.earlier ++ setting :: later :=
  ⟨(inOrder.dropWhile (· ≠ setting)).tail, by cases setting <;> rfl⟩

theorem mem_inOrder (setting : Setting) : setting ∈ inOrder := by
  obtain ⟨later, order⟩ := exists_inOrder_eq setting
  rw [order]
  exact List.mem_append_right _ List.mem_cons_self

theorem run_readVariables_of_ok {values : (setting : Setting) → setting.Value}
    (read : ∀ setting : Setting, setting.lookUp lookup = .ok (values setting)) :
    (readVariables lookup).run.run [] = (.ok (ofValues values), inOrder) := by
  rw [readVariables_eq_readAll, run_bind, run_readAll_of_ok read]
  simp only [mem_inOrder, if_true, List.nil_append]
  rfl

theorem run_readVariables_of_error {error : SettingsError}
    (read : ∀ other ∈ setting.earlier, ∃ value, other.lookUp lookup = .ok value)
    (unread : setting.lookUp lookup = .error error) :
    (readVariables lookup).run.run [] = (.error error, setting.earlier ++ [setting]) := by
  obtain ⟨later, order⟩ := exists_inOrder_eq setting
  rw [readVariables_eq_readAll, run_bind, order, run_readAll_of_error read unread,
    List.nil_append]

/-! ## Reading and validating -/

/-- The settings are what the variables tell: each is as its variable has it, or as it is in the
standard settings if the variable is not set. -/
structure AreTold (lookup : Setting → Option String) (settings : Settings) : Prop where
  present : ∀ (setting : Setting) (written : String), lookup setting = some written →
    setting.Denotes (Text.trim written) (setting.valueIn settings)
  absent : ∀ setting : Setting, lookup setting = none →
    setting.valueIn settings = setting.valueIn standard
  keyLength : settings.costs.keyLength = standard.costs.keyLength

theorem ofValues_valueIn {settings : Settings} (told : AreTold lookup settings) :
    ofValues (fun setting => setting.valueIn settings) = settings := by
  obtain ⟨address, sessionSeconds, ⟨passes, memory, lanes, keyLength⟩, sweepSeconds⟩ := settings
  obtain rfl : keyLength = standard.costs.keyLength := told.keyLength
  rfl

theorem AreTold.lookUp_eq {settings : Settings} (told : AreTold lookup settings)
    (setting : Setting) : setting.lookUp lookup = .ok (setting.valueIn settings) := by
  cases present : lookup setting with
  | none => rw [lookUp, present, told.absent setting present]
  | some written => exact lookUp_of_denotes present (told.present setting written present)

theorem AreTold.unique {settings others : Settings} (told : AreTold lookup settings)
    (otherTold : AreTold lookup others) : settings = others := by
  have same : (fun setting : Setting => setting.valueIn settings) =
      fun setting => setting.valueIn others := by
    funext setting
    exact Except.ok.inj ((told.lookUp_eq setting).symm.trans (otherTold.lookUp_eq setting))
  rw [← ofValues_valueIn told, same, ofValues_valueIn otherTold]

theorem exists_areTold (fine : ∀ setting : Setting, ¬ setting.IsMisset lookup) :
    ∃ settings, AreTold lookup settings := by
  have told (setting : Setting) : ∃ value : setting.Value,
      (∀ written, lookup setting = some written →
        setting.Denotes (Text.trim written) value) ∧
      (lookup setting = none → value = setting.valueIn standard) := by
    cases present : lookup setting with
    | none => exact ⟨setting.valueIn standard, by simp⟩
    | some written =>
        obtain ⟨value, denotes⟩ := not_not.mp fun unfit => fine setting ⟨written, present, unfit⟩
        exact ⟨value, by simpa using denotes⟩
  choose values present absent using told
  refine ⟨ofValues values, fun setting written isPresent => ?_, fun setting isAbsent => ?_, rfl⟩
  · rw [valueIn_ofValues]
    exact present setting written isPresent
  · rw [valueIn_ofValues]
    exact absent setting isAbsent

/-- Settings that the variables tell are what reading comes to, if they are valid. -/
theorem fromLookup_of_areTold {settings : Settings} (told : AreTold lookup settings) :
    fromLookup lookup now = ((settings.validate now).map fun _ => settings, inOrder) := by
  rw [fromLookup, run_bind, run_readVariables_of_ok told.lookUp_eq, ofValues_valueIn told]
  dsimp only
  cases settings.validate now <;> rfl

theorem fromLookup_of_isFirstMisset (now : Instant) (first : setting.IsFirstMisset lookup)
    {written : String} (present : lookup setting = some written) :
    ∃ error, fromLookup lookup now =
      (.error (.unreadable setting written error), setting.earlier ++ [setting]) := by
  obtain ⟨written', present', unfit⟩ := first.isMisset
  obtain rfl : written' = written := Option.some.inj (present'.symm.trans present)
  obtain ⟨error, unread⟩ := lookUp_of_not_isFit present unfit
  have read (other : Setting) (member : other ∈ setting.earlier) :=
    lookUp_of_not_isMisset (first.before other member)
  refine ⟨error, ?_⟩
  rw [fromLookup, run_bind, run_readVariables_of_error read unread]

/-- Only what the variables tell is ever the outcome, and only if it is valid. -/
theorem told_and_valid {settings : Settings} (success : (fromLookup lookup now).1 = .ok settings) :
    AreTold lookup settings ∧ settings.validate now = .ok () := by
  by_cases missets : ∃ setting : Setting, setting.IsMisset lookup
  case pos =>
    obtain ⟨setting, first⟩ := exists_isFirstMisset missets
    obtain ⟨written, present, -⟩ := first.isMisset
    obtain ⟨error, failure⟩ := fromLookup_of_isFirstMisset now first present
    rw [failure] at success
    cases success
  case neg =>
    obtain ⟨settings', told⟩ := exists_areTold (not_exists.mp missets)
    rw [fromLookup_of_areTold told] at success
    cases valid : settings'.validate now with
    | error error =>
        rw [valid] at success
        cases success
    | ok =>
        rw [valid] at success
        cases success
        exact ⟨told, valid⟩

/-! ## Padding and printing -/

/-- The second is the first with blank texts put at its ends, if there is a text. -/
inductive Pads : Option String → Option String → Prop
  | unset : Pads none none
  | set {left right : String} (leftBlank : Text.IsBlankText left)
      (rightBlank : Text.IsBlankText right) (written : String) :
      Pads (some written) (some (left ++ written ++ right))

theorem AreTold.pad {settings : Settings} (told : AreTold lookup settings)
    {padded : Setting → Option String} (pads : ∀ setting, Pads (lookup setting) (padded setting)) :
    AreTold padded settings := by
  refine ⟨fun setting => ?_, fun setting => ?_, told.keyLength⟩
  · have present := told.present setting
    have pad := pads setting
    generalize lookup setting = before at present pad
    generalize padded setting = after at pad
    cases pad with
    | unset => simp
    | set leftBlank rightBlank written =>
        rintro _ ⟨⟩
        rw [Text.trim_pad leftBlank rightBlank]
        exact present written rfl
  · have absent := told.absent setting
    have pad := pads setting
    generalize lookup setting = before at absent pad
    generalize padded setting = after at pad
    cases pad with
    | unset => exact absent
    | set => simp

/-- Variables set to what the settings are, written in decimal, and an address as it is given. -/
def printed (settings : Settings) (address : Option String) : Setting → Option String
  | .address => address
  | .sessionSeconds => some (Decimal.text settings.sessionSeconds)
  | .hashPasses => some (Decimal.text settings.costs.passes)
  | .hashMemory => some (Decimal.text settings.costs.memory)
  | .hashLanes => some (Decimal.text settings.costs.lanes)
  | .sweepSeconds => some (Decimal.text settings.sweepSeconds)

theorem trim_text (value : Int) : Text.trim (Decimal.text value) = Decimal.text value := by
  have digits : ∀ digit < 10, Text.isBlank (digitChar digit) = false := by decide
  refine Text.trim_of_forall_not fun character member => ?_
  rw [Decimal.text, String.toList_ofList] at member
  cases blank : Text.isBlank character with
  | false => rfl
  | true =>
      refine absurd member (not_mem_ofInt (fun digit small same => ?_) (fun same => ?_) value)
      · simp [same, digits digit small] at blank
      · exact absurd (same ▸ blank) (by decide)

theorem isWritten_trim_text {range : IntegerRange} (low : range.least ≤ 0)
    (high : 0 ≤ range.greatest) {characters : List Char} {value : Int}
    (written : range.IsWritten characters value) :
    range.IsWritten (Text.trim (Decimal.text value)).toList value := by
  rw [trim_text]
  exact written.text low high

/-- Every default has a text, and so has every value that has been told. -/
theorem AreTold.exists_denotes {settings : Settings} (told : AreTold lookup settings)
    (setting : Setting) : ∃ text, setting.Denotes text (setting.valueIn settings) := by
  cases present : lookup setting with
  | some written => exact ⟨_, told.present setting written present⟩
  | none =>
      rw [told.absent setting present]
      exact exists_denotes_standard setting

theorem AreTold.print {settings : Settings} (told : AreTold lookup settings) :
    AreTold (settings.printed (lookup .address)) settings := by
  refine ⟨fun setting written present => ?_, fun setting absent => ?_, told.keyLength⟩
  · obtain ⟨text, denotes⟩ := told.exists_denotes setting
    cases setting with
    | address => exact told.present .address written present
    | sessionSeconds | hashPasses | hashMemory | hashLanes | sweepSeconds =>
        cases Option.some.inj present
        exact isWritten_trim_text (by decide) (by decide) denotes
  · cases setting with
    | address => exact told.absent .address absent
    | sessionSeconds | hashPasses | hashMemory | hashLanes | sweepSeconds => cases absent

/-- Looking the variables up reads them in their order, each once, up to the first that is misset,
and comes to what they tell if that is valid. -/
structure LooksUp (lookup : Setting → Option String) (now : Instant) : Prop where
  order : inOrder.map Setting.name =
    ["CATALOG_HTTP_ADDR", "CATALOG_SESSION_TTL_SECS", "CATALOG_HASH_TIME_COST",
      "CATALOG_HASH_MEMORY_KIB", "CATALOG_HASH_PARALLELISM", "CATALOG_SWEEP_INTERVAL_SECS"]
  /-- The first variable that is misset is the last one read and is named with what it is set to. -/
  stops : ∀ (setting : Setting) (written : String), setting.IsFirstMisset lookup →
    lookup setting = some written →
    ∃ error : ValueError,
      fromLookup lookup now =
        (.error (.unreadable setting written error), setting.earlier ++ [setting]) ∧
      (SettingsError.unreadable setting written error).message =
        setting.name ++ "=" ++ Text.quote written ++ ": " ++ error.message
  /-- If none is misset, all are read, and they tell settings, which are the outcome if valid. -/
  finishes : (∀ setting : Setting, ¬ setting.IsMisset lookup) →
    ∃! settings, AreTold lookup settings ∧
      fromLookup lookup now = ((settings.validate now).map fun _ => settings, inOrder)
  stopsOrFinishes : (∃ setting : Setting, setting.IsFirstMisset lookup) ∨
    ∀ setting : Setting, ¬ setting.IsMisset lookup
  /-- Blanks around the values change nothing. -/
  padded : ∀ (settings : Settings) (padded : Setting → Option String),
    (fromLookup lookup now).1 = .ok settings →
    (∀ setting, Pads (lookup setting) (padded setting)) →
    fromLookup padded now = (.ok settings, inOrder)
  /-- Settings that have been looked up are looked up again from what is written for them. -/
  printed : ∀ settings : Settings, (fromLookup lookup now).1 = .ok settings →
    fromLookup (settings.printed (lookup .address)) now = (.ok settings, inOrder)

theorem looksUp (lookup : Setting → Option String) (now : Instant) : LooksUp lookup now := by
  have again {settings : Settings} {lookup : Setting → Option String}
      (told : AreTold lookup settings) (valid : settings.validate now = .ok ()) :
      fromLookup lookup now = (.ok settings, inOrder) := by
    rw [fromLookup_of_areTold told, valid]
    rfl
  constructor
  case order => rfl
  case stops =>
    intro setting written first present
    obtain ⟨error, stopped⟩ := fromLookup_of_isFirstMisset now first present
    exact ⟨error, stopped, rfl⟩
  case finishes =>
    intro fine
    obtain ⟨settings, told⟩ := exists_areTold fine
    exact ⟨settings, ⟨told, fromLookup_of_areTold told⟩, fun _ ⟨told', _⟩ => told'.unique told⟩
  case stopsOrFinishes =>
    by_cases missets : ∃ setting : Setting, setting.IsMisset lookup
    case pos => exact .inl (exists_isFirstMisset missets)
    case neg => exact .inr (not_exists.mp missets)
  case padded =>
    intro settings padded success pads
    obtain ⟨told, valid⟩ := told_and_valid success
    exact again (told.pad pads) valid
  case printed =>
    intro settings success
    obtain ⟨told, valid⟩ := told_and_valid success
    exact again told.print valid

end Settings

end SessionGate
