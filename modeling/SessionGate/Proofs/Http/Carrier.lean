import Mathlib.Logic.Relation
import SessionGate.Http.Cookie
import SessionGate.Proofs.Text.Dividing
import SessionGate.Proofs.Text.Trimming
import SessionGate.Proofs.Text.Visible

/-!
# What a request carries

The cookie headers of a request are divided into parts, and the first part with the name of the
session's cookie gives the token. Headers and parts without that name make no difference wherever
they stand, and neither does anything that comes after that first part.
-/

namespace SessionGate.Http.Cookie

/-! ## Parts -/

/-- Spaces and tabs are blank. -/
def isBlank (byte : UInt8) : Bool :=
  byte == 0x20 || byte == 0x09

/-- The part is divided at its first equals sign. -/
structure IsPair (key value part : Octets) : Prop where
  joined : part = key ++ 0x3d :: value
  first : 0x3d ∉ key

/-- The part has the name of the session's cookie before its first equals sign. -/
def IsNamed (part : Octets) : Prop :=
  ∃ key value, IsPair key value part ∧ Text.IsTrimOf isBlank (Octets.ofText name) key

/-- The part has the name of the session's cookie before its first equals sign, and the token behind
it. -/
def Gives (token : String) (part : Octets) : Prop :=
  ∃ key value, IsPair key value part ∧ Text.IsTrimOf isBlank (Octets.ofText name) key ∧
    Text.IsTrimOf isBlank (Octets.ofText token) value

/-- A tab, or an ASCII character that shows, or the space. -/
def IsPlain (byte : UInt8) : Prop :=
  byte = 0x09 ∨ 0x20 ≤ byte ∧ byte ≤ 0x7e

instance : DecidablePred IsPlain := fun _ =>
  inferInstanceAs (Decidable (_ ∨ _))

variable {key value part : Octets} {token : String}

theorem isPlain_iff {byte : UInt8} : isPlain byte = true ↔ IsPlain byte := by
  simp [isPlain, IsPlain]

theorem all_isPlain_iff : value.all isPlain = true ↔ ∀ byte ∈ value, IsPlain byte := by
  simp only [List.all_eq_true, isPlain_iff]

theorem ofText_ofList_of_plain (plain : ∀ byte ∈ value, IsPlain byte) :
    Octets.ofText (String.ofList (value.map Char.ofUInt8)) = value := by
  refine Text.ofText_ofList_map_ofUInt8 fun byte member => ?_
  rcases plain byte member with rfl | ⟨-, high⟩
  · decide
  · exact UInt8.lt_of_le_of_lt high (by decide)

theorem bne_of_notMem {byte : UInt8} (absent : byte ∉ value) :
    ∀ other ∈ value, (other != byte) = true :=
  fun _ member => bne_iff_ne.mpr (ne_of_mem_of_not_mem member absent)

theorem pair?_of_isPair (pair : IsPair key value part) :
    pair? part = some (Text.trimList isBlank key, Text.trimList isBlank value) := by
  obtain ⟨rfl, first⟩ := pair
  have passed := bne_of_notMem first
  rw [pair?, List.dropWhile_append_of_pos passed, List.takeWhile_append_of_pos passed,
    List.dropWhile_cons_of_neg (by decide), List.takeWhile_cons_of_neg (by decide),
    List.append_nil]
  rfl

theorem exists_isPair_of_mem (equals : 0x3d ∈ part) : ∃ key value, IsPair key value part := by
  obtain ⟨key, value, joined, first⟩ := List.eq_append_cons_of_mem equals
  exact ⟨key, value, joined, first⟩

theorem pair?_eq_none (noEquals : 0x3d ∉ part) : pair? part = none := by
  rw [pair?, List.dropWhile_eq_nil_iff.mpr (bne_of_notMem noEquals)]

theorem token?_eq_some_iff_exists : token? part = some token ↔
    ∃ key value, IsPair key value part ∧ Text.IsTrimOf isBlank (Octets.ofText name) key ∧
      String.ofList ((Text.trimList isBlank value).map Char.ofUInt8) = token := by
  constructor
  · intro gives
    by_cases equals : 0x3d ∈ part
    case neg => simp [token?, pair?_eq_none equals] at gives
    case pos =>
      obtain ⟨key, value, pair⟩ := exists_isPair_of_mem equals
      simp only [token?, pair?_of_isPair pair, Option.ite_none_right_eq_some] at gives
      exact ⟨key, value, pair, Text.isTrimOf_iff.mpr gives.1.symm, Option.some.inj gives.2⟩
  · rintro ⟨key, value, pair, named, rfl⟩
    simp only [token?, pair?_of_isPair pair, Text.isTrimOf_iff.mp named, if_true]

theorem token?_eq_none_iff : token? part = none ↔ ¬ IsNamed part := by
  rw [Option.eq_none_iff_forall_ne_some]
  simp only [ne_eq, token?_eq_some_iff_exists]
  constructor
  · rintro nothing ⟨key, value, pair, named⟩
    exact nothing _ ⟨key, value, pair, named, rfl⟩
  · rintro notNamed _ ⟨key, value, pair, named, -⟩
    exact notNamed ⟨key, value, pair, named⟩

theorem plain_of_mem_trimList (pair : IsPair key value part)
    (plain : ∀ byte ∈ part, IsPlain byte) :
    ∀ byte ∈ Text.trimList isBlank value, IsPlain byte := by
  intro byte member
  have inValue : byte ∈ value := (Text.isTrimOf_trimList isBlank value).mem member
  exact plain byte (pair.joined ▸ List.mem_append_right key (List.mem_cons_of_mem _ inValue))

theorem token?_eq_some_iff (plain : ∀ byte ∈ part, IsPlain byte) :
    token? part = some token ↔ Gives token part := by
  rw [token?_eq_some_iff_exists, Gives]
  refine exists₂_congr fun key value => and_congr_right fun pair => and_congr_right fun _ => ?_
  have written := ofText_ofList_of_plain (plain_of_mem_trimList pair plain)
  rw [Text.isTrimOf_iff]
  constructor
  · rintro rfl
    exact written
  · intro same
    exact Octets.ofText_injective (written.trans same.symm)

/-! ## Headers -/

/-- The header is a cookie header, however its name is written. -/
def IsCookieHeader (header : Header) : Prop :=
  header.name.toLower = "cookie"

instance (header : Header) : Decidable (IsCookieHeader header) :=
  inferInstanceAs (Decidable (_ = _))

/-- These are the parts of the cookie headers, in order. A cookie header with a byte that is not
plain has none. -/
inductive AreParts : List Header → List Octets → Prop
  | nil : AreParts [] []
  | other {header headers parts} (differs : ¬ IsCookieHeader header)
      (later : AreParts headers parts) : AreParts (header :: headers) parts
  | dropped {header headers parts} (byte : UInt8) (member : byte ∈ header.value)
      (notPlain : ¬ IsPlain byte) (later : AreParts headers parts) :
      AreParts (header :: headers) parts
  | divided {header headers own parts} (cookie : IsCookieHeader header)
      (plain : ∀ byte ∈ header.value, IsPlain byte) (divides : Text.Divides 0x3b own header.value)
      (later : AreParts headers parts) : AreParts (header :: headers) (own ++ parts)

/-- The parts of a header, if it is a cookie header of plain bytes. -/
def headerParts (header : Header) : List Octets :=
  if IsCookieHeader header ∧ header.value.all isPlain then parts header.value else []

theorem allParts_cons (header : Header) (headers : List Header) :
    allParts (header :: headers) = headerParts header ++ allParts headers := by
  simp only [allParts, valuesOf, headerParts, IsCookieHeader, List.filter_cons, beq_iff_eq]
  by_cases cookie : header.name.toLower = "cookie" <;>
    by_cases plain : header.value.all isPlain = true <;> simp [cookie, plain]

theorem allParts_append (front back : List Header) :
    allParts (front ++ back) = allParts front ++ allParts back := by
  induction front with
  | nil => rfl
  | cons header front ih =>
      rw [List.cons_append, allParts_cons, allParts_cons, ih, List.append_assoc]

theorem allParts_middle (front : List Header) (header : Header) (back : List Header) :
    allParts (front ++ header :: back) = allParts front ++ headerParts header ++ allParts back := by
  rw [allParts_append, allParts_cons, List.append_assoc]

variable {header : Header} {headers more : List Header}

theorem headerParts_of_divides {own : List Octets} (cookie : IsCookieHeader header)
    (plain : ∀ byte ∈ header.value, IsPlain byte) (divides : Text.Divides 0x3b own header.value) :
    headerParts header = own := by
  rw [headerParts, if_pos ⟨cookie, all_isPlain_iff.mpr plain⟩, parts, Text.divides_iff.mp divides]

theorem headerParts_of_not_cookie (differs : ¬ IsCookieHeader header) : headerParts header = [] :=
  if_neg fun counted => differs counted.1

theorem headerParts_of_not_plain {byte : UInt8} (member : byte ∈ header.value)
    (notPlain : ¬ IsPlain byte) : headerParts header = [] :=
  if_neg fun counted => notPlain (all_isPlain_iff.mp counted.2 byte member)

theorem areParts_iff {parts : List Octets} : AreParts headers parts ↔ parts = allParts headers := by
  constructor
  · intro areParts
    induction areParts with
    | nil => rfl
    | other differs _ ih =>
        rw [allParts_cons, headerParts_of_not_cookie differs, ih, List.nil_append]
    | dropped byte member notPlain _ ih =>
        rw [allParts_cons, headerParts_of_not_plain member notPlain, ih, List.nil_append]
    | divided cookie plain divides _ ih =>
        rw [allParts_cons, headerParts_of_divides cookie plain divides, ih]
  · rintro rfl
    induction headers with
    | nil => exact .nil
    | cons header headers ih =>
        rw [allParts_cons]
        by_cases cookie : IsCookieHeader header
        case neg =>
          rw [headerParts_of_not_cookie cookie, List.nil_append]
          exact .other cookie ih
        case pos =>
          by_cases plain : ∀ byte ∈ header.value, IsPlain byte
          case neg =>
            simp only [not_forall] at plain
            obtain ⟨byte, member, notPlain⟩ := plain
            rw [headerParts_of_not_plain member notPlain, List.nil_append]
            exact .dropped byte member notPlain ih
          case pos =>
            have divides : Text.Divides 0x3b (parts header.value) header.value :=
              Text.divides_iff.mpr rfl
            rw [headerParts_of_divides cookie plain divides]
            exact .divided cookie plain divides ih

theorem plain_of_mem_allParts (member : part ∈ allParts headers) : ∀ byte ∈ part, IsPlain byte := by
  simp only [allParts, List.mem_flatMap, List.mem_filter] at member
  obtain ⟨value, ⟨-, plain⟩, inValue⟩ := member
  have divides : Text.Divides 0x3b (parts value) value := Text.divides_iff.mpr rfl
  rw [all_isPlain_iff, ← divides.joined, Text.forall_mem_intercalate_iff (by decide)] at plain
  exact plain part inValue

/-! ## The first part that gives a token -/

theorem carrier?_eq_some_iff {carrier : Carrier} :
    carrier? headers = some carrier ↔ ∃ front part back token,
      allParts headers = front ++ part :: back ∧ (∀ earlier ∈ front, ¬ IsNamed earlier) ∧
        Gives token part ∧ carrier = ⟨token, none⟩ := by
  rw [carrier?, Option.map_eq_some_iff]
  constructor
  · rintro ⟨token, found, rfl⟩
    obtain ⟨front, part, back, divided, given, earlier⟩ := List.findSome?_eq_some_iff.mp found
    have member : part ∈ allParts headers :=
      divided ▸ List.mem_append_right front List.mem_cons_self
    exact ⟨front, part, back, token, divided, fun other inFront =>
      token?_eq_none_iff.mp (earlier other inFront),
      (token?_eq_some_iff (plain_of_mem_allParts member)).mp given, rfl⟩
  · rintro ⟨front, part, back, token, divided, earlier, gives, rfl⟩
    have member : part ∈ allParts headers :=
      divided ▸ List.mem_append_right front List.mem_cons_self
    refine ⟨token, List.findSome?_eq_some_iff.mpr ⟨front, part, back, divided, ?_, ?_⟩, rfl⟩
    · exact (token?_eq_some_iff (plain_of_mem_allParts member)).mpr gives
    · exact fun other inFront => token?_eq_none_iff.mpr (earlier other inFront)

theorem isSome_token?_iff : (token? part).isSome = true ↔ IsNamed part := by
  rw [← Option.ne_none_iff_isSome, ne_eq, token?_eq_none_iff, not_not]

theorem isSome_carrier?_iff :
    (carrier? headers).isSome = true ↔ ∃ part ∈ allParts headers, IsNamed part := by
  simp only [carrier?, Option.isSome_map, List.isSome_findSome?, List.any_eq_true,
    isSome_token?_iff]

/-- Parts that are put in make no difference if none of them has the name, or one before them has
it. -/
theorem carrier?_of_inserted {before inserted after : List Octets}
    (parts : allParts headers = before ++ after)
    (moreParts : allParts more = before ++ inserted ++ after)
    (nothing : (∀ part ∈ inserted, ¬ IsNamed part) ∨ ∃ part ∈ before, IsNamed part) :
    carrier? more = carrier? headers := by
  rw [carrier?, carrier?, parts, moreParts]
  simp only [List.findSome?_append]
  rcases nothing with unnamed | ⟨part, member, named⟩
  · have none : inserted.findSome? token? = none :=
      List.findSome?_eq_none_iff.mpr fun part member => token?_eq_none_iff.mpr (unnamed part member)
    rw [none, Option.or_none]
  · have found : (before.findSome? token?).isSome = true :=
      List.findSome?_isSome_iff.mpr ⟨part, member, isSome_token?_iff.mpr named⟩
    obtain ⟨token, first⟩ := Option.isSome_iff_exists.mp found
    simp only [first, Option.some_or]

/-! ## What makes no difference -/

/-- A header that gives no token: it is no cookie header, or it is passed over, or none of its parts
has the name. -/
inductive IsSilent (header : Header) : Prop
  | other (differs : ¬ IsCookieHeader header)
  | dropped (byte : UInt8) (member : byte ∈ header.value) (notPlain : ¬ IsPlain byte)
  | unnamed (parts : List Octets) (divides : Text.Divides 0x3b parts header.value)
      (unnamed : ∀ part ∈ parts, ¬ IsNamed part)

/-- The headers have a part that gives a token. -/
def AreSettled (headers : List Header) : Prop :=
  ∃ parts, AreParts headers parts ∧ ∃ part ∈ parts, IsNamed part

/-- The other headers say the same, and one thing more that does not count. It is a header or a part
of plain bytes, and gives no token or comes behind a part that gives one. -/
inductive Extends : List Header → List Header → Prop
  | header {front back : List Header} {header : Header}
      (idle : IsSilent header ∨ AreSettled front) :
      Extends (front ++ back) (front ++ header :: back)
  | part {front back : List Header} {name : String} {value longer part : Octets}
      {left right : List Octets} (before : Text.Divides 0x3b (left ++ right) value)
      (after : Text.Divides 0x3b (left ++ part :: right) longer)
      (plain : ∀ byte ∈ part, IsPlain byte)
      (idle : ¬ IsNamed part ∨ AreSettled front ∨ ∃ earlier ∈ left, IsNamed earlier) :
      Extends (front ++ ⟨name, value⟩ :: back) (front ++ ⟨name, longer⟩ :: back)

theorem IsSilent.not_isNamed (silent : IsSilent header) (member : part ∈ headerParts header) :
    ¬ IsNamed part := by
  rw [headerParts] at member
  split at member
  case isFalse => cases member
  case isTrue counted =>
    cases silent with
    | other differs => exact absurd counted.1 differs
    | dropped byte inValue notPlain =>
        exact absurd (all_isPlain_iff.mp counted.2 byte inValue) notPlain
    | unnamed own divides unnamed => exact unnamed part (Text.divides_iff.mp divides ▸ member)

theorem areSettled_iff : AreSettled headers ↔ ∃ part ∈ allParts headers, IsNamed part := by
  simp only [AreSettled, areParts_iff, exists_eq_left]

/-- A part of plain bytes that is put into a header makes it neither a cookie header nor one that is
passed over. -/
theorem headerParts_insert {name : String} {longer : Octets} {left right : List Octets}
    (before : Text.Divides 0x3b (left ++ right) value)
    (after : Text.Divides 0x3b (left ++ part :: right) longer)
    (plain : ∀ byte ∈ part, IsPlain byte) :
    (headerParts ⟨name, value⟩ = left ++ right ∧
      headerParts ⟨name, longer⟩ = left ++ [part] ++ right) ∨
    headerParts ⟨name, value⟩ = [] ∧ headerParts ⟨name, longer⟩ = [] := by
  have samePlain : (∀ byte ∈ longer, IsPlain byte) ↔ ∀ byte ∈ value, IsPlain byte := by
    have semicolon : IsPlain 0x3b := by decide
    rw [← after.joined, ← before.joined, Text.forall_mem_intercalate_iff semicolon,
      Text.forall_mem_intercalate_iff semicolon]
    simp only [List.forall_mem_append, List.forall_mem_cons]
    exact and_congr_right fun _ => and_iff_right plain
  by_cases counted : IsCookieHeader ⟨name, value⟩ ∧ ∀ byte ∈ value, IsPlain byte
  case pos =>
    refine .inl ⟨headerParts_of_divides counted.1 counted.2 before, ?_⟩
    rw [List.append_assoc]
    exact headerParts_of_divides counted.1 (samePlain.mpr counted.2) after
  case neg =>
    refine .inr ⟨if_neg ?_, if_neg ?_⟩
    · rwa [all_isPlain_iff]
    · rwa [all_isPlain_iff, samePlain]

theorem carrier?_of_extends (step : Extends headers more) : carrier? more = carrier? headers := by
  cases step with
  | @header front back header idle =>
      refine carrier?_of_inserted (allParts_append front back)
        (allParts_middle front header back) ?_
      exact idle.imp (fun silent part => silent.not_isNamed) areSettled_iff.mp
  | @part front back name value longer part left right before after plain idle =>
      rcases headerParts_insert before after plain with ⟨own, longerOwn⟩ | ⟨own, longerOwn⟩
      case inr =>
        rw [carrier?, carrier?, allParts_middle, allParts_middle, own, longerOwn]
      case inl =>
        have fewer : allParts (front ++ ⟨name, value⟩ :: back) =
            (allParts front ++ left) ++ (right ++ allParts back) := by
          simp only [allParts_middle, own, List.append_assoc]
        have longerParts : allParts (front ++ ⟨name, longer⟩ :: back) =
            (allParts front ++ left) ++ [part] ++ (right ++ allParts back) := by
          simp only [allParts_middle, longerOwn, List.append_assoc]
        refine carrier?_of_inserted fewer longerParts ?_
        rcases idle with unnamed | settled | ⟨earlier, inLeft, named⟩
        · exact .inl fun other member => List.mem_singleton.mp member ▸ unnamed
        · obtain ⟨earlier, inFront, named⟩ := areSettled_iff.mp settled
          exact .inr ⟨earlier, List.mem_append_left left inFront, named⟩
        · exact .inr ⟨earlier, List.mem_append_right _ inLeft, named⟩

theorem carrier?_of_extends_all (steps : Relation.ReflTransGen Extends headers more) :
    carrier? more = carrier? headers := by
  induction steps with
  | refl => rfl
  | tail _ step ih => exact (carrier?_of_extends step).trans ih

/-- What the request carries is told by the parts of its cookie headers. -/
structure IsToldBy (headers : List Header) (parts : List Octets) : Prop where
  areParts : AreParts headers parts
  unique : ∀ others, AreParts headers others → others = parts
  carries : (carrier? headers).isSome = true ↔ ∃ part ∈ parts, IsNamed part
  /-- The first part with the name gives the token. -/
  first : ∀ carrier, carrier? headers = some carrier ↔ ∃ front part back token,
    parts = front ++ part :: back ∧ (∀ earlier ∈ front, ¬ IsNamed earlier) ∧ Gives token part ∧
      carrier = ⟨token, none⟩
  extended : ∀ more, Relation.ReflTransGen Extends headers more → carrier? more = carrier? headers

/-- The first part with the name of the session's cookie settles what is carried, and nothing else
does. -/
theorem carrier?_told_by_parts (headers : List Header) : ∃ parts, IsToldBy headers parts := by
  refine ⟨allParts headers, ?_⟩
  constructor
  case areParts => exact areParts_iff.mpr rfl
  case unique => exact fun others areParts => areParts_iff.mp areParts
  case carries => exact isSome_carrier?_iff
  case first => exact fun carrier => carrier?_eq_some_iff
  case extended => exact fun more => carrier?_of_extends_all

end SessionGate.Http.Cookie
