import SessionGate.Proofs.Http.Carrier
import SessionGate.Proofs.Time.Stamp
import SessionGate.Proofs.Token

/-!
# The cookie of a session

All tokens that are drawn and all instants are written in characters that a header may hold. So the
header for a token that has been drawn can always be made, and so can the one that ends a session;
and a client that sends a token back is understood, whatever other cookies it sends.
-/

namespace SessionGate.Http.Cookie

open Time Token

/-! ## Headers -/

/-- All bytes of the text may stand in a header that is sent. -/
def IsSendableText (text : String) : Prop :=
  (Octets.ofText text).all isSendable = true

instance (text : String) : Decidable (IsSendableText text) :=
  inferInstanceAs (Decidable (_ = _))

theorem isSendableText_append_iff {first second : String} :
    IsSendableText (first ++ second) ↔ IsSendableText first ∧ IsSendableText second := by
  simp only [IsSendableText, Octets.ofText_append, List.all_append, Bool.and_eq_true]

theorem isSendableText_of_visible {text : String}
    (visible : ∀ character ∈ text.toList, Text.IsVisible character) : IsSendableText text := by
  refine List.all_eq_true.mpr fun byte member => ?_
  obtain ⟨low, high⟩ := Text.bounds_of_mem_ofText visible byte member
  have below : byte ≠ 0x7f := UInt8.ne_of_lt (UInt8.lt_of_le_of_lt high (by decide))
  simp [isSendable, low, below]

theorem not_isSendableText_iff {text : String} : ¬ IsSendableText text ↔
    ∃ byte ∈ Octets.ofText text, byte = 0x7f ∨ byte < 0x20 ∧ byte ≠ 0x09 := by
  simp only [IsSendableText, isSendable, List.all_eq_true, Bool.or_eq_true, Bool.and_eq_true,
    beq_iff_eq, bne_iff_ne, decide_eq_true_eq, not_forall, exists_prop]
  refine exists_congr fun byte => and_congr_right fun _ => ?_
  rw [not_or, not_and_or, not_not, UInt8.not_le]
  constructor
  · rintro ⟨noTab, low | rfl⟩
    · exact .inr ⟨low, noTab⟩
    · exact .inl rfl
  · rintro (rfl | ⟨low, noTab⟩)
    · exact ⟨by decide, .inr rfl⟩
    · exact ⟨noTab, .inl low⟩

/-- What a header that keeps a token until an instant says. -/
def headerText (token : String) (expires : Instant) : String :=
  name ++ "=" ++ token ++ "; Path=/; HttpOnly; Expires=" ++ expires.cookieStamp

theorem header_eq (token : String) (expires : Instant) : header token expires =
    if IsSendableText token then .ok (Octets.ofText (headerText token expires))
    else .error (.internal .cookieBytes) := by
  have stamp : IsSendableText expires.cookieStamp :=
    isSendableText_of_visible fun _ => Instant.isVisible_of_mem_cookieStamp
  have named : IsSendableText name ∧ IsSendableText "=" := by decide
  have attributes : IsSendableText "; Path=/; HttpOnly; Expires=" := by decide
  have whole : IsSendableText (headerText token expires) ↔ IsSendableText token := by
    simp only [headerText, isSendableText_append_iff, named, attributes, stamp, true_and, and_true]
  exact if_congr whole rfl rfl

theorem header_of_isSendableText {token : String} (sendable : IsSendableText token)
    (expires : Instant) :
    header token expires = .ok (Octets.ofText (headerText token expires)) := by
  rw [header_eq, if_pos sendable]

theorem clear_eq (now : Instant) : clear now = .ok (Octets.ofText (headerText "" now)) :=
  header_of_isSendableText (by decide) now

/-! ## Tokens -/

/-- The characters of a token that is drawn: letters and digits, the hyphen and the underscore. -/
def IsUrlSafe (character : Char) : Prop :=
  character.isAlphanum = true ∨ character = '-' ∨ character = '_'

instance : DecidablePred IsUrlSafe := fun _ =>
  inferInstanceAs (Decidable (_ ∨ _))

/-- The text may stand in a cookie without ending it. -/
def IsTokenText (text : String) : Prop :=
  ∀ character ∈ text.toList, Text.IsVisible character ∧ character ≠ ';'

theorem IsTokenText.visible {text : String} (isToken : IsTokenText text) :
    ∀ character ∈ text.toList, Text.IsVisible character :=
  fun character member => (isToken character member).1

variable {bytes : TokenBytes}

theorem isTokenText_ofBytes (bytes : TokenBytes) : IsTokenText (Token.ofBytes bytes) :=
  of_mem_ofBytes (by decide)

theorem utf8Size_of_isPlain {byte : UInt8} (plain : IsPlain byte) :
    (Char.ofUInt8 byte).utf8Size = 1 := by
  have codes : ∀ code < 127, (Char.ofUInt8 (UInt8.ofNat code)).utf8Size = 1 := by decide
  have below : byte.toNat < 127 := by
    rcases plain with rfl | ⟨-, high⟩
    · decide
    · exact Nat.lt_succ_of_le (UInt8.le_iff_toNat_le.mp high)
  have one := codes byte.toNat below
  rwa [UInt8.ofNat_toNat] at one

/-- A request cannot carry a token with a character of several bytes. -/
theorem narrow_of_carrier? {headers : List Header} {carrier : Carrier}
    (carried : carrier? headers = some carrier) :
    ∀ character ∈ carrier.token.toList, character.utf8Size = 1 := by
  obtain ⟨front, part, back, token, parts, -, gives, rfl⟩ := carrier?_eq_some_iff.mp carried
  have plain : ∀ byte ∈ part, IsPlain byte :=
    plain_of_mem_allParts (parts ▸ List.mem_append_right front List.mem_cons_self)
  obtain ⟨key, value, pair, -, rfl⟩ :=
    token?_eq_some_iff_exists.mp ((token?_eq_some_iff plain).mpr gives)
  intro character member
  rw [String.toList_ofList, List.mem_map] at member
  obtain ⟨byte, inValue, rfl⟩ := member
  exact utf8Size_of_isPlain (plain_of_mem_trimList pair plain byte inValue)

theorem header_ofBytes (bytes : TokenBytes) (expires : Instant) :
    header (Token.ofBytes bytes) expires =
      .ok (Octets.ofText (headerText (Token.ofBytes bytes) expires)) :=
  header_of_isSendableText (isSendableText_of_visible (isTokenText_ofBytes bytes).visible) expires

/-! ## Cookies that come back -/

/-- A cookie of ASCII characters that show and spaces, without the name of the session's cookie. -/
structure IsOtherCookie (part : Octets) : Prop where
  printable : ∀ byte ∈ part, 0x20 ≤ byte ∧ byte ≤ 0x7e
  unbroken : 0x3b ∉ part
  unnamed : ¬ IsNamed part

/-- The value of a cookie header is what has been sent, between other cookies if there are any. -/
def Presents (sent value : Octets) : Prop :=
  ∃ before left right after,
    value = [0x3b].intercalate (before ++ (left ++ sent ++ right) :: after) ∧
      (∀ byte ∈ left ++ right, isBlank byte = true) ∧ ∀ part ∈ before ++ after, IsOtherCookie part

/-- A client that presents the header that it has been sent for the session, or what stands before
the first semicolon of it, carries the token. Headers and parts that do not count may be added. -/
def ComesBackAs (session : Session) (token : String) : Prop :=
  ∃ octets, issue session = .ok octets ∧
    ∀ sent, sent = octets.takeWhile (· != 0x3b) ∨ sent = octets →
      ∀ header, IsCookieHeader header → Presents sent header.value →
        ∀ headers, Relation.ReflTransGen Extends [header] headers →
          carrier? headers = some ⟨token, none⟩

/-- The part of a cookie header that gives a token. -/
def givingOctets (token : String) : Octets :=
  Octets.ofText name ++ 0x3d :: Octets.ofText token

theorem ofText_headerText (token : String) (expires : Instant) :
    Octets.ofText (headerText token expires) = givingOctets token ++
      0x3b :: Octets.ofText (" Path=/; HttpOnly; Expires=" ++ expires.cookieStamp) := by
  have attributes : "; Path=/; HttpOnly; Expires=" = ";" ++ " Path=/; HttpOnly; Expires=" := rfl
  simp only [headerText, givingOctets, attributes, Octets.ofText_append, List.append_assoc]
  rfl

theorem isBlank_iff {byte : UInt8} : isBlank byte = true ↔ byte = 0x20 ∨ byte = 0x09 := by
  rw [isBlank, Bool.or_eq_true, beq_iff_eq, beq_iff_eq]

variable {sent value left right : Octets} {token trimmed : String}

theorem gives_padded (leftBlank : ∀ byte ∈ left, isBlank byte = true)
    (rightBlank : ∀ byte ∈ right, isBlank byte = true)
    (trim : Text.IsTrimOf isBlank (Octets.ofText trimmed) (Octets.ofText token)) :
    Gives trimmed (left ++ givingOctets token ++ right) := by
  have noBlank : ∀ byte ∈ ([] : Octets), isBlank byte = true := nofun
  have named : Text.IsTrimOf isBlank (Octets.ofText name) (Octets.ofText name) :=
    Text.isTrimOf_iff.mpr (by decide)
  have key := named.pad leftBlank noBlank
  have value := trim.pad noBlank rightBlank
  rw [List.append_nil] at key
  refine ⟨_, _, ⟨?_, ?_⟩, key, value⟩
  · simp only [givingOctets, List.append_assoc, List.cons_append, List.nil_append]
  · have noEquals : (0x3d : UInt8) ∉ Octets.ofText name := by decide
    rw [List.mem_append, not_or]
    exact ⟨fun member => absurd (leftBlank _ member) (by decide), noEquals⟩

theorem notMem_of_blank {byte : UInt8} (notBlank : isBlank byte = false)
    (blank : ∀ other ∈ left, isBlank other = true) : byte ∉ left := by
  intro member
  rw [blank byte member] at notBlank
  cases notBlank

/-- What has been sent begins with the part that gives the token. -/
theorem exists_parts_of_sent (leftBlank : ∀ byte ∈ left, isBlank byte = true)
    (rightBlank : ∀ byte ∈ right, isBlank byte = true) (unbroken : 0x3b ∉ givingOctets token)
    (isSent : sent = givingOctets token ∨
      ∃ attributes, sent = givingOctets token ++ 0x3b :: attributes) :
    ∃ blank rest, (∀ byte ∈ blank, isBlank byte = true) ∧
      parts (left ++ sent ++ right) = (left ++ givingOctets token ++ blank) :: rest := by
  have front : 0x3b ∉ left ++ givingOctets token := by
    rw [List.mem_append, not_or]
    exact ⟨notMem_of_blank (by decide) leftBlank, unbroken⟩
  rcases isSent with rfl | ⟨attributes, rfl⟩
  · have whole : 0x3b ∉ left ++ givingOctets token ++ right := by
      rw [List.mem_append, not_or]
      exact ⟨front, notMem_of_blank (by decide) rightBlank⟩
    exact ⟨right, [], rightBlank, List.splitOn_eq_singleton whole⟩
  · refine ⟨[], parts (attributes ++ right), nofun, ?_⟩
    have divided : left ++ (givingOctets token ++ 0x3b :: attributes) ++ right =
        (left ++ givingOctets token) ++ 0x3b :: (attributes ++ right) := by
      simp only [List.append_assoc, List.cons_append]
    rw [parts, divided, List.splitOn_append_cons_self, List.splitOn_eq_singleton front,
      List.append_nil]
    rfl

theorem presents_alone (sent : Octets) : Presents sent sent :=
  ⟨[], [], [], [], by simp, nofun, nofun⟩

theorem plain_of_blank (blank : ∀ byte ∈ left, isBlank byte = true) :
    ∀ byte ∈ left, IsPlain byte := by
  intro byte member
  rcases isBlank_iff.mp (blank byte member) with rfl | rfl <;> decide

theorem plain_of_presents (presents : Presents sent value) (plain : ∀ byte ∈ sent, IsPlain byte) :
    ∀ byte ∈ value, IsPlain byte := by
  obtain ⟨before, left, right, after, rfl, blank, others⟩ := presents
  rw [List.forall_mem_append] at blank others
  have otherPlain {part : Octets} (isOther : IsOtherCookie part) : ∀ byte ∈ part, IsPlain byte :=
    fun byte member => .inr (isOther.printable byte member)
  rw [Text.forall_mem_intercalate_iff (by decide)]
  simp only [List.forall_mem_append, List.forall_mem_cons]
  exact ⟨fun part member => otherPlain (others.1 part member),
    ⟨⟨plain_of_blank blank.1, plain⟩, plain_of_blank blank.2⟩,
    fun part member => otherPlain (others.2 part member)⟩

theorem parts_intercalate {before after : List Octets} (sole : ∀ part ∈ before, 0x3b ∉ part) :
    parts ([0x3b].intercalate (before ++ sent :: after)) =
      before ++ parts sent ++ after.flatMap parts := by
  have alone : ∀ part ∈ before, parts part = [part] := fun part member =>
    List.splitOn_eq_singleton (sole part member)
  have divided : parts ([0x3b].intercalate (before ++ sent :: after)) =
      (before ++ sent :: after).flatMap parts :=
    Text.splitOn_intercalate_eq_flatMap (by simp)
  rw [divided, List.flatMap_append, List.flatMap_cons, List.flatMap_congr alone,
    List.flatMap_singleton', List.append_assoc]

/-- Whoever presents the part that gives a token, or more that begins with it, carries the token
without the blanks around it. -/
theorem carrier?_of_presents {header : Header} (cookie : IsCookieHeader header)
    (presents : Presents sent header.value) (plain : ∀ byte ∈ sent, IsPlain byte)
    (unbroken : 0x3b ∉ givingOctets token)
    (isSent : sent = givingOctets token ∨
      ∃ attributes, sent = givingOctets token ++ 0x3b :: attributes)
    (trim : Text.IsTrimOf isBlank (Octets.ofText trimmed) (Octets.ofText token)) :
    carrier? [header] = some ⟨trimmed, none⟩ := by
  have allPlain := plain_of_presents presents plain
  obtain ⟨before, left, right, after, value, blank, others⟩ := presents
  rw [List.forall_mem_append] at blank others
  obtain ⟨padding, rest, paddingBlank, own⟩ :=
    exists_parts_of_sent blank.1 blank.2 unbroken isSent
  have allParts : allParts [header] =
      before ++ (left ++ givingOctets token ++ padding) :: (rest ++ after.flatMap parts) := by
    rw [allParts_cons, headerParts_of_divides cookie allPlain (Text.divides_iff.mpr rfl), value]
    change parts _ ++ [] = _
    rw [parts_intercalate fun part member => (others.1 part member).unbroken, own,
      List.append_nil, List.append_assoc, List.cons_append]
  exact carrier?_eq_some_iff.mpr ⟨before, _, _, trimmed, allParts,
    fun part member => (others.1 part member).unnamed, gives_padded blank.1 paddingBlank trim, rfl⟩

/-! ## Tokens that come back -/

theorem semicolon_notMem_givingOctets (isToken : IsTokenText token) :
    0x3b ∉ givingOctets token := by
  have fixed : (0x3b : UInt8) ∉ Octets.ofText name ++ [0x3d] := by decide
  rw [givingOctets, List.append_cons, List.mem_append, not_or,
    Text.ofText_eq_map_of_visible isToken.visible]
  refine ⟨fixed, fun member => ?_⟩
  obtain ⟨character, known, same⟩ := List.mem_map.mp member
  have semicolon : Text.IsVisible ';' := by decide
  obtain ⟨visible, notSemicolon⟩ := isToken character known
  exact notSemicolon (visible.eq_of_toUInt8_eq semicolon same)

theorem plain_ofText {text : String}
    (visible : ∀ character ∈ text.toList, Text.IsVisible character) :
    ∀ byte ∈ Octets.ofText text, IsPlain byte :=
  fun byte member => .inr (Text.bounds_of_mem_ofText visible byte member)

theorem plain_givingOctets (isToken : IsTokenText token) :
    ∀ byte ∈ givingOctets token, IsPlain byte := by
  have fixed : ∀ byte ∈ Octets.ofText name ++ [0x3d], IsPlain byte :=
    all_isPlain_iff.mp (by decide)
  rw [givingOctets, List.append_cons, List.forall_mem_append]
  exact ⟨fixed, plain_ofText isToken.visible⟩

theorem plain_headerText (isToken : IsTokenText token) (expires : Instant) :
    ∀ byte ∈ Octets.ofText (headerText token expires), IsPlain byte := by
  have fixed : ∀ byte ∈ 0x3b :: Octets.ofText " Path=/; HttpOnly; Expires=", IsPlain byte :=
    all_isPlain_iff.mp (by decide)
  have stamp : ∀ byte ∈ Octets.ofText expires.cookieStamp, IsPlain byte :=
    plain_ofText fun _ => Instant.isVisible_of_mem_cookieStamp
  rw [ofText_headerText, Octets.ofText_append, ← List.cons_append, List.forall_mem_append,
    List.forall_mem_append]
  exact ⟨plain_givingOctets isToken, fixed, stamp⟩

theorem isTrimOf_ofText (isToken : IsTokenText token)
    (trim : Text.IsTrimOf (· == ' ') trimmed.toList token.toList) :
    Text.IsTrimOf isBlank (Octets.ofText trimmed) (Octets.ofText token) := by
  have codes : ∀ code < 127, 32 ≤ code →
    isBlank (Char.ofNat code).toUInt8 = (Char.ofNat code == ' ') := by decide
  have agree : ∀ character ∈ token.toList,
      isBlank character.toUInt8 = (character == ' ') := by
    intro character member
    obtain ⟨code, high, low, rfl⟩ := (isToken.visible character member).exists_code
    exact codes code high low
  have trimmedVisible : ∀ character ∈ trimmed.toList, Text.IsVisible character :=
    fun character member => isToken.visible character (trim.mem member)
  rw [Text.ofText_eq_map_of_visible isToken.visible,
    Text.ofText_eq_map_of_visible trimmedVisible]
  exact trim.map agree

/-- A token of characters that show and spaces comes back without the spaces around it. -/
theorem comesBackAs_of_isTokenText {session : Session} (isToken : IsTokenText session.token)
    (trim : Text.IsTrimOf (· == ' ') trimmed.toList session.token.toList) :
    ComesBackAs session trimmed := by
  have sendable : IsSendableText session.token := isSendableText_of_visible isToken.visible
  have unbroken := semicolon_notMem_givingOctets isToken
  have plain := plain_headerText isToken session.expiresAt
  have text := ofText_headerText session.token session.expiresAt
  have front : (Octets.ofText (headerText session.token session.expiresAt)).takeWhile (· != 0x3b) =
      givingOctets session.token := by
    rw [text, List.takeWhile_append_of_pos (bne_of_notMem unbroken),
      List.takeWhile_cons_of_neg (by decide), List.append_nil]
  refine ⟨_, header_of_isSendableText sendable session.expiresAt, ?_⟩
  intro sent isSent header cookie presents headers extended
  have sentPlain : ∀ byte ∈ sent, IsPlain byte := by
    rcases isSent with rfl | rfl
    · exact fun byte member => plain byte (List.takeWhile_subset _ member)
    · exact plain
  have begins : sent = givingOctets session.token ∨
      ∃ attributes, sent = givingOctets session.token ++ 0x3b :: attributes :=
    isSent.imp (·.trans front) fun whole => ⟨_, whole.trans text⟩
  rw [carrier?_of_extends_all extended]
  exact carrier?_of_presents cookie presents sentPlain unbroken begins
    (isTrimOf_ofText isToken trim)

/-- A token that has been drawn has no spaces at its ends. -/
theorem isTrimOf_ofBytes (bytes : TokenBytes) :
    Text.IsTrimOf (· == ' ') (Token.ofBytes bytes).toList (Token.ofBytes bytes).toList := by
  have noSpace : ∀ character ∈ (Token.ofBytes bytes).toList, (character == ' ') = false :=
    of_mem_ofBytes (by decide)
  rw [Text.isTrimOf_iff, Text.trimList_of_forall_not noSpace]

/-- A client that sends back the token of a session carries that token. -/
theorem carrier?_ofBytes (bytes : TokenBytes) :
    carrier? [⟨"Cookie", Octets.ofText (name ++ "=" ++ Token.ofBytes bytes)⟩] =
      some ⟨Token.ofBytes bytes, none⟩ := by
  have lower : "Cookie".toLower = "cookie" := by decide +kernel
  have isToken := isTokenText_ofBytes bytes
  have giving : Octets.ofText (name ++ "=" ++ Token.ofBytes bytes) =
      givingOctets (Token.ofBytes bytes) := by
    simp only [givingOctets, Octets.ofText_append, List.append_assoc]
    rfl
  rw [giving]
  exact carrier?_of_presents lower (presents_alone _) (plain_givingOctets isToken)
    (semicolon_notMem_givingOctets isToken) (.inl rfl)
    (isTrimOf_ofText isToken (isTrimOf_ofBytes bytes))

/-- What becomes of the token of a session. -/
structure IsUnderstood (session : Session) : Prop where
  drawn : ∀ bytes, session.token = Token.ofBytes bytes →
    session.token.length = 43 ∧ (∀ character ∈ session.token.toList, IsUrlSafe character) ∧
      (∀ other, session.token = Token.ofBytes other → other = bytes) ∧
      ComesBackAs session session.token
  visible : IsTokenText session.token →
    ∃ trimmed : String, Text.IsTrimOf (· == ' ') trimmed.toList session.token.toList ∧
      ComesBackAs session trimmed
  refused : (∃ error, issue session = .error error) ↔
    ∃ byte ∈ Octets.ofText session.token, byte = 0x7f ∨ byte < 0x20 ∧ byte ≠ 0x09

/-- A token that has been drawn comes back as it is, and another one of characters that show and
spaces comes back trimmed. Only for bytes that no header may hold is there no header. -/
theorem issued_token_comes_back (session : Session) : IsUnderstood session := by
  constructor
  case drawn =>
    intro bytes token
    have isToken : IsTokenText session.token := token ▸ isTokenText_ofBytes bytes
    have trim := isTrimOf_ofBytes bytes
    rw [← token] at trim
    refine ⟨token ▸ length_ofBytes bytes, token ▸ of_mem_ofBytes (by decide), ?_,
      comesBackAs_of_isTokenText isToken trim⟩
    exact fun other same => ofBytes_injective (same.symm.trans token)
  case visible =>
    intro isToken
    have trim := Text.isTrimOf_trimList (· == ' ') session.token.toList
    rw [← String.toList_ofList (l := Text.trimList (· == ' ') session.token.toList)] at trim
    exact ⟨_, trim, comesBackAs_of_isTokenText isToken trim⟩
  case refused =>
    rw [← not_isSendableText_iff, issue, header_eq]
    split
    case isTrue sendable => simp [sendable]
    case isFalse notSendable => simp [notSendable]

end SessionGate.Http.Cookie
