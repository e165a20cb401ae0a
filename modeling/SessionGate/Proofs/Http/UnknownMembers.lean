import SessionGate.Proofs.Http.Addresses
import SessionGate.Proofs.Json.Collecting

/-!
# Members of a body that nobody asked for

Logging in and opening an account take an email, a password and perhaps a name from an object, and
pass over whatever else it has. What else is put into the object therefore comes to nothing: the
request is answered by the same program, and no account is opened with anything else.
-/

namespace SessionGate

open Json

/-! ## How the bodies are read -/

/-- A value that goes into a draft is taken as it would be alone. -/
theorem isFaithful_put {α Draft : Type} {reader : Reader α} (faithful : IsFaithful reader)
    (put : α → Draft) :
    IsFaithful fun input => do
      let (value, rest) ← reader input
      return (put value, rest) := by
  have inverted {input rest : Octets} {draft : Draft}
      (read : (do
        let (value, rest) ← reader input
        return (put value, rest)) = Except.ok (draft, rest)) :
      ∃ value, reader input = .ok (value, rest) ∧ put value = draft := by
    cases taken : reader input with
    | error failure =>
        rw [taken] at read
        cases read
    | ok pair =>
        rw [taken] at read
        cases read
        exact ⟨pair.1, rfl, rfl⟩
  constructor
  · intro input draft rest read
    obtain ⟨value, taken, -⟩ := inverted read
    exact faithful.skips taken
  · intro input draft rest read
    obtain ⟨value, taken, rfl⟩ := inverted read
    obtain ⟨written, joined, anywhere⟩ := faithful.anywhere taken
    refine ⟨written, joined, fun more => ?_⟩
    rw [anywhere]
    rfl

theorem Credentials.isFaithful_record : record.IsFaithful := by
  refine List.forall_mem_cons.mpr ⟨fun draft => ?_, List.forall_mem_singleton.mpr fun draft => ?_⟩
  · exact isFaithful_put isFaithful_text fun value => { draft with first := some value }
  · exact isFaithful_put isFaithful_text fun value => { draft with second := some value }

theorem NewUser.isFaithful_record : record.IsFaithful := by
  refine List.forall_mem_cons.mpr ⟨fun draft => ?_, List.forall_mem_cons.mpr ⟨fun draft => ?_,
    List.forall_mem_singleton.mpr fun draft => ?_⟩⟩
  · exact isFaithful_put isFaithful_text fun value => { draft with email := value }
  · exact isFaithful_put isFaithful_text fun value => { draft with password := value }
  · exact isFaithful_put (isFaithful_optional isFaithful_text) fun value =>
      { draft with name := value }

namespace Manager

/-- A registration asks for a row of what the user presents, whatever the answer is. -/
theorem Registers.eq_of_asked {manager : Manager} {user : NewUser} {turns : List Turn}
    {result : Except AuthError UserId} {row : UserRow} {answer : Except AuthError UserId}
    (registers : manager.Registers user turns result) (asked : ⟨.insertUser row, answer⟩ ∈ turns) :
    row.email = user.email ∧ row.name = user.name ∧ row.role = .user ∧
      ∃ salt, ⟨.drawSalt, .ok salt⟩ ∈ turns ∧
        manager.hasher.record (Octets.ofText user.password) salt.toList = .ok row.password := by
  cases registers with
  | nothing empty => cases asked
  | unknown something error => simp at asked
  | taken something => simp at asked
  | free something provisions =>
      cases provisions with
      | unsalted report => simp at asked
      | unhashable salt long => simp at asked
      | inserted salt made records given =>
          simp only [List.mem_cons, Sigma.mk.injEq, reduceCtorEq, false_and, List.not_mem_nil,
            or_false, false_or, Question.insertUser.injEq] at asked
          obtain ⟨rfl, -⟩ := asked
          exact ⟨rfl, rfl, rfl, salt, by simp, made⟩

end Manager

namespace Http

variable {manager : Manager} {first second request : Request} {turns : List Turn}
  {response : Response} {row : UserRow} {answer : Except AuthError UserId}

/-- The entry points that take a body. -/
inductive Entry where
  | login
  | registration
  deriving DecidableEq, Repr

namespace Entry

/-- The path of the entry point. -/
def path : Entry → String
  | .login => "/login"
  | .registration => "/register"

/-- The members that the entry point knows. -/
def known : Entry → List String
  | .login => ["email", "password"]
  | .registration => ["email", "password", "name"]

/-- The body is read. -/
def Accepts : Entry → Request → Prop
  | .login, request => ∃ credentials, readBody Credentials.read request = .ok credentials
  | .registration, request => ∃ user, readBody NewUser.read request = .ok user

/-- The second request is the first one with members put into its body that the entry point does
not know. The length of the body may be told anew. -/
structure Inserts (entry : Entry) (first second : Request) : Prop where
  posted : first.ArePosted second entry.path
  fit : first.body.length ≤ Body.sizeLimit ∧ second.body.length ≤ Body.sizeLimit
  bodies : ∃ object members, ObjectText.IsWritten object ∧
    Member.Inserts entry.known object.members members ∧ first.body = object.bytes ∧
    second.body = { object with members }.bytes

end Entry

theorem Request.ArePosted.isJson {path : String} (posted : first.ArePosted second path) :
    Body.isJson first = Body.isJson second := by
  have other : "content-type" ≠ "content-length" := by decide
  have types : valuesOf "content-type" first.headers = valuesOf "content-type" second.headers := by
    rw [← valuesOf_filter other, posted.headers, valuesOf_filter other]
  rw [Body.isJson, Body.isJson, types]

theorem readBody_eq_ok_iff {α : Type} {reader : Reader α} {value : α} :
    readBody reader request = .ok value ↔
      Body.isJson request = true ∧ request.body.length ≤ Body.sizeLimit ∧
        readWhole reader request.body = .ok value := by
  rw [readBody, Body.read]
  cases Body.isJson request with
  | false => simp [Except.mapError]
  | true =>
      by_cases fits : request.body.length ≤ Body.sizeLimit
      · have small : ¬ Body.sizeLimit < request.body.length := by omega
        cases readWhole reader request.body <;> simp [small, fits, Except.mapError]
      · have large : Body.sizeLimit < request.body.length := by omega
        simp [large, fits, Except.mapError]

/-- Both bodies are read alike. -/
theorem readBody_iff_of_inserts {Draft Value : Type} {record : Record Draft Value} {path : String}
    (faithful : record.IsFaithful) (posted : first.ArePosted second path)
    (fit : first.body.length ≤ Body.sizeLimit ∧ second.body.length ≤ Body.sizeLimit)
    (bodies : ∃ object members, ObjectText.IsWritten object ∧
      Member.Inserts record.names object.members members ∧ first.body = object.bytes ∧
      second.body = { object with members }.bytes) {value : Value} :
    readBody record.read second = .ok value ↔ readBody record.read first = .ok value := by
  obtain ⟨object, members, isWritten, inserts, body, body'⟩ := bodies
  rw [readBody_eq_ok_iff, readBody_eq_ok_iff, posted.isJson, body, body',
    Record.readWhole_iff faithful isWritten inserts, ← body, ← body']
  simp only [fit.1, fit.2]

namespace Entry

variable {entry : Entry}

theorem Inserts.read_credentials_iff (inserts : login.Inserts first second)
    {credentials : Credentials} :
    readBody Credentials.read second = .ok credentials ↔
      readBody Credentials.read first = .ok credentials :=
  readBody_iff_of_inserts Credentials.isFaithful_record inserts.posted inserts.fit inserts.bodies

theorem Inserts.read_user_iff (inserts : registration.Inserts first second) {user : NewUser} :
    readBody NewUser.read second = .ok user ↔ readBody NewUser.read first = .ok user :=
  readBody_iff_of_inserts NewUser.isFaithful_record inserts.posted inserts.fit inserts.bodies

theorem Inserts.accepts_iff (inserts : entry.Inserts first second) :
    entry.Accepts second ↔ entry.Accepts first := by
  cases entry with
  | login => exact exists_congr fun _ => inserts.read_credentials_iff
  | registration => exact exists_congr fun _ => inserts.read_user_iff

/-- Both requests are answered by the same program. -/
theorem Inserts.answer_eq (inserts : entry.Inserts first second) (accepts : entry.Accepts first)
    (more : List Route) (manager : Manager) :
    (Router.withGated more).answer manager second =
      (Router.withGated more).answer manager first := by
  have posted := inserts.posted
  cases entry with
  | login =>
      obtain ⟨credentials, read⟩ := accepts
      have presented : presentedCredentials second = presentedCredentials first := by
        rw [presentedCredentials_of_read read,
          presentedCredentials_of_read (inserts.read_credentials_iff.mpr read)]
      rw [answer_login_eq posted.left, answer_login_eq posted.right, presented,
        posted.guardedAnswer_eq]
  | registration =>
      obtain ⟨user, read⟩ := accepts
      have presented : presentedUser second = presentedUser first := by
        rw [presentedUser_of_read read, presentedUser_of_read (inserts.read_user_iff.mpr read)]
      rw [answer_register_eq posted.left, answer_register_eq posted.right, presented,
        posted.guardedAnswer_eq]

end Entry

/-! ## What is stored -/

/-- The row is made of what the user presents, and of a salt drawn in the conversation. -/
structure IsRowOf (manager : Manager) (user : NewUser) (turns : List Turn) (row : UserRow) :
    Prop where
  email : row.email = Text.trim user.email
  name : row.name = user.name
  role : row.role = .user
  password : ∃ salt, ⟨.drawSalt, .ok salt⟩ ∈ turns ∧
    manager.hasher.record (Octets.ofText user.password) salt.toList = .ok row.password

theorem RegisterCourse.isRowOf {result : Except AuthError Response} {user : NewUser}
    (course : RegisterCourse manager request turns result)
    (read : readBody NewUser.read request = .ok user)
    (asked : ⟨.insertUser row, answer⟩ ∈ turns) : IsRowOf manager user turns row := by
  have made {gate opening rest : List Turn} {given : NewUser} {outcome : Except AuthError UserId}
      (presented : presentedUser request = .ok given)
      (registers : manager.Registers given opening outcome)
      (inOpening : ⟨.insertUser row, answer⟩ ∈ opening) :
      IsRowOf manager user (gate ++ (opening ++ rest)) row := by
    obtain ⟨_, same, rfl, -⟩ := exists_read_of_presentedUser presented
    obtain rfl := Except.ok.inj (read.symm.trans same)
    obtain ⟨email, name, role, salt, drawn, record⟩ := registers.eq_of_asked inOpening
    exact ⟨email, name, role, salt, by simp [drawn], record⟩
  cases course with
  | live asks => exact absurd asked (not_inserts_of_asks asks row _)
  | unfit asks unfit => exact absurd asked (not_inserts_of_asks asks row _)
  | @unopened gate talk _ _ given asks presented registers =>
      rcases List.mem_append.mp asked with inGate | inOpening
      · exact absurd inGate (not_inserts_of_asks asks row _)
      · exact List.append_nil talk ▸ made presented registers inOpening
  | answered asks presented registers logsIn =>
      rcases List.mem_append.mp asked with inGate | behind
      · exact absurd inGate (not_inserts_of_asks asks row _)
      · rcases List.mem_append.mp behind with inOpening | inTalk
        · exact made presented registers inOpening
        · exact absurd inTalk (logsIn.not_inserts row _)

/-! ## Unknown members -/

/-- What comes of members that the entry point does not know, put into the body of a request or
taken out of it. -/
structure Entry.Disregards (entry : Entry) (request : Request) : Prop where
  /-- A body that is an object is written member by member, so that others can be put in. -/
  written : ∀ after, skipBlanks request.body = 0x7b :: after →
    ∃ object : ObjectText, object.IsWritten ∧ request.body = object.bytes
  accepted : ∀ other, entry.Inserts request other ∨ entry.Inserts other request →
    entry.Accepts other
  /-- The same program answers: in every world it asks the stores the same, draws, logs and
  responds alike, and leaves the same behind. -/
  answer : ∀ other, entry.Inserts request other ∨ entry.Inserts other request →
    ∀ more manager, (Router.withGated more).answer manager other =
      (Router.withGated more).answer manager request
  /-- Whatever is put in, a row that is to be stored is made of what the request itself presents,
  and only to open an account. -/
  rows : ∀ other, entry.Inserts request other → ∀ more manager turns response row answer,
    ((Router.withGated more).answer manager other).Converses turns response →
      ⟨.insertUser row, answer⟩ ∈ turns →
        entry = .registration ∧ ∃ user, readBody NewUser.read request = .ok user ∧
          IsRowOf manager user turns row

/-- What is put into the body of a request that logs in or opens an account makes no difference,
as long as its members are not known: neither to the answer nor to what is stored. -/
theorem unknown_members_are_disregarded {entry : Entry} (accepts : entry.Accepts request) :
    entry.Disregards request where
  written after object := by
    cases entry with
    | login =>
        obtain ⟨credentials, read⟩ := accepts
        obtain ⟨object, isWritten, same⟩ := Record.exists_isWritten Credentials.isFaithful_record
          object (readBody_eq_ok_iff.mp read).2.2
        exact ⟨object, isWritten, same.symm⟩
    | registration =>
        obtain ⟨user, read⟩ := accepts
        obtain ⟨object, isWritten, same⟩ := Record.exists_isWritten NewUser.isFaithful_record
          object (readBody_eq_ok_iff.mp read).2.2
        exact ⟨object, isWritten, same.symm⟩
  accepted other := by
    rintro (grown | shrunk)
    · exact grown.accepts_iff.mpr accepts
    · exact shrunk.accepts_iff.mp accepts
  answer other := by
    rintro (grown | shrunk) more manager
    · exact grown.answer_eq accepts more manager
    · exact (shrunk.answer_eq (shrunk.accepts_iff.mp accepts) more manager).symm
  rows other grown more manager turns response row answer converses asked := by
    cases entry with
    | login =>
        obtain ⟨result, course, -⟩ := converses_answer_login grown.posted.right converses
        exact absurd asked (course.not_inserts row answer)
    | registration =>
        obtain ⟨user, read⟩ := accepts
        obtain ⟨result, course, -⟩ := converses_answer_register grown.posted.right converses
        exact ⟨rfl, user, read, course.isRowOf (grown.read_user_iff.mpr read) asked⟩

/-- A member with a plain name and a plain text. -/
def plainMember (name value : String) : Member :=
  ⟨[], Octets.ofText name, [], [], 0x22 :: (Octets.ofText value ++ [0x22]), []⟩

theorem plainMember_isWritten {name value : String}
    (plainName : (Octets.ofText name).all isPlainText = true)
    (plainValue : (Octets.ofText value).all isPlainText = true) :
    (plainMember name value).IsWritten where
  front := areBlanks_nil
  named := ⟨name, spells_of_plain plainName⟩
  beforeColon := areBlanks_nil
  beforeValue := areBlanks_nil
  value := .scalar (.text (spells_of_plain plainValue).isQuoted)
  back := areBlanks_nil

/-- A list that names a role, under a name with an escape. -/
def roleMember : Member :=
  ⟨[0x20], 0x5c :: 0x75 :: ([0x30, 0x30, 0x37, 0x32] ++ Octets.ofText "ole"), [0x20], [],
    0x5b :: (([] ++ (0x22 :: (Octets.ofText "moderator" ++ [0x22]) ++ [0x20])) ++ [0x5d]), []⟩

theorem roleMember_isNamed : roleMember.IsNamed "role" := by
  have letter : String.utf8EncodeChar (Char.ofNat 0x72) = [0x72] := by decide
  have known : IsUnit [0x30, 0x30, 0x37, 0x32] 0x72 := ⟨rfl, by decide⟩
  have spells := Spells.long known ⟨by simp [IsLeading], by simp [IsTrailing]⟩
    (spells_of_plain (show (Octets.ofText "ole").all isPlainText = true by decide))
  rw [letter] at spells
  exact spells

theorem roleMember_isForeign : roleMember.IsForeign Entry.registration.known where
  isWritten :=
    { front := by decide
      named := ⟨"role", roleMember_isNamed⟩
      beforeColon := by decide
      beforeValue := areBlanks_nil
      value := @IsPart.full .list _ (.last areBlanks_nil
        (.scalar (.text (spells_of_plain (by decide)).isQuoted)) (by decide))
      back := areBlanks_nil }
  unknown name named := by
    rw [Spells.unique named roleMember_isNamed]
    decide

/-- The first request, with a role put into its body. -/
def roleRequest : Request where
  __ := firstRequest
  body := Octets.ofText
    "\x7b\"email\":\"a@b.c\", \"\\u0072ole\" :[\"moderator\" ],\"password\":\"b\"\x7d"

theorem roleRequest_inserts : Entry.registration.Inserts firstRequest roleRequest where
  posted := ⟨⟨rfl, rfl⟩, ⟨rfl, rfl⟩, rfl⟩
  fit := by decide
  bodies := by
    have email : (plainMember "email" "a@b.c").IsWritten :=
      plainMember_isWritten (by decide) (by decide)
    have password : (plainMember "password" "b").IsWritten :=
      plainMember_isWritten (by decide) (by decide)
    refine ⟨⟨[], [], [plainMember "email" "a@b.c", plainMember "password" "b"], []⟩,
      [plainMember "email" "a@b.c", roleMember, plainMember "password" "b"],
      ⟨areBlanks_nil, areBlanks_nil, ?_, areBlanks_nil⟩,
      .keep _ (.insert roleMember_isForeign (.keep _ .nil)), ?_, ?_⟩
    · exact List.forall_mem_cons.mpr ⟨email, List.forall_mem_singleton.mpr password⟩
    · decide
    · decide

/-- A registration that asks for a role in vain. -/
theorem role_is_disregarded :
    Entry.registration.Accepts firstRequest ∧ Entry.registration.Inserts firstRequest roleRequest ∧
      Entry.registration.Disregards firstRequest := by
  have read : readBody NewUser.read firstRequest = .ok ⟨"a@b.c", "b", none⟩ := by cbv
  have accepts : Entry.registration.Accepts firstRequest := ⟨_, read⟩
  exact ⟨accepts, roleRequest_inserts, unknown_members_are_disregarded accepts⟩

end Http

end SessionGate
