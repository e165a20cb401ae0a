import SessionGate.Proofs.Email
import SessionGate.Proofs.Http.Strangers
import SessionGate.Proofs.Text.Trimming

/-!
# Emails that are presented

An email is trimmed before anything else is done with it, and then it must be an address. So blanks
around an email make no difference to what is posted to log in or to open an account.
-/

namespace SessionGate

namespace Email

/-- What it means for an email to be an address, character by character. -/
structure IsTextOf (email : String) (address : Address) : Prop where
  split : email.toList = address.localPart.characters ++ '@' :: address.domain.characters
  oneAt : email.toList.count '@' = 1
  localPart : HasLoneDots address.localPart.characters
  domain : HasLoneDots address.domain.characters
  noBlank : ∀ character ∈ email.toList, Text.isBlank character = false
  ascii : ∀ character ∈ email.toList, character.toNat < 128
  unique : ∀ other : Address, other.text = email → other = address

theorem Address.isTextOf (address : Address) : IsTextOf address.text address where
  split := address.toList_text
  oneAt := address.toList_text ▸ address.count_at
  localPart := address.localPart.hasLoneDots
  domain := address.domain.hasLoneDots
  noBlank character member :=
    isBlank_eq_false_of_bounds (address.bounds (address.toList_text ▸ member))
  ascii character member :=
    Nat.lt_of_le_of_lt (address.bounds (address.toList_text ▸ member)).2 (by decide)
  unique other same := Address.eq_of_text same

/-- An address has nothing to trim. -/
theorem Address.trim_text (address : Address) : Text.trim address.text = address.text :=
  Text.trim_of_forall_not address.isTextOf.noBlank

end Email

namespace Http

variable {email password : String} {manager : Manager} {first second : Request}

theorem checkCredentials_eq_ok_iff :
    checkCredentials email password = .ok () ↔
      password ≠ "" ∧ ∃ address : Email.Address, address.text = email := by
  have nothing : Email.isAddress "" = false := by decide
  rw [checkCredentials, ← Email.isAddress_iff]
  cases accepted : Email.isAddress email with
  | false => simp
  | true =>
      have named : email.isEmpty = false := by
        rw [String.isEmpty_eq_false_iff]
        rintro rfl
        cases nothing.symm.trans accepted
      cases blank : password.isEmpty with
      | true => simp [named, String.isEmpty_iff.mp blank]
      | false => simp [named, String.isEmpty_eq_false_iff.mp blank]

/-- The check of credentials accepts a password that is not empty with an email of the grammar, and
answers all else with one failure. -/
theorem checkCredentials_accepts_addresses (email password : String) :
    (checkCredentials email password = .ok () ↔
      password ≠ "" ∧ ∃ address : Email.Address, address.text = email) ∧
    (checkCredentials email password ≠ .ok () →
      checkCredentials email password = .error .wrongCredentials) ∧
    (email.toList ∈ Email.pattern ↔ ∃ address : Email.Address, address.text = email) ∧
    ∀ address : Email.Address, address.text = email → Email.IsTextOf email address := by
  refine ⟨checkCredentials_eq_ok_iff, fun refused => ?_, Email.mem_pattern_iff, ?_⟩
  · rw [checkCredentials] at refused ⊢
    split
    case isTrue => rfl
    case isFalse accepted => exact absurd (if_neg accepted) refused
  · rintro address rfl
    exact address.isTextOf

example : checkCredentials "a.b@c-d" "p" = .ok () := by
  decide

example : checkCredentials "a@b\n" "p" = .error .wrongCredentials := by
  decide

/-! ## Blanks around an email -/

/-- Both requests are posted to the path, with the same headers, but for the length of the body. -/
structure Request.ArePosted (first second : Request) (path : String) : Prop where
  left : first.Posts path
  right : second.Posts path
  headers : (first.headers.filter fun header => header.name.toLower != "content-length") =
    second.headers.filter fun header => header.name.toLower != "content-length"

/-- The first request presents what the second one does, with blanks around the email. -/
inductive Request.Pads (first second : Request) : Prop where
  | login {credentials : Credentials} {left right : String}
      (posted : first.ArePosted second "/login") (leftBlank : Text.IsBlankText left)
      (rightBlank : Text.IsBlankText right)
      (padded : readBody Credentials.read first =
        .ok { credentials with email := left ++ credentials.email ++ right })
      (plain : readBody Credentials.read second = .ok credentials) : Pads first second
  | register {user : NewUser} {left right : String}
      (posted : first.ArePosted second "/register") (leftBlank : Text.IsBlankText left)
      (rightBlank : Text.IsBlankText right)
      (padded : readBody NewUser.read first =
        .ok { user with email := left ++ user.email ++ right })
      (plain : readBody NewUser.read second = .ok user) : Pads first second

theorem Request.ArePosted.carrier? {path : String} (posted : first.ArePosted second path) :
    Cookie.carrier? first.headers = Cookie.carrier? second.headers := by
  have other : "cookie" ≠ "content-length" := by decide
  have cookies : valuesOf "cookie" first.headers = valuesOf "cookie" second.headers := by
    rw [← valuesOf_filter other, posted.headers, valuesOf_filter other]
  rw [Cookie.carrier?, Cookie.allParts, cookies]
  rfl

/-- What is posted is answered alike if it comes to the same action once the caller is known. -/
theorem Request.ArePosted.guardedAnswer_eq {path : String}
    (posted : first.ArePosted second path) (next : Action Response) :
    guardedAnswer first next = guardedAnswer second next := by
  have carrier := posted.carrier?
  obtain ⟨_, _, headers, _⟩ := first
  obtain ⟨_, _, others, _⟩ := second
  obtain ⟨⟨rfl, rfl⟩, ⟨rfl, rfl⟩, -⟩ := posted
  rw [guardedAnswer, guardedAnswer, refuseLiveSession, refuseLiveSession, carrier]
  rfl

theorem presentedCredentials_of_read {credentials : Credentials}
    (read : readBody Credentials.read first = .ok credentials) :
    presentedCredentials first =
      (checkCredentials (Text.trim credentials.email) credentials.password).map fun _ =>
        { credentials with email := Text.trim credentials.email } := by
  rw [presentedCredentials, read]
  rfl

theorem presentedUser_of_read {user : NewUser} (read : readBody NewUser.read first = .ok user) :
    presentedUser first =
      (checkCredentials (Text.trim user.email) user.password).map fun _ =>
        { user with email := Text.trim user.email } := by
  rw [presentedUser, read]
  rfl

/-- Blanks around an email change nothing in what is asked of the stores, or said to anybody. -/
theorem Request.Pads.answer_eq (pads : first.Pads second) (more : List Route)
    (manager : Manager) :
    (Router.withGated more).answer manager first =
      (Router.withGated more).answer manager second := by
  cases pads with
  | login posted leftBlank rightBlank padded plain =>
      have presented : presentedCredentials first = presentedCredentials second := by
        rw [presentedCredentials_of_read padded, presentedCredentials_of_read plain,
          Text.trim_pad leftBlank rightBlank]
      rw [answer_login_eq posted.left, answer_login_eq posted.right, presented,
        posted.guardedAnswer_eq]
  | register posted leftBlank rightBlank padded plain =>
      have presented : presentedUser first = presentedUser second := by
        rw [presentedUser_of_read padded, presentedUser_of_read plain,
          Text.trim_pad leftBlank rightBlank]
      rw [answer_register_eq posted.left, answer_register_eq posted.right, presented,
        posted.guardedAnswer_eq]

/-! ## What a request inserts and what it asks for -/

variable {request : Request} {turns : List Turn} {response : Response} {row : UserRow} {id : UserId}

theorem exists_read_of_presentedUser {user : NewUser}
    (presented : presentedUser request = .ok user) :
    ∃ given, readBody NewUser.read request = .ok given ∧
      user = { given with email := Text.trim given.email } ∧
      checkCredentials user.email user.password = .ok () := by
  cases read : readBody NewUser.read request with
  | error error =>
      rw [presentedUser, read] at presented
      cases presented
  | ok given =>
      rw [presentedUser_of_read read] at presented
      obtain ⟨_, checked, rfl⟩ := exists_ok_of_map presented
      exact ⟨given, rfl, rfl, checked⟩

theorem email_of_presentedCredentials {given credentials : Credentials}
    (read : readBody Credentials.read request = .ok given)
    (presented : presentedCredentials request = .ok credentials) :
    credentials.email = Text.trim given.email := by
  rw [presentedCredentials_of_read read] at presented
  obtain ⟨_, -, rfl⟩ := exists_ok_of_map presented
  rfl

theorem LoginCourse.not_inserts {result : Except AuthError Response}
    (course : LoginCourse manager request turns result) (row : UserRow)
    (answer : Except AuthError UserId) : ⟨.insertUser row, answer⟩ ∉ turns := by
  cases course with
  | live asks => exact not_inserts_of_asks asks row answer
  | unfit asks unfit => exact not_inserts_of_asks asks row answer
  | answered asks presented logsIn =>
      rw [List.mem_append, not_or]
      exact ⟨not_inserts_of_asks asks row answer, logsIn.not_inserts row answer⟩

theorem LogoutCourse.not_inserts {result : Except AuthError Response}
    (course : LogoutCourse request turns result) (row : UserRow)
    (answer : Except AuthError UserId) : ⟨.insertUser row, answer⟩ ∉ turns := by
  have revoking {token : String} {talk : List Turn} {outcome : Except AuthError Unit}
      (revokes : Manager.Revokes token talk outcome) : ⟨.insertUser row, answer⟩ ∉ talk := by
    cases revokes <;> simp
  cases course with
  | refused asks => exact not_inserts_of_asks asks row answer
  | failed carried asks revokes =>
      rw [List.mem_append, not_or]
      exact ⟨not_inserts_of_asks asks row answer, revoking revokes⟩
  | ended now carried asks revokes =>
      simp [not_inserts_of_asks asks row answer, revoking revokes]

/-- The account that a request inserts has the email that it presents, which is an address. -/
theorem AnswerCourse.address_of_inserted {faulty : Prop} {table after : UserTable}
    (course : AnswerCourse manager request turns response)
    (hosts : table.Hosts faulty turns after) (inserted : ⟨.insertUser row, .ok id⟩ ∈ turns) :
    ∃ address : Email.Address, address.text = row.email := by
  cases course with
  | login posts course => exact absurd inserted (course.not_inserts row _)
  | register posts course =>
      obtain ⟨user, presented, email, -⟩ := course.of_inserted hosts inserted
      obtain ⟨given, -, -, checked⟩ := exists_read_of_presentedUser presented
      rw [email]
      exact (checkCredentials_eq_ok_iff.mp checked).2
  | logout posts course => exact absurd inserted (course.not_inserts row _)
  | other elsewhere asks plain =>
      rcases asks with rfl | ⟨known, asks⟩
      · cases inserted
      · exact absurd inserted (not_inserts_of_asks asks row _)

/-- The email that a request to log in or to open an account presents, as it stands in its body. -/
inductive Request.Presents (request : Request) : String → Prop where
  | login {credentials : Credentials} (posts : request.Posts "/login")
      (read : readBody Credentials.read request = .ok credentials) :
      Presents request credentials.email
  | register {user : NewUser} (posts : request.Posts "/register")
      (read : readBody NewUser.read request = .ok user) : Presents request user.email

variable {key : String} {core after : Core}

theorem not_finds_of_asks {known : Except AuthError Identity}
    (asks : Gate.Asks (Cookie.carrier? request.headers) turns known) (key : String)
    (answer : Except AuthError User) : ⟨.findUser key, answer⟩ ∉ turns := by
  intro member
  obtain ⟨token, same⟩ := asks.exists_getSession member
  cases same

theorem not_finds_of_registers {given : NewUser} {result : Except AuthError UserId}
    (registers : manager.Registers given turns result) (key : String)
    (answer : Except AuthError User) : ⟨.findUser key, answer⟩ ∉ turns := by
  cases registers with
  | free something provisions => cases provisions <;> simp
  | _ => simp

theorem key_of_logsIn {credentials : Credentials} {result : Except AuthError (Session × UserId)}
    (logsIn : manager.LogsIn credentials turns result) {answer : Except AuthError User}
    (found : ⟨.findUser key, answer⟩ ∈ turns) : key = credentials.email := by
  cases logsIn <;> simp at found <;> exact found.1

/-- A request looks for one account at most, under the email that it presents, trimmed. -/
theorem key_of_presents (presents : request.Presents email)
    (converses : (Router.standard.answer manager request).Converses turns response)
    {answer : Except AuthError User} (found : ⟨.findUser key, answer⟩ ∈ turns) :
    key = Text.trim email := by
  cases presents with
  | login posts read =>
      obtain ⟨result, course, -⟩ := converses_answer_login posts converses
      cases course with
      | live asks => exact absurd found (not_finds_of_asks asks key answer)
      | unfit asks unfit => exact absurd found (not_finds_of_asks asks key answer)
      | answered asks presented logsIn =>
          rcases List.mem_append.mp found with inGate | inTalk
          · exact absurd inGate (not_finds_of_asks asks key answer)
          · rw [key_of_logsIn logsIn inTalk, email_of_presentedCredentials read presented]
  | register posts read =>
      obtain ⟨result, course, -⟩ := converses_answer_register posts converses
      cases course with
      | live asks => exact absurd found (not_finds_of_asks asks key answer)
      | unfit asks unfit => exact absurd found (not_finds_of_asks asks key answer)
      | unopened asks presented registers =>
          rcases List.mem_append.mp found with inGate | inOpening
          · exact absurd inGate (not_finds_of_asks asks key answer)
          · exact absurd inOpening (not_finds_of_registers registers key answer)
      | answered asks presented registers logsIn =>
          obtain ⟨given, same, rfl, -⟩ := exists_read_of_presentedUser presented
          cases same.symm.trans read
          rcases List.mem_append.mp found with inGate | behind
          · exact absurd inGate (not_finds_of_asks asks key answer)
          rcases List.mem_append.mp behind with inOpening | inTalk
          · exact absurd inOpening (not_finds_of_registers registers key answer)
          · exact key_of_logsIn logsIn inTalk

/-- A request that is accepted has found an account, and its response names the account. -/
theorem exists_account (regular : core.IsRegular) (presents : request.Presents email)
    (converses : (Router.standard.answer manager request).Converses turns response)
    (follows : core.Follows turns after) (accepted : response.status = 200) :
    ∃ user key token expires, ⟨.findUser key, .ok user⟩ ∈ turns ∧
      response = handingOut user.id token expires := by
  cases presents with
  | login posts read =>
      obtain ⟨result, course, rfl⟩ := converses_answer_login posts converses
      cases course with
      | live asks => exact absurd accepted (failureResponse_status_ne _).1
      | unfit asks unfit => exact absurd accepted (failureResponse_status_ne _).1
      | @answered gate talk refusal credentials outcome asks presented logsIn =>
          cases outcome with
          | error error => exact absurd accepted (failureResponse_status_ne _).1
          | ok entered =>
              obtain ⟨session, owner⟩ := entered
              obtain ⟨user, now, bytes, lifetime, rfl, -, -, rfl⟩ := logsIn.eq_of_ok
              exact ⟨user, credentials.email, _, _, by simp, rfl⟩
  | register posts read =>
      obtain ⟨result, course, rfl⟩ := converses_answer_register posts converses
      cases course with
      | live asks => exact absurd accepted (failureResponse_status_ne _).1
      | unfit asks unfit => exact absurd accepted (failureResponse_status_ne _).1
      | unopened asks presented registers =>
          exact absurd accepted (failureResponse_status_ne _).1
      | @answered gate opening talk refusal given id outcome asks presented registers logsIn =>
          cases outcome with
          | error error => exact absurd accepted (failureResponse_status_ne _).1
          | ok entered =>
              obtain ⟨session, owner⟩ := entered
              obtain ⟨user, now, bytes, lifetime, rfl, -, -, rfl⟩ := logsIn.eq_of_ok
              -- The login has found the account that the registration has just inserted.
              obtain ⟨row, inserted⟩ := exists_inserted_of_registers registers
              obtain ⟨salt, record, -, rfl, -, -⟩ := registers.eq_of_inserted inserted
              have opened := follows.mem_of_inserted regular.sound
                (List.mem_append_right gate (List.mem_append_left _ inserted))
              have found : ⟨.findUser given.credentials.email, .ok user⟩ ∈ gate ++ (opening ++
                  [⟨.findUser given.credentials.email, .ok user⟩, ⟨.readClock, now⟩,
                    ⟨.drawToken, .ok bytes⟩,
                    ⟨.putSession session.token session.identity lifetime, .ok ()⟩]) := by simp
              obtain ⟨member, named⟩ := follows.mem_of_found regular.sound found
              have same := List.inj_on_of_nodup_map (regular.follows follows).numbered.emails
                member opened named
              have sameId : user.id = id := congrArg User.id same
              exact ⟨user, _, _, _, found, by rw [sameId]; rfl⟩

end Http

end SessionGate
