import PropFlow.Library.Fallible
import PropFlow.Library.Separated
import PropFlow.Library.Utf16
import PropFlow.Gateway.Identity

/-!
# Logging in

`AuthService`: the users it reads from `AUTH_USERS`, and its search for the one whose
email and password were given.  What was given is any string, lone surrogates included;
what was configured is text.

## The service

* `DemoUser.ofEntry` — an entry, taken apart with `split(':')`; a field that is missing is
  `undefined`;
* `passwordMatches` — the comparison of two buffers, which have to be of one length.  A
  lone surrogate becomes the replacement character on its way into a buffer;
* `login` — the first user with the email and the password, and a token with its role.

## What was configured

The list that was configured is a list of `ConfiguredUser`s, each written as an entry
`email:password:role` (`ConfiguredUser.entry`).  The service keeps the first three fields
of an entry, so it reads what was written only of a password without a colon.

`LoginAgrees` is what a login is expected to be: it succeeds for exactly the configured
pairs of email and password, with the role that was configured.  `loginAgrees_iff` says
which lists have it: those that are not empty, and in which no password has a colon or the
replacement character.
-/

namespace PropFlow

open Library

/-! ## The service -/

/-- `DemoUser`.  The fields that an entry has too few colons for are undefined. -/
structure DemoUser where
  email : String
  password : Option String
  role : Option String
deriving DecidableEq, Repr

/-- `DEFAULT_USERS`. -/
def defaultUsers : String :=
  "manager@propflow.dev:propflow:manager," ++
    ("tenant@propflow.dev:propflow:tenant," ++ "tech@propflow.dev:propflow:technician")

/-- `const [email, password, role] = entry.split(':')`. -/
def DemoUser.ofEntry (entry : List Char) : DemoUser :=
  let fields := entry.splitOn ':'
  { email := String.ofList (fields.headD [])
    password := fields[1]?.map String.ofList
    role := fields[2]?.map String.ofList }

/-- What `AuthService.login` throws: its own exception, and the one of `Buffer.from` for
what is no string. -/
inductive LoginException where
  /-- `UnauthorizedException` -/
  | unauthorized (message : String)
  /-- the `TypeError` of `Buffer.from(undefined)` -/
  | typeError
deriving DecidableEq, Repr

/-- The payload that is signed. -/
structure TokenPayload where
  sub : String
  role : Option String
deriving DecidableEq, Repr

/-- What `AuthService.login` resolves to.  A token stands here as what it carries. -/
structure LoginResponse where
  accessToken : TokenPayload
  role : Option String
deriving DecidableEq, Repr

/-- A configured text as the string that the program holds. -/
def utf16 (text : String) : Utf16.Units := Utf16.encode text.toList

/-- `Buffer.from(value)`, of a value that is undefined or a string: its bytes in UTF-8. -/
def bufferFrom : Option Utf16.Units → Except LoginException ByteArray
  | none => .error .typeError
  | some string => .ok (String.ofList (Utf16.decode string)).toByteArray

namespace AuthService

/-- `users`, as the constructor reads them: `process.env.AUTH_USERS ?? DEFAULT_USERS`. -/
def users (authUsers : Option String) : List DemoUser :=
  ((authUsers.getD defaultUsers).toList.splitOn ',').map DemoUser.ofEntry

/-- What the constructor logs. -/
def warning (authUsers : Option String) : Option String :=
  if authUsers.getD "" = "" then some "AUTH_USERS not set, using built-in demo users" else none

/-- `passwordMatches(expected, given)`. -/
def passwordMatches (expected : Option String) (given : Utf16.Units) :
    Except LoginException Bool := do
  let a ← bufferFrom (expected.map utf16)
  let b ← bufferFrom (some given)
  if a.size ≠ b.size then return false
  -- timingSafeEqual
  return decide (a.data = b.data)

/-- `login(email, password)`. -/
def login (users : List DemoUser) (email password : Utf16.Units) :
    Except LoginException LoginResponse := do
  let user ← users.findM? fun candidate =>
    if utf16 candidate.email = email then passwordMatches candidate.password password
    else return false
  match user with
  | none => throw (.unauthorized "invalid credentials")
  | some user => return ⟨⟨user.email, user.role⟩, user.role⟩

/-- A variable that is set and empty: the service says that it uses the built-in users,
and has one with no password. -/
theorem users_ne_of_warning_iff (authUsers : Option String) :
    (warning authUsers).isSome ∧ users authUsers ≠ users none ↔ authUsers = some "" := by
  constructor
  · rintro ⟨warned, other⟩
    unfold warning at warned
    split_ifs at warned with unset
    · cases authUsers with
      | none => exact absurd rfl other
      | some value => exact congrArg some unset
    · exact absurd warned Bool.false_ne_true
  · rintro rfl
    exact ⟨rfl, fun same => absurd (congrArg List.length same) (by decide)⟩

section Search

variable {expected : String} {user candidate : DemoUser} {email password : Utf16.Units}

/-- Passwords are compared as the text that they are read as. -/
theorem passwordMatches_some :
    passwordMatches (some expected) password =
      .ok (decide (expected.toList = Utf16.decode password)) := by
  have sameBytes : expected.toByteArray = (String.ofList (Utf16.decode password)).toByteArray ↔
      expected.toList = Utf16.decode password := by
    rw [String.toByteArray_inj, ← String.toList_inj, String.toList_ofList]
  have bytes : bufferFrom (some (utf16 expected)) = .ok expected.toByteArray := by
    rw [bufferFrom, utf16, Utf16.decode_encode, String.ofList_toList]
  unfold passwordMatches
  rw [Option.map_some, bytes, ok_bind, bufferFrom, ok_bind]
  split_ifs with sizes
  · have differ : expected.toList ≠ Utf16.decode password := by
      intro same
      exact sizes (congrArg ByteArray.size (sameBytes.mpr same))
    rw [decide_eq_false differ]
    rfl
  · rw [decide_eq_decide.mpr (ByteArray.ext_iff.symm.trans sameBytes)]
    rfl

/-- Who logs in is a user of the list, with its role. -/
theorem exists_of_login_eq_ok {users : List DemoUser} {response : LoginResponse}
    (loggedIn : login users email password = .ok response) :
    ∃ user ∈ users, utf16 user.email = email ∧
      passwordMatches user.password password = .ok true ∧
        response = ⟨⟨user.email, user.role⟩, user.role⟩ := by
  obtain ⟨found, search, loggedIn⟩ := bind_eq_ok.mp loggedIn
  cases found with
  | none => cases loggedIn
  | some user =>
      obtain ⟨member, hit⟩ := findM?_eq_ok_some search
      split_ifs at hit with sameEmail
      · exact ⟨user, member, sameEmail, hit, (Except.ok.inj loggedIn).symm⟩
      · cases hit

/-- A stored password is one field of its entry. -/
theorem colon_notMem_password {authUsers : Option String} (member : user ∈ users authUsers)
    (stored : user.password = some expected) : ':' ∉ expected.toList := by
  obtain ⟨entry, -, rfl⟩ := List.mem_map.mp member
  obtain ⟨field, isField, rfl⟩ := Option.map_eq_some_iff.mp stored
  rw [String.toList_ofList]
  exact notMem_of_mem_splitOn (List.mem_of_getElem? isField)

end Search

end AuthService

/-! ## What was configured -/

/-- A user as it was meant. -/
structure ConfiguredUser where
  email : String
  password : String
  role : UserRole
  /-- An address has no colon, -/
  colon_notMem_email : ':' ∉ email.toList
  /-- and no comma. -/
  comma_notMem_email : ',' ∉ email.toList
  /-- The comma divides the entries, so a password cannot have one. -/
  comma_notMem_password : ',' ∉ password.toList

namespace ConfiguredUser

/-- `email:password:role`. -/
def entry (user : ConfiguredUser) : String :=
  String.intercalate ":" [user.email, user.password, user.role.text]

/-- The value of `AUTH_USERS`. -/
def authUsers (users : List ConfiguredUser) : String := String.intercalate "," (users.map entry)

/-- The exact pair was given. -/
def Has (email password : Utf16.Units) (user : ConfiguredUser) : Prop :=
  utf16 user.email = email ∧ utf16 user.password = password

instance (email password : Utf16.Units) : DecidablePred (Has email password) :=
  fun _ => inferInstanceAs (Decidable (_ ∧ _))

/-- `login` of the service that was given these users. -/
def login (users : List ConfiguredUser) : Utf16.Units → Utf16.Units →
    Except LoginException LoginResponse :=
  AuthService.login (AuthService.users (some (authUsers users)))

/-- **Login agrees with the configured users.** -/
structure LoginAgrees (users : List ConfiguredUser) : Prop where
  /-- A token is issued for the configured credentials, and for no others. -/
  issues_iff : ∀ email password,
    (∃ response, login users email password = .ok response) ↔
      ∃ user ∈ users, user.Has email password
  /-- It carries the email that was given, and the role of the first such user. -/
  token : ∀ email password response, login users email password = .ok response →
    utf16 response.accessToken.sub = email ∧
      ∃ user, users.find? (fun user => user.Has email password) = some user ∧
        response.accessToken.role = some user.role.text
  /-- Whoever is refused learns no more than that. -/
  refuses : ∀ email password exception, login users email password = .error exception →
    exception = .unauthorized "invalid credentials"

section Entries

variable {user : ConfiguredUser} {users : List ConfiguredUser} {email password : Utf16.Units}

/-- An entry is its three fields with colons between them. -/
theorem toList_entry (user : ConfiguredUser) :
    user.entry.toList =
      [':'].intercalate [user.email.toList, user.password.toList, user.role.text.toList] :=
  String.toList_intercalate

/-- A role has no separator in it. -/
theorem separators_notMem_role (role : UserRole) :
    ':' ∉ role.text.toList ∧ ',' ∉ role.text.toList := by
  cases role with
  | tenant => decide
  | manager => decide
  | technician => decide

/-- Neither has an entry a comma, so the list is split where it was joined. -/
theorem comma_notMem_entry (user : ConfiguredUser) : ',' ∉ user.entry.toList := by
  rw [toList_entry]
  simp [List.intercalate, user.comma_notMem_email, user.comma_notMem_password,
    (separators_notMem_role user.role).2]

/-- The list is taken apart into its entries. -/
theorem users_authUsers (nonempty : users ≠ []) :
    AuthService.users (some (authUsers users)) =
      users.map fun user => DemoUser.ofEntry user.entry.toList := by
  have text : (authUsers users).toList =
      [','].intercalate (users.map fun user => user.entry.toList) := by
    unfold authUsers
    rw [String.toList_intercalate, List.map_map]
    rfl
  have entries : ∀ entry ∈ users.map (fun user => user.entry.toList), ',' ∉ entry := by
    intro entry member
    obtain ⟨user, -, rfl⟩ := List.mem_map.mp member
    exact user.comma_notMem_entry
  unfold AuthService.users
  rw [Option.getD_some, text, List.splitOn_intercalate ',' entries (by simpa using nonempty),
    List.map_map]
  rfl

/-- The stored form of a user. -/
def demoUser (user : ConfiguredUser) : DemoUser where
  email := user.email
  password := some user.password
  role := some user.role.text

/-- An entry is taken apart into its fields. -/
theorem ofEntry_entry (plain : ':' ∉ user.password.toList) :
    DemoUser.ofEntry user.entry.toList = user.demoUser := by
  have fields : user.entry.toList.splitOn ':' =
      [user.email.toList, user.password.toList, user.role.text.toList] := by
    rw [toList_entry]
    refine List.splitOn_intercalate ':' ?_ (List.cons_ne_nil _ _)
    simp [user.colon_notMem_email, plain, (separators_notMem_role user.role).1]
  simp [DemoUser.ofEntry, fields, demoUser]

/-- What an entry is taken for whose password has a colon: the password ends there, and
the role is what comes after. -/
theorem ofEntry_entry_of_colon {front rest : List Char}
    (password : user.password.toList = front ++ ':' :: rest) (plain : ':' ∉ front) :
    DemoUser.ofEntry user.entry.toList =
      { email := user.email
        password := some (String.ofList front)
        role := ((rest ++ ':' :: user.role.text.toList).splitOn ':').head?.map String.ofList } := by
  have fields : user.entry.toList.splitOn ':' =
      user.email.toList :: front :: (rest ++ ':' :: user.role.text.toList).splitOn ':' := by
    have text : user.entry.toList =
        user.email.toList ++ ':' :: (front ++ ':' :: (rest ++ ':' :: user.role.text.toList)) := by
      rw [toList_entry, password]
      simp [List.intercalate]
    rw [text, List.splitOn_append_cons_self_of_not_mem user.colon_notMem_email,
      List.splitOn_append_cons_self_of_not_mem plain]
  simp [DemoUser.ofEntry, fields, List.head?_eq_getElem?]

/-- The part of a password before its first colon logs in, with the next part as the
role. -/
theorem login_front {front rest : List Char}
    (password : user.password.toList = front ++ ':' :: rest) (plain : ':' ∉ front) :
    ∃ response, login [user] (utf16 user.email) (Utf16.encode front) = .ok response ∧
      response.accessToken.sub = user.email ∧
        response.accessToken.role =
          ((rest ++ ':' :: user.role.text.toList).splitOn ':').head?.map String.ofList := by
  have stored : AuthService.users (some (authUsers [user])) =
      [DemoUser.ofEntry user.entry.toList] := users_authUsers (List.cons_ne_nil user [])
  have hit : AuthService.passwordMatches (some (String.ofList front)) (Utf16.encode front) =
      .ok true := by
    rw [AuthService.passwordMatches_some, String.toList_ofList, Utf16.decode_encode,
      decide_eq_true rfl]
  unfold login AuthService.login
  rw [stored, ofEntry_entry_of_colon password plain, List.findM?, if_pos rfl, hit]
  exact ⟨_, rfl, rfl, rfl⟩

/-- What the search goes by: passwords are compared as text. -/
def ReadsAs (email password : Utf16.Units) (user : ConfiguredUser) : Prop :=
  utf16 user.email = email ∧ user.password.toList = Utf16.decode password

instance (email password : Utf16.Units) : DecidablePred (ReadsAs email password) :=
  fun _ => inferInstanceAs (Decidable (_ ∧ _))

/-- A user who has the two is read as one who has. -/
theorem readsAs_of_has (has : user.Has email password) : user.ReadsAs email password := by
  refine ⟨has.1, ?_⟩
  rw [← has.2, utf16, Utf16.decode_encode]

/-- The converse needs that a lone surrogate cannot pass for a replacement character. -/
theorem readsAs_iff_has (whole : Utf16.replacement ∉ user.password.toList) :
    user.ReadsAs email password ↔ user.Has email password := by
  refine ⟨fun reads => ⟨reads.1, ?_⟩, readsAs_of_has⟩
  rw [utf16, reads.2]
  exact Utf16.encode_decode password (by rwa [← reads.2])

/-- The answer to who has logged in. -/
def loggedIn (user : ConfiguredUser) : LoginResponse :=
  ⟨⟨user.email, some user.role.text⟩, some user.role.text⟩

/-- **The search**, where entries are read as they were written. -/
theorem login_eq (nonempty : users ≠ []) (plain : ∀ user ∈ users, ':' ∉ user.password.toList)
    (email password : Utf16.Units) :
    login users email password =
      match users.find? (fun user => user.ReadsAs email password) with
      | some user => .ok user.loggedIn
      | none => .error (.unauthorized "invalid credentials") := by
  have stored : AuthService.users (some (authUsers users)) = users.map demoUser := by
    rw [users_authUsers nonempty]
    exact List.map_congr_left fun user member => ofEntry_entry (plain user member)
  -- no candidate throws, as none is without a password
  have look : ∀ candidate ∈ users.map demoUser,
      (if utf16 candidate.email = email then
          AuthService.passwordMatches candidate.password password else return false) =
        .ok (decide (utf16 candidate.email = email ∧
          candidate.password.map String.toList = some (Utf16.decode password))) := by
    intro candidate member
    obtain ⟨user, -, rfl⟩ := List.mem_map.mp member
    simp only [demoUser, AuthService.passwordMatches_some, Option.map_some, Option.some.injEq]
    split_ifs with sameEmail
    · simp [sameEmail]
    · simp [sameEmail]
      rfl
  unfold login AuthService.login
  rw [stored, findM?_eq_ok look, ok_bind, List.find?_map]
  have same : (fun candidate : DemoUser => decide (utf16 candidate.email = email ∧
      candidate.password.map String.toList = some (Utf16.decode password))) ∘ demoUser =
        fun user => decide (user.ReadsAs email password) := by
    funext user
    refine decide_eq_decide.mpr (and_congr_right' ?_)
    rw [demoUser, Option.map_some, Option.some.injEq]
  rw [same]
  cases users.find? (fun user => user.ReadsAs email password) with
  | none => rfl
  | some user => rfl

/-- What is read is what was written, where a password can be read as no other. -/
theorem find?_readsAs (whole : ∀ user ∈ users, Utf16.replacement ∉ user.password.toList)
    (email password : Utf16.Units) :
    users.find? (fun user => user.ReadsAs email password) =
      users.find? (fun user => user.Has email password) := by
  rw [← List.head?_filter, ← List.head?_filter]
  exact congrArg List.head? (List.filter_congr fun user member =>
    decide_eq_decide.mpr (readsAs_iff_has (whole user member)))

/-- **What login answers**: the first user who has the pair is logged in, or nobody has
it. -/
theorem login_cases (nonempty : users ≠ []) (plain : ∀ user ∈ users, ':' ∉ user.password.toList)
    (whole : ∀ user ∈ users, Utf16.replacement ∉ user.password.toList)
    (email password : Utf16.Units) :
    (∃ user ∈ users, user.Has email password ∧
        users.find? (fun user => user.Has email password) = some user ∧
          login users email password = .ok user.loggedIn) ∨
      (∀ user ∈ users, ¬ user.Has email password) ∧
        login users email password = .error (.unauthorized "invalid credentials") := by
  rw [login_eq nonempty plain, find?_readsAs whole]
  cases found : users.find? (fun user => user.Has email password) with
  | some user =>
      have has := List.find?_some found
      rw [decide_eq_true_eq] at has
      exact Or.inl ⟨user, List.mem_of_find?_eq_some found, has, rfl, rfl⟩
  | none =>
      refine Or.inr ⟨fun user member => ?_, rfl⟩
      simpa using List.find?_eq_none.mp found user member

/-- The condition is enough. -/
theorem loginAgrees_of_plain (nonempty : users ≠ [])
    (plain : ∀ user ∈ users, ':' ∉ user.password.toList)
    (whole : ∀ user ∈ users, Utf16.replacement ∉ user.password.toList) : LoginAgrees users := by
  constructor
  case issues_iff =>
    intro email password
    rcases login_cases nonempty plain whole email password with
      ⟨user, member, has, -, answered⟩ | ⟨nobody, refused⟩
    · exact iff_of_true ⟨user.loggedIn, answered⟩ ⟨user, member, has⟩
    · refine iff_of_false ?_ ?_
      · rintro ⟨response, answered⟩
        cases refused.symm.trans answered
      · rintro ⟨user, member, has⟩
        exact nobody user member has
  case token =>
    intro email password response answered
    rcases login_cases nonempty plain whole email password with
      ⟨user, -, has, found, answered'⟩ | ⟨-, refused⟩
    · cases answered'.symm.trans answered
      exact ⟨has.1, user, found, rfl⟩
    · cases refused.symm.trans answered
  case refuses =>
    intro email password exception thrown
    rcases login_cases nonempty plain whole email password with
      ⟨user, -, -, -, answered⟩ | ⟨-, refused⟩
    · cases answered.symm.trans thrown
    · exact (Except.error.inj (refused.symm.trans thrown)).symm

/-! ### What agreement takes -/

/-- With nobody configured, the entry is the empty text. -/
theorem LoginAgrees.nonempty (agrees : LoginAgrees users) : users ≠ [] := by
  rintro rfl
  have thrown : login [] (utf16 "") (utf16 "") = .error .typeError := rfl
  cases agrees.refuses _ _ _ thrown

/-- Who has a password with a colon cannot log in with it. -/
theorem LoginAgrees.colon_notMem (agrees : LoginAgrees users) (member : user ∈ users) :
    ':' ∉ user.password.toList := by
  intro colon
  obtain ⟨response, answered⟩ := (agrees.issues_iff (utf16 user.email) (utf16 user.password)).mpr
    ⟨user, member, rfl, rfl⟩
  obtain ⟨candidate, isCandidate, -, hit, -⟩ := AuthService.exists_of_login_eq_ok answered
  cases stored : candidate.password with
  | none =>
      rw [stored] at hit
      cases hit
  | some expected =>
      rw [stored, AuthService.passwordMatches_some, utf16, Utf16.decode_encode] at hit
      have same : expected.toList = user.password.toList :=
        of_decide_eq_true (Except.ok.inj hit)
      exact AuthService.colon_notMem_password isCandidate stored (same ▸ colon)

/-- Who has a password with U+FFFD in it lets others in. -/
theorem LoginAgrees.replacement_notMem (agrees : LoginAgrees users) (member : user ∈ users) :
    Utf16.replacement ∉ user.password.toList := by
  intro replaced
  obtain ⟨string, read, other⟩ := Utf16.exists_decode_of_mem replaced
  have reads : user.ReadsAs (utf16 user.email) string := ⟨rfl, read.symm⟩
  have answered : ∃ response, login users (utf16 user.email) string = .ok response := by
    rw [login_eq agrees.nonempty fun user member => agrees.colon_notMem member]
    cases found : users.find? (fun user' => user'.ReadsAs (utf16 user.email) string) with
    | none => exact absurd (decide_eq_true reads) (List.find?_eq_none.mp found user member)
    | some first => exact ⟨_, rfl⟩
  obtain ⟨user', -, has⟩ := (agrees.issues_iff (utf16 user.email) string).mp answered
  have text : user'.password.toList = user.password.toList := by
    rw [← read, ← has.2, utf16, Utf16.decode_encode]
  exact other (by rw [← has.2, utf16, text])

end Entries

/-- **When login agrees with the configured users**: there are some, and no password has
a colon in it, or the character that stands for what is no text. -/
theorem loginAgrees_iff (users : List ConfiguredUser) :
    LoginAgrees users ↔
      users ≠ [] ∧ ∀ user ∈ users,
        ':' ∉ user.password.toList ∧ Utf16.replacement ∉ user.password.toList := by
  constructor
  · intro agrees
    exact ⟨agrees.nonempty, fun _ member =>
      ⟨agrees.colon_notMem member, agrees.replacement_notMem member⟩⟩
  · rintro ⟨nonempty, passwords⟩
    exact loginAgrees_of_plain nonempty (fun user member => (passwords user member).1)
      (fun user member => (passwords user member).2)

/-- A password with a colon. -/
def colonUser : ConfiguredUser where
  email := "admin@propflow.dev"
  password := "sek:ret"
  role := .manager
  colon_notMem_email := by decide
  comma_notMem_email := by decide
  comma_notMem_password := by decide

/-- **A password is cut off at its colon.** -/
theorem not_loginAgrees_colonUser : ¬ LoginAgrees [colonUser] :=
  fun agrees => agrees.colon_notMem List.mem_cons_self (by decide)

end ConfiguredUser

end PropFlow
