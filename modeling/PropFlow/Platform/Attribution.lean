import PropFlow.Gateway.Login
import PropFlow.Platform.Accountability
import PropFlow.Platform.AuditTrail

/-!
# Whose name is in the audit trail

`actor_id` is a text in a table, far from where anybody has shown a password.  Between
them are a token, two headers, two request contexts, an outbox, a Kafka record and the audit
consumer.  None of these loses or invents a name: an audit row that names somebody names one
of the users in `AUTH_USERS`, and this user's role there permits what the row is about
(`Attributed`).

It is put together from three results: the audit row carries a committed event, the event
is `Accountable` to a user whose token was verified, and a verified user is a configured
one (`SignedFor.exists_configured`).

What it rests on is that tokens cannot be forged (`SignedFor`).  Passwords may be configured
in any way, colons and all: the users are those that the service reads.
-/

namespace PropFlow

open Library

/-- The token service accepts what `login` has signed. -/
def JwtService.SignedFor (jwt : JwtService) (users : List DemoUser) : Prop :=
  ∀ token user, jwt.verifyAsync token = some user → ∃ email password response,
    AuthService.login users email password = .ok response ∧
      response.accessToken = ⟨user.sub, user.role⟩

/-- A verified user is a configured one. -/
theorem JwtService.SignedFor.exists_configured {jwt : JwtService} {users : List DemoUser}
    (signed : jwt.SignedFor users) {token : String} {user : AuthenticatedUser}
    (verified : jwt.verifyAsync token = some user) :
    ∃ configured ∈ users, configured.email = user.sub ∧ configured.role = user.role := by
  obtain ⟨email, password, response, loggedIn, carries⟩ := signed token user verified
  obtain ⟨configured, member, -, -, rfl⟩ := AuthService.exists_of_login_eq_ok loggedIn
  obtain ⟨isEmail, isRole⟩ := TokenPayload.mk.inj carries
  exact ⟨configured, member, isEmail, isRole⟩

/-- The row is about what a configured user may do, and names that user; or it is about a
triage, and names nobody. -/
def Attributed (users : List DemoUser) (stored : AuditEvent) : Prop :=
  (∃ configured ∈ users, stored.actorId = some configured.email ∧
    ∃ (role : UserRole) (type : WorkOrderEventType), configured.role = some role.text ∧
      stored.eventType = type.text ∧ role ∈ type.permittedRoles) ∨
  (stored.eventType = WorkOrderEventType.triaged.text ∧ stored.actorId = none)

section

variable {Body Answer : Type} {jwt : JwtService} {past : List (PlatformAction Body Answer)}
  {users : List DemoUser} {event : WorkOrderEvent} {stored : AuditEvent}

/-- A row that carries an accountable event is attributed to the user whom that leads to. -/
theorem Carries.attributed (carries : Carries stored event) (signed : jwt.SignedFor users)
    (accountable : Accountable jwt past event) : Attributed users stored := by
  rcases accountable with
    ⟨exchange, c, now, user, -, verified, permitted, named, -⟩ | ⟨triaged, nobody, -, -⟩
  · obtain ⟨token, -, accepted⟩ := Option.bind_eq_some_iff.mp verified
    obtain ⟨configured, member, isEmail, isRole⟩ := signed.exists_configured accepted
    obtain ⟨role, isPermitted, hasRole⟩ := permitted
    refine Or.inl ⟨configured, member, ?_, role, event.type, isRole.trans hasRole,
      carries.eventType, isPermitted⟩
    rw [carries.actorId, named, isEmail]
    rfl
  · refine Or.inr ⟨?_, ?_⟩
    · rw [carries.eventType, triaged]
    · rw [carries.actorId, nobody]
      rfl

end

/-- **Every audit row is attributed.** -/
theorem attributed_of_audited {Body Answer : Type} (validator : ClassValidator)
    (json : JsonText Body) (jwt : JwtService) (partitionOf : String → Partition)
    (authUsers : Option String) (s : PlatformState) (audit : AuditState)
    (signed : jwt.SignedFor (AuthService.users authUsers)) (fits : s.Fits)
    (audited : @Audited Body Answer validator json jwt partitionOf (fun _ => True) s audit) :
    ∀ stored ∈ audit.table.rows, Attributed (AuthService.users authUsers) stored := by
  intro stored isStored
  obtain ⟨row, isRow, carries⟩ := (audited.auditTrail fits).sound stored isStored
  obtain ⟨actions, ran⟩ := audited.reachable
  exact carries.attributed signed ((Accounts.of_run ran).staged row isRow)

/-- The resident of before, as configured. -/
def residentUser : ConfiguredUser where
  email := "resident@propflow.example"
  password := "propflow"
  role := .tenant
  colon_notMem_email := by decide
  comma_notMem_email := by decide
  comma_notMem_password := by decide

/-- The one token that is verified has been signed at a login. -/
theorem signedFor_residentTokens :
    residentTokens.SignedFor
      (AuthService.users (some (ConfiguredUser.authUsers [residentUser]))) := by
  intro token user verified
  have isUser : user = ⟨"resident@propflow.example", some "tenant"⟩ := by
    change (if token = "resident-token" then _ else none) = some user at verified
    split_ifs at verified
    exact (Option.some.inj verified).symm
  have plain : ∀ user ∈ [residentUser], ':' ∉ user.password.toList := by
    intro user member
    rw [List.mem_singleton.mp member]
    decide
  have found : [residentUser].find? (fun user => decide
      (user.ReadsAs (utf16 residentUser.email) (utf16 residentUser.password))) =
        some residentUser :=
    List.find?_cons_of_pos (decide_eq_true (ConfiguredUser.readsAs_of_has ⟨rfl, rfl⟩))
  refine ⟨utf16 residentUser.email, utf16 residentUser.password, residentUser.loggedIn, ?_, ?_⟩
  · have answered := ConfiguredUser.login_eq (List.cons_ne_nil _ _) plain
      (utf16 residentUser.email) (utf16 residentUser.password)
    rwa [found] at answered
  · rw [isUser]
    rfl

/-- The audit row of the opened order names the resident. -/
theorem attributed_tapNotified :
    ∃ t audit, t.service = tapNotified.service ∧ CaughtUp onePartition t audit ∧
      ∀ stored ∈ audit.table.rows,
        Attributed (AuthService.users (some (ConfiguredUser.authUsers [residentUser]))) stored := by
  obtain ⟨t, audit, -, -, audited, service, -, caughtUp⟩ :=
    (audited_tapNotified fun _ _ => trivial).exists_caughtUp fits_tapNotified (i := 0)
      fun _ _ => trivial
  exact ⟨t, audit, service, caughtUp, attributed_of_audited plainValidator jsonBodies
    residentTokens onePartition _ t audit signedFor_residentTokens
    (fun row member => fits_tapNotified row (service ▸ member)) audited⟩

end PropFlow
