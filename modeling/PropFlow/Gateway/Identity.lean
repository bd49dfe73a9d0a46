import PropFlow.Library.Json
import PropFlow.Gateway
import PropFlow.WorkOrders.Concurrency

/-!
# Who a request is from

A request on its way through the gateway: the middleware opens its context from
the client's headers, `JwtAuthGuard` and `RolesGuard` let it pass or not, and the
handler of its route calls services with the user of the context.

## The model

* `Route` — the metadata that the decorators leave on a handler and its controller, and
  the handler.  What a handler does is left open: the calls it has issued are any function
  of what it can read and of the answers it has had so far;
* `JwtService` — which tokens are verified, and for whom.  The role in a token is a text:
  a login signs what was configured;
* `Gateway.handle` — the middleware, the guards and the handler, in that order.

The context starts with whatever the client put in `x-user-id`.  What makes that
harmless is that the branches of the guard which leave it there, public routes
and the metrics paths, are those whose handlers call no service
(`Route.guarded`).

## The result

`MadeBy` says of a call that it is made in the name of a user.  `identity_protected`: every
call that is made for a request is made in the name of a user for whom its token was
verified and whose role its route permits, and two requests that differ in the client's
`x-user-id` only come to the same calls.
-/

namespace PropFlow

open Library

/-! ## Routes -/

/-- `UserRole`. -/
inductive UserRole where
  | tenant
  | manager
  | technician
deriving DecidableEq, Repr

/-- The text of a role, in a token. -/
def UserRole.text : UserRole → String
  | .tenant => "tenant"
  | .manager => "manager"
  | .technician => "technician"

/-- `AuthenticatedUser`: the payload of a token.  It is declared to have a `UserRole`, but
`login` signs whatever text is configured, or none. -/
structure AuthenticatedUser where
  sub : String
  role : Option String
deriving DecidableEq, Repr

/-- `required.includes(user.role)`. -/
def AuthenticatedUser.HasRoleOf (user : AuthenticatedUser) (required : List UserRole) : Prop :=
  ∃ role ∈ required, user.role = some role.text

instance (user : AuthenticatedUser) : DecidablePred user.HasRoleOf :=
  fun required => inferInstanceAs (Decidable (∃ role ∈ required, user.role = some role.text))

/-- What `@Public()` and `@Roles(…)` leave on a handler or on a class. -/
structure Metadata where
  /-- `IS_PUBLIC_KEY` -/
  isPublic : Option Bool
  /-- `ROLES_KEY` -/
  roles : Option (List UserRole)
deriving DecidableEq, Repr

/-- `reflector.getAllAndOverride(key, [handler, class])`. -/
def getAllAndOverride {α : Type} (key : Metadata → Option α) (handler controller : Metadata) :
    Option α :=
  match key handler with
  | some value => some value
  | none => key controller

/-- The paths that `JwtAuthGuard` lets through for Prometheus. -/
def metricsPaths : List String := ["/metrics", "/api/metrics"]

/-- The first two arguments of `fetch`, less the headers. -/
structure DownstreamRequest where
  path : String
  method : String
  body : Option String
deriving DecidableEq, Repr

/-- A call that leaves the gateway. -/
structure DownstreamCall extends DownstreamRequest where
  /-- The headers that the client has set: the request id and the user id. -/
  headers : RequestHeaders
deriving DecidableEq, Repr

/-- The fetch of `DownstreamClient.request`, in the context of the request. -/
def DownstreamClient.call (store : Option RequestContext) (request : DownstreamRequest) :
    DownstreamCall :=
  { request with headers := DownstreamClient.headers store }

variable {Input Answer : Type}

/-- What a handler can read of a request: no controller asks for a header.
`Input` is the parameters, the query and the body. -/
structure HandlerInput (Input : Type) where
  path : String
  input : Input
  /-- `request.user` -/
  user : Option AuthenticatedUser

/-- A request. -/
structure HttpRequest (Input : Type) extends HandlerInput Input where
  /-- The headers of the request context, as the client has sent them. -/
  headers : RequestHeaders
  /-- The header `authorization`. -/
  authorization : Option String

/-- A route: its metadata, and the service calls its handler has issued once it
has had some answers. -/
structure Route (Input Answer : Type) where
  /-- What is decorated at the method. -/
  handler : Metadata
  /-- What is decorated at the class. -/
  controller : Metadata
  /-- The calls so far; what a handler calls next may depend on what came back. -/
  calls : HandlerInput Input → List Answer → List DownstreamRequest
  /-- Services are called by the handlers of guarded routes only. -/
  guarded : ∀ {request : HandlerInput Input} {answers : List Answer},
    calls request answers ≠ [] →
      getAllAndOverride Metadata.isPublic handler controller ≠ some true ∧
        request.path ∉ metricsPaths

/-- The roles of `@Roles(…)` that apply. -/
def Route.requiredRoles (route : Route Input Answer) : Option (List UserRole) :=
  getAllAndOverride Metadata.roles route.handler route.controller

/-! ## The guards -/

/-- What the guards throw. -/
inductive GuardException where
  /-- Of `JwtAuthGuard`. -/
  | unauthorized (message : String)
  /-- Of `RolesGuard`. -/
  | forbidden (message : String)
deriving DecidableEq, Repr

/-- `JwtService`, of which only this is relied on: it accepts the tokens that
`AuthService.login` has signed, whose subject is the email of a user. -/
structure JwtService where
  /-- The payload of a token that is signed and has not expired. -/
  verifyAsync : String → Option AuthenticatedUser
  /-- No user has the empty email. -/
  sub_ne_empty : ∀ {token : String} {user : AuthenticatedUser},
    verifyAsync token = some user → user.sub ≠ ""

/-- `const [scheme, token] = request.headers.authorization?.split(' ') ?? []`, if
the scheme is right and there is a token. -/
def bearerToken (authorization : Option String) : Option String :=
  match (authorization.map fun text => text.toList.splitOn ' ').getD [] with
  | scheme :: token :: _ =>
      if scheme = "Bearer".toList ∧ token ≠ [] then some (String.ofList token) else none
  | _ => none

/-- `JwtAuthGuard.canActivate`: the request and the context as it leaves them. -/
def JwtAuthGuard.canActivate (jwt : JwtService) (route : Route Input Answer)
    (request : HttpRequest Input) (store : Option RequestContext) :
    Except GuardException (HttpRequest Input × Option RequestContext) :=
  if getAllAndOverride Metadata.isPublic route.handler route.controller = some true then
    .ok (request, store)
  -- Prometheus scrapes carry no JWT
  else if request.path ∈ metricsPaths then .ok (request, store)
  else
    match bearerToken request.authorization with
    | none => .error (.unauthorized "missing bearer token")
    | some token =>
        match jwt.verifyAsync token with
        | none => .error (.unauthorized "invalid or expired token")
        | some payload =>
            .ok ({ request with user := some payload }, setCurrentUserId payload.sub store)

/-- `RolesGuard.canActivate`. -/
def RolesGuard.canActivate (route : Route Input Answer) (request : HttpRequest Input) :
    Except GuardException Unit :=
  if getAllAndOverride Metadata.isPublic route.handler route.controller = some true then .ok ()
  else
    match route.requiredRoles with
    | none | some [] => .ok ()
    | some required =>
        match request.user with
        | none => .error (forbidden required)
        | some user => if user.HasRoleOf required then .ok () else .error (forbidden required)
where
  forbidden (required : List UserRole) : GuardException :=
    .forbidden ("requires one of roles: " ++ ", ".intercalate (required.map UserRole.text))

/-- The calls that leave the gateway while a request is handled, up to the answers
it has had. -/
def Gateway.handle (jwt : JwtService) (route : Route Input Answer) (minted : MintedUuid)
    (request : HttpRequest Input) (answers : List Answer) :
    Except GuardException (List DownstreamCall) := do
  let opened := some (requestContextMiddleware request.headers minted)
  let (request, store) ← JwtAuthGuard.canActivate jwt route request opened
  RolesGuard.canActivate route request
  .ok ((route.calls request.toHandlerInput answers).map (DownstreamClient.call store))

/-! ## What the guards guarantee -/

section Guarantee

variable {jwt : JwtService} {route : Route Input Answer} {minted : MintedUuid}
  {request : HttpRequest Input} {answers : List Answer}

/-- How a request gets past `JwtAuthGuard`: as it came, on a route whose handler
calls no service, or as the user its token was verified for. -/
theorem JwtAuthGuard.canActivate_ok {store store' : Option RequestContext}
    {request' : HttpRequest Input}
    (ok : JwtAuthGuard.canActivate jwt route request store = .ok (request', store')) :
    ((getAllAndOverride Metadata.isPublic route.handler route.controller = some true ∨
        request.path ∈ metricsPaths) ∧ request' = request ∧ store' = store) ∨
      ∃ token user, bearerToken request.authorization = some token ∧
        jwt.verifyAsync token = some user ∧ request' = { request with user := some user } ∧
          store' = setCurrentUserId user.sub store := by
  unfold JwtAuthGuard.canActivate at ok
  split_ifs at ok with isPublic isMetrics
  · cases ok
    exact Or.inl ⟨Or.inl isPublic, rfl, rfl⟩
  · cases ok
    exact Or.inl ⟨Or.inr isMetrics, rfl, rfl⟩
  · right
    cases bearer : bearerToken request.authorization with
    | none => simp [bearer] at ok
    | some token =>
        cases verified : jwt.verifyAsync token with
        | none => simp [bearer, verified] at ok
        | some user =>
            simp only [bearer, verified, Except.ok.injEq, Prod.mk.injEq] at ok
            exact ⟨token, user, rfl, verified, ok.1.symm, ok.2.symm⟩

/-- Past `RolesGuard`, the user has a required role. -/
theorem RolesGuard.hasRoleOf (ok : RolesGuard.canActivate route request = .ok ())
    (notPublic : getAllAndOverride Metadata.isPublic route.handler route.controller ≠ some true)
    {user : AuthenticatedUser} (isUser : request.user = some user) {required : List UserRole}
    (requires : route.requiredRoles = some required) (nonempty : required ≠ []) :
    user.HasRoleOf required := by
  unfold RolesGuard.canActivate at ok
  rw [if_neg notPublic, requires] at ok
  cases required with
  | nil => exact absurd rfl nonempty
  | cons role rest =>
      simp only [isUser] at ok
      split_ifs at ok with member
      exact member

/-- The call is made in the name of the user, and so is what it leads to in the
service that receives it. -/
def MadeBy (user : AuthenticatedUser) (call : DownstreamCall) : Prop :=
  call.headers.userId = .single user.sub ∧
    ∀ (atService : MintedUuid) (event : WorkOrderEvent),
      StagedUnder (some (requestContextMiddleware call.headers atService)) event →
        event.actorId = .value user.sub

/-- The user of the context is the user of the call. -/
theorem madeBy_call {user : AuthenticatedUser} (nonempty : user.sub ≠ "") (store : RequestContext)
    (downstream : DownstreamRequest) :
    MadeBy user (DownstreamClient.call (setCurrentUserId user.sub (some store)) downstream) := by
  have userId : (DownstreamClient.call (setCurrentUserId user.sub (some store))
      downstream).headers.userId = .single user.sub := by
    show forwarded (some user.sub) = .single user.sub
    rw [forwarded, if_neg nonempty]
  refine ⟨userId, fun atService event staged => ?_⟩
  obtain ⟨type, workOrder, context, store, rfl⟩ := staged.envelope_eq
  unfold WorkOrderEventsOutbox.envelope currentUserId requestContextMiddleware at *
  rw [store, Option.bind_some, userId]
  rfl

/-- A handler that calls services is behind both guards. -/
theorem verified_of_handle {calls : List DownstreamCall} {call : DownstreamCall}
    (handled : Gateway.handle jwt route minted request answers = .ok calls)
    (issued : call ∈ calls) :
    ∃ token user, bearerToken request.authorization = some token ∧
      jwt.verifyAsync token = some user ∧
      (∀ required, route.requiredRoles = some required → required ≠ [] → user.HasRoleOf required) ∧
      MadeBy user call := by
  obtain ⟨⟨request', store'⟩, authenticated, rest⟩ := bind_eq_ok.mp handled
  obtain ⟨⟨⟩, authorized, rest⟩ := bind_eq_ok.mp rest
  cases rest
  obtain ⟨downstream, isCall, rfl⟩ := List.mem_map.mp issued
  obtain ⟨notPublic, notMetrics⟩ := route.guarded (List.ne_nil_of_mem isCall)
  rcases JwtAuthGuard.canActivate_ok authenticated with
    ⟨isPublic | isMetrics, rfl, -⟩ | ⟨token, user, bearer, verified, rfl, rfl⟩
  · exact absurd isPublic notPublic
  · exact absurd isMetrics notMetrics
  · refine ⟨token, user, bearer, verified, fun required requires nonempty => ?_, ?_⟩
    · exact RolesGuard.hasRoleOf authorized notPublic rfl requires nonempty
    · exact madeBy_call (jwt.sub_ne_empty verified) _ downstream

/-- **What the client claims about the user does not matter.** -/
theorem handle_withUserId (jwt : JwtService) (route : Route Input Answer) (minted : MintedUuid)
    (request : HttpRequest Input) (answers : List Answer) (userId : HeaderValue) :
    Gateway.handle jwt route minted
        { request with headers := { request.headers with userId } } answers =
      Gateway.handle jwt route minted request answers := by
  unfold Gateway.handle JwtAuthGuard.canActivate
  by_cases passes : getAllAndOverride Metadata.isPublic route.handler route.controller = some true ∨
      request.path ∈ metricsPaths
  · -- the handler calls no service
    have quiet : route.calls request.toHandlerInput answers = [] := by
      by_contra called
      obtain ⟨notPublic, notMetrics⟩ := route.guarded called
      exact passes.elim notPublic notMetrics
    rcases passes with isPublic | isMetrics
    · simp [isPublic, RolesGuard.canActivate, quiet]
    · simp [isMetrics, RolesGuard.canActivate, quiet]
  · rw [not_or] at passes
    simp only [if_neg passes.1, if_neg passes.2]
    -- the guard overwrites the user of the context
    cases bearerToken request.authorization with
    | none => rfl
    | some token =>
        cases verified : jwt.verifyAsync token with
        | none => simp only [verified, error_bind]
        | some user =>
            simp only [verified, ok_bind]
            rfl

end Guarantee

/-- **Identity cannot be bypassed or forged.**  Every service call made for a
request is made in the name of the user its token was verified for, who has a
role the route asks for; and the client's `x-user-id` changes nothing. -/
theorem identity_protected (jwt : JwtService) (route : Route Input Answer) (minted : MintedUuid)
    (request : HttpRequest Input) (answers : List Answer) :
    (∀ calls, Gateway.handle jwt route minted request answers = .ok calls → ∀ call ∈ calls,
      ∃ token user, bearerToken request.authorization = some token ∧
        jwt.verifyAsync token = some user ∧
        (∀ required, route.requiredRoles = some required → required ≠ [] →
          user.HasRoleOf required) ∧
        MadeBy user call) ∧
      ∀ userId : HeaderValue,
        Gateway.handle jwt route minted
            { request with headers := { request.headers with userId } } answers =
          Gateway.handle jwt route minted request answers :=
  ⟨fun _ handled _ issued => verified_of_handle handled issued,
    handle_withUserId jwt route minted request answers⟩

/-! A resident opens an order. -/

/-- A `JwtService` that knows one token. -/
def residentTokens : JwtService where
  verifyAsync token :=
    if token = "resident-token" then some ⟨"resident@propflow.example", some "tenant"⟩ else none
  sub_ne_empty := by
    intro token user verified
    split_ifs at verified
    cases verified
    decide

/-- `POST /api/work-orders`. -/
def WorkOrdersController.create : Route String String where
  handler := ⟨none, some [.tenant, .manager]⟩
  controller := ⟨none, none⟩
  calls := fun request _ =>
    if request.path = "/api/work-orders" then
      [⟨"/work-orders", "POST", some request.input⟩]
    else []
  guarded := by
    intro request answers called
    refine ⟨by decide, fun isMetrics => called (if_neg fun isCreate => ?_)⟩
    rw [isCreate] at isMetrics
    exact absurd isMetrics (by decide)

/-- The request, with this `x-request-id`. -/
def openTap (requestId : HeaderValue) : HttpRequest String where
  path := "/api/work-orders"
  input := Json.stringify (.obj [("title", .str leakingTap.title),
    ("description", .str leakingTap.description), ("propertyId", .str leakingTap.propertyId.text)])
  user := none
  headers := { requestId, userId := .absent }
  authorization := some "Bearer resident-token"

/-- An id that the middleware of the gateway draws, -/
def mintedAtGateway : MintedUuid := ⟨"00000000-0000-4000-8000-00000000000a", rfl⟩

/-- and one of the service. -/
def mintedAtService : MintedUuid := ⟨"00000000-0000-4000-8000-00000000000b", rfl⟩

/-- The one call that is made for the request. -/
theorem handle_openTap (requestId : HeaderValue) :
    ∃ call, Gateway.handle residentTokens WorkOrdersController.create mintedAtGateway
        (openTap requestId) [] = .ok [call] ∧
      call.headers =
        ⟨forwarded (some
            (requestContextMiddleware (openTap requestId).headers mintedAtGateway).requestId),
          .single "resident@propflow.example"⟩ :=
  ⟨_, rfl, rfl⟩

/-- The call is made in the name of the resident. -/
theorem identity_protected_openTap :
    ∃ call, Gateway.handle residentTokens WorkOrdersController.create mintedAtGateway
        (openTap .absent) [] = .ok [call] ∧
      ∃ token user, bearerToken (openTap .absent).authorization = some token ∧
        residentTokens.verifyAsync token = some user ∧
        (∀ required, WorkOrdersController.create.requiredRoles = some required → required ≠ [] →
          user.HasRoleOf required) ∧
        MadeBy user call := by
  obtain ⟨call, handled, -⟩ := handle_openTap .absent
  exact ⟨call, handled, (identity_protected residentTokens WorkOrdersController.create
    mintedAtGateway (openTap .absent) []).1 [call] handled call (List.mem_singleton_self call)⟩

end PropFlow
