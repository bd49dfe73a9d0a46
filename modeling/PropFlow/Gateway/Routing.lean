import PropFlow.Gateway.PassThrough
import PropFlow.Library.RoutePattern
import PropFlow.ListQueries

/-!
# Routes

The routes of the gateway, with their pipes and `@Roles`, and those of the work-orders
service behind them.

## The way of a request

A request is matched against the handlers of the gateway (`Gateway.receive`).  The handler
that it has checks the ids in the path, puts the path of a call together from a string
template and serialises the body that was parsed for it (`DownstreamRequest.post`,
`DownstreamRequest.patch`).  At the service that path is matched again, with the same UUID
check, the text of the body is parsed once more, and a DTO is made of it
(`Service.receive`).

* `JsonText` is the JSON of bodies, with its round trip: what `JSON.stringify` has written
  `JSON.parse` reads back, but for a number that is too large for a double, which arrives
  as `null`.
* `JsonText.readBody` is `express.json()`, which has a limit.
* `Gateway.arrived` is what therefore becomes of a body on its way.

## What comes of it

`Gateway.writes` is what the calls for a request make the service write, and
`Gateway.permittedWrite` what the client could have written at the service itself
(`Service.direct`), if a token was verified for it and its role permits that.
`gateway_is_service` says that these are the same: through the gateway, a client can do to
work orders what it could do at the service directly, less what its role does not permit, and
nothing else.

The proof goes handler by handler (`Gateway.writes_of_workOrders`, `Gateway.writes_of_other`),
and rests on two facts about the tables: at most one handler matches a request
(`RouteEntry.Apart`), and every handler of the service has its like at the gateway
(`Gateway.writes_of_none`).
-/

namespace PropFlow

open Library

/-- JSON, and the properties of what a body has been parsed to. -/
structure JsonText (Body : Type) extends JsonCodec Body where
  /-- What the pipe of a service sees of a body. -/
  properties : Body → RequestBody
  /-- What is written can be read, and has the properties that were written. -/
  parse_stringify : ∀ {body : Body} {text : String}, stringify body = some text →
    ∃ again, parse text = some again ∧ properties again = (properties body).resent

/-- The `limit` of `express.json()`: `'100kb'`. -/
def bodyLimit : ℕ := 100 * 1024

/-- The body that `express.json()` makes of a text, none if that is not JSON or too long. -/
def JsonText.readBody {Body : Type} (json : JsonText Body) (text : String) : Option RequestBody :=
  if text.utf8ByteSize ≤ bodyLimit then (json.parse text).map json.properties else none

/-- What the handlers of the gateway ask for, besides the parameters of the path. -/
structure GatewayInput (Body : Type) where
  /-- `@Query()` -/
  query : ParsedQuery
  /-- `@Body()`, if there is one -/
  body : Option Body

/-- A segment of a decorator's path. -/
def Segment.text (text : String) : Segment := .literal text.toList

/-! ## Pipes and DTOs -/

/-- `/^[0-9A-F]{8}-[0-9A-F]{4}-[0-9A-F]{4}-[0-9A-F]{4}-[0-9A-F]{12}$/i.test(text)`. -/
def IsUuidText (text : String) : Prop :=
  (text.toList.splitOn '-').map List.length = [8, 4, 4, 4, 12] ∧
    ∀ c ∈ text.toList, c = '-' ∨ (Json.hexValue c).isSome = true

instance : DecidablePred IsUuidText := fun _ => inferInstanceAs (Decidable (_ ∧ _))

/-- `ParseUUIDPipe.transform(value)`; none is its 400. -/
def ParseUUIDPipe.transform (value : String) : Option String :=
  if IsUuidText value then some value else none

/-- The uuid that Postgres reads. -/
def Uuid.ofText (text : String) : Uuid := ⟨String.ofList (text.toList.map Char.toLower)⟩

/-- The body, as an `AssignWorkOrderDto`. -/
def AssignWorkOrderDto.validate (validator : ClassValidator) (body : RequestBody) :
    Option Uuid := do
  guard (body.whitelisted ["assigneeId"])
  (isString (body.get "assigneeId")).bind validator.isUUID

/-- The body, as an `UpdateWorkOrderStatusDto`. -/
def UpdateWorkOrderStatusDto.validate (body : RequestBody) : Option WorkOrderStatus := do
  guard (body.whitelisted ["status"])
  isEnum WorkOrderStatus.members WorkOrderStatus.text (body.get "status")

/-! ## The clients -/

section Clients

variable {Body : Type} (json : JsonText Body)

/-- `this.get(path)`. -/
def DownstreamRequest.get (path : String) : DownstreamRequest := ⟨path, "GET", none⟩

/-- `this.post(path, body)`, none if `JSON.stringify` throws. -/
def DownstreamRequest.post (path : String) (body : Option Body) : Option DownstreamRequest :=
  (json.serialised body).map (⟨path, "POST", ·⟩)

/-- `this.patch(path, body)`, none if `JSON.stringify` throws. -/
def DownstreamRequest.patch (path : String) (body : Option Body) : Option DownstreamRequest :=
  (json.serialised body).map (⟨path, "PATCH", ·⟩)

namespace WorkOrdersClient

/-- `create(dto)`. -/
def create (body : Option Body) : Option DownstreamRequest :=
  DownstreamRequest.post json "/work-orders" body

/-- `list(query)`. -/
def list (query : ParsedQuery) : DownstreamRequest := .get (String.ofList (listPath query))

/-- `getById(id)`. -/
def getById (id : String) : DownstreamRequest := .get ("/work-orders/" ++ id)

/-- `assign(id, dto)`. -/
def assign (id : String) (body : Option Body) : Option DownstreamRequest :=
  DownstreamRequest.patch json ("/work-orders/" ++ id ++ "/assign") body

/-- `updateStatus(id, dto)`. -/
def updateStatus (id : String) (body : Option Body) : Option DownstreamRequest :=
  DownstreamRequest.patch json ("/work-orders/" ++ id ++ "/status") body

end WorkOrdersClient

namespace PropertiesClient

/-- `create(dto)`. -/
def create (body : Option Body) : Option DownstreamRequest :=
  DownstreamRequest.post json "/properties" body

/-- `list(query)`. -/
def list (query : ParsedQuery) : DownstreamRequest := .get (String.ofList (listPath query))

/-- `getById(id)`. -/
def getById (id : String) : DownstreamRequest := .get ("/properties/" ++ id)

end PropertiesClient

/-- `ActivityClient.list(query)`. -/
def ActivityClient.list (query : ParsedQuery) : DownstreamRequest :=
  .get (String.ofList (listPath query))

/-- The two calls of `getSummary(propertyId)`. -/
def PropertySummaryService.calls (propertyId : String) : List DownstreamRequest :=
  [PropertiesClient.getById propertyId,
    WorkOrdersClient.list
      ((ParsedQuery.empty.add ("propertyId", propertyId)).add ("limit", "50"))]

end Clients

/-! ## The controllers of the gateway -/

/-- `@Controller(…)`. -/
inductive Resource where
  /-- `work-orders` -/
  | workOrders
  /-- `properties` -/
  | properties
  /-- `activity` -/
  | activity
deriving DecidableEq, Repr

/-- The path of a controller. -/
def Resource.text : Resource → String
  | .workOrders => "work-orders"
  | .properties => "properties"
  | .activity => "activity"

/-- `setGlobalPrefix('api')`. -/
def globalPrefix : List Char := "api".toList

/-- The pattern of a handler: the prefix, the path of its controller, and its own. -/
def Resource.pattern (resource : Resource) (path : RoutePattern) : RoutePattern :=
  .literal globalPrefix :: Segment.text resource.text :: path

/-- No route of a resource is a metrics path. -/
theorem Resource.matchPath_metrics (resource : Resource) (path : RoutePattern) :
    ∀ metrics ∈ metricsPaths, (resource.pattern path).matchPath metrics.toList = none := by
  simp only [metricsPaths, List.forall_mem_cons]
  cases resource with
  | workOrders => exact ⟨rfl, rfl, nofun⟩
  | properties => exact ⟨rfl, rfl, nofun⟩
  | activity => exact ⟨rfl, rfl, nofun⟩

section Routes

variable {Body Answer : Type}

/-- A handler: its decorators, and the calls it issues, none if a pipe or `JSON.stringify`
has thrown. -/
def Resource.handler (resource : Resource) (method : String) (path : RoutePattern)
    (roles : Option (List UserRole))
    (calls : List String → GatewayInput Body → Option (List DownstreamRequest)) :
    RouteEntry (Route (GatewayInput Body) Answer) where
  method := method
  pattern := resource.pattern path
  handler :=
    { handler := ⟨none, roles⟩
      controller := ⟨none, none⟩
      calls := fun request _ =>
        ((((resource.pattern path).matchPath request.path.toList).bind
          (·.mapM UriComponent.decode)).bind (calls · request.input)).getD []
      guarded := by
        intro request answers called
        refine ⟨by simp [getAllAndOverride], fun metrics => called ?_⟩
        rw [resource.matchPath_metrics path _ metrics]
        rfl }

namespace Gateway

variable (json : JsonText Body)

/-- `@Post()`, for tenants and managers. -/
def WorkOrdersController.create : RouteEntry (Route (GatewayInput Body) Answer) :=
  Resource.workOrders.handler "POST" [] (some [.tenant, .manager]) fun _ input => do
    let request ← WorkOrdersClient.create json input.body
    return [request]

/-- `@Get()`, for everybody who is logged in. -/
def WorkOrdersController.list : RouteEntry (Route (GatewayInput Body) Answer) :=
  Resource.workOrders.handler "GET" [] none fun _ input => some [WorkOrdersClient.list input.query]

/-- `@Get(':id')`. -/
def WorkOrdersController.getById : RouteEntry (Route (GatewayInput Body) Answer) :=
  Resource.workOrders.handler "GET" [.param] none fun args _ => do
    let id ← args.head?.bind ParseUUIDPipe.transform
    return [WorkOrdersClient.getById id]

/-- `@Patch(':id/assign')`, for managers. -/
def WorkOrdersController.assign : RouteEntry (Route (GatewayInput Body) Answer) :=
  Resource.workOrders.handler "PATCH" [.param, Segment.text "assign"] (some [.manager])
    fun args input => do
      let id ← args.head?.bind ParseUUIDPipe.transform
      let request ← WorkOrdersClient.assign json id input.body
      return [request]

/-- `@Patch(':id/status')`, for technicians and managers. -/
def WorkOrdersController.updateStatus : RouteEntry (Route (GatewayInput Body) Answer) :=
  Resource.workOrders.handler "PATCH" [.param, Segment.text "status"]
    (some [.technician, .manager]) fun args input => do
      let id ← args.head?.bind ParseUUIDPipe.transform
      let request ← WorkOrdersClient.updateStatus json id input.body
      return [request]

/-- `@Post()`, for managers. -/
def PropertiesController.create : RouteEntry (Route (GatewayInput Body) Answer) :=
  Resource.properties.handler "POST" [] (some [.manager]) fun _ input => do
    let request ← PropertiesClient.create json input.body
    return [request]

/-- `@Get()`. -/
def PropertiesController.list : RouteEntry (Route (GatewayInput Body) Answer) :=
  Resource.properties.handler "GET" [] none fun _ input => some [PropertiesClient.list input.query]

/-- `@Get(':id')`. -/
def PropertiesController.getById : RouteEntry (Route (GatewayInput Body) Answer) :=
  Resource.properties.handler "GET" [.param] none fun args _ => do
    let id ← args.head?.bind ParseUUIDPipe.transform
    return [PropertiesClient.getById id]

/-- `@Get(':id/summary')`, beside the routes of the properties. -/
def PropertySummaryController.getSummary : RouteEntry (Route (GatewayInput Body) Answer) :=
  Resource.properties.handler "GET" [.param, Segment.text "summary"] none fun args _ => do
    let id ← args.head?.bind ParseUUIDPipe.transform
    return PropertySummaryService.calls id

/-- `@Get()`, for managers. -/
def ActivityController.list : RouteEntry (Route (GatewayInput Body) Answer) :=
  Resource.activity.handler "GET" [] (some [.manager]) fun _ input =>
    some [ActivityClient.list input.query]

/-- The controllers of `GatewayModule`. -/
def routes : List (RouteEntry (Route (GatewayInput Body) Answer)) :=
  [ PropertySummaryController.getSummary,
    WorkOrdersController.create json, WorkOrdersController.list, WorkOrdersController.getById,
    WorkOrdersController.assign json, WorkOrdersController.updateStatus json,
    PropertiesController.create json, PropertiesController.list, PropertiesController.getById,
    ActivityController.list ]

/-- The calls that a request leads to, with the answers it has had so far. -/
def receive (jwt : JwtService) (minted : MintedUuid) (method : String)
    (request : HttpRequest (GatewayInput Body)) (answers : List Answer) : List DownstreamCall :=
  match RouteEntry.dispatch (routes json) method request.path.toList with
  | none => []
  | some (route, _) => (handle jwt route minted request answers).toOption.getD []

end Gateway

end Routes

/-! ## The controller of the service -/

namespace Service

variable {Body : Type} (validator : ClassValidator) (json : JsonText Body)

/-- What a handler of the service makes of its arguments: the call that writes, if it is one. -/
abbrev Handler := List String → Option RequestBody → Option Call

/-- A handler of the service's controller, `@Controller('work-orders')`. -/
def entry (method : String) (path : RoutePattern) (handler : Handler) : RouteEntry Handler :=
  ⟨method, Segment.text "work-orders" :: path, handler⟩

/-- `@Post()`. -/
def WorkOrdersController.create : RouteEntry Handler :=
  entry "POST" [] fun _ body => do
    let dto ← body.bind (CreateWorkOrderDto.validate validator)
    return .create dto

/-- `@Get()`, which writes nothing. -/
def WorkOrdersController.findAll : RouteEntry Handler := entry "GET" [] fun _ _ => none

/-- `@Get(':id')`, which writes nothing. -/
def WorkOrdersController.findOne : RouteEntry Handler := entry "GET" [.param] fun _ _ => none

/-- `@Patch(':id/assign')`. -/
def WorkOrdersController.assign : RouteEntry Handler :=
  entry "PATCH" [.param, Segment.text "assign"] fun args body => do
    let id ← args.head?.bind ParseUUIDPipe.transform
    let assigneeId ← body.bind (AssignWorkOrderDto.validate validator)
    return .assign (.ofText id) assigneeId

/-- `@Patch(':id/status')`. -/
def WorkOrdersController.updateStatus : RouteEntry Handler :=
  entry "PATCH" [.param, Segment.text "status"] fun args body => do
    let id ← args.head?.bind ParseUUIDPipe.transform
    let status ← body.bind UpdateWorkOrderStatusDto.validate
    return .updateStatus (.ofText id) status

/-- The routes of the service, in the order in which they are registered. -/
def routes : List (RouteEntry Handler) :=
  [ WorkOrdersController.create validator, WorkOrdersController.findAll,
    WorkOrdersController.findOne, WorkOrdersController.assign validator,
    WorkOrdersController.updateStatus ]

/-- The call that a request leads to, if it is one that writes. -/
def write (method : String) (path : List Char) (body : Option RequestBody) : Option Call :=
  (RouteEntry.dispatch (routes validator) method path).bind fun found => found.1 found.2 body

/-- The same, of a request of the gateway. -/
def receive (request : DownstreamRequest) : Option Call :=
  write validator request.method (request.path.toList.takeWhile (· ≠ '?'))
    (request.body.bind json.readBody)

end Service

/-! ## What the service makes of a request -/

/-- A UUID has nothing in it that a path would be split or decoded at. -/
theorem IsUuidText.notMem {text : String} (isUuid : IsUuidText text) :
    text.toList ≠ [] ∧ '/' ∉ text.toList ∧ '%' ∉ text.toList ∧ '?' ∉ text.toList := by
  have absent : ∀ c, c ≠ '-' → Json.hexValue c = none → c ∉ text.toList := by
    intro c notDash notHex member
    rcases isUuid.2 c member with dash | hex
    · exact notDash dash
    · rw [notHex] at hex
      cases hex
  refine ⟨fun empty => ?_, absent '/' (by decide) (by decide), absent '%' (by decide) (by decide),
    absent '?' (by decide) (by decide)⟩
  have shape := isUuid.1
  rw [empty] at shape
  exact absurd shape (by decide)

/-- The pipe lets UUIDs through, and as they are. -/
theorem ParseUUIDPipe.transform_eq_some {value id : String} :
    transform value = some id ↔ value = id ∧ IsUuidText id := by
  unfold transform
  split_ifs with isUuid
  · rw [Option.some.injEq]
    exact ⟨fun same => ⟨same, same ▸ isUuid⟩, And.left⟩
  · exact iff_of_false nofun fun ⟨same, isUuid'⟩ => isUuid (same ▸ isUuid')

namespace Service

variable {Body : Type} {validator : ClassValidator} {json : JsonText Body}
  {method : String} {path : List Char} {body : Option RequestBody}

/-- At most one handler of the service matches a request. -/
theorem apart (validator : ClassValidator) : (routes validator).Pairwise RouteEntry.Apart :=
  of_decide_eq_true rfl

/-- All routes of the service start with its path. -/
theorem exists_pattern {entry : RouteEntry Handler}
    (member : entry ∈ routes validator) :
    ∃ rest, entry.pattern = Segment.text "work-orders" :: rest := by
  simp only [routes, List.mem_cons, List.not_mem_nil, or_false] at member
  rcases member with rfl | rfl | rfl | rfl | rfl <;> exact ⟨_, rfl⟩

/-- Which handler writes, if one matches. -/
theorem write_of_receive {entry : RouteEntry Handler}
    (member : entry ∈ routes validator) {matched : List (List Char)} {args : List String}
    (received : entry.receive method path = some matched)
    (decoded : matched.mapM UriComponent.decode = some args) :
    write validator method path body = entry.handler args body := by
  have found := (RouteEntry.dispatch_eq_some_iff (apart validator)).mpr
    ⟨entry, member, rfl, matched, received, decoded⟩
  rw [write, found]
  rfl

/-- Where a call comes from. -/
theorem exists_of_write {call : Call} (wrote : write validator method path body = some call) :
    ∃ entry ∈ routes validator, ∃ matched args, entry.receive method path = some matched ∧
      matched.mapM UriComponent.decode = some args ∧ entry.handler args body = some call := by
  obtain ⟨⟨handler, args⟩, found, made⟩ := Option.bind_eq_some_iff.mp wrote
  obtain ⟨entry, member, rfl, matched, received, decoded⟩ :=
    (RouteEntry.dispatch_eq_some_iff (apart validator)).mp found
  exact ⟨entry, member, matched, args, received, decoded, made⟩

/-- A `GET` writes nothing. -/
theorem receive_get (path : String) : receive validator json (.get path) = none := by
  cases wrote : receive validator json (.get path) with
  | none => rfl
  | some call =>
      obtain ⟨entry, member, matched, args, received, -, made⟩ := exists_of_write wrote
      have isGet : entry.method = "GET" := by
        unfold RouteEntry.receive at received
        split_ifs at received with here
        exact here
      simp only [routes, List.mem_cons, List.not_mem_nil, or_false] at member
      rcases member with rfl | rfl | rfl | rfl | rfl
      · exact absurd (show "POST" = "GET" from isGet) (by decide)
      · cases made
      · cases made
      · exact absurd (show "PATCH" = "GET" from isGet) (by decide)
      · exact absurd (show "PATCH" = "GET" from isGet) (by decide)

/-- An id in a path arrives as it is. -/
theorem receive_patch {entry : RouteEntry Handler} {verb suffix : String}
    (member : entry ∈ routes validator) (isPatch : entry.method = "PATCH")
    (isPattern : entry.pattern = [Segment.text "work-orders", .param, Segment.text verb])
    (plain : verb.toList ≠ [] ∧ '/' ∉ verb.toList ∧ '?' ∉ suffix.toList)
    (isSuffix : suffix.toList = '/' :: verb.toList) {id : String} (isUuid : IsUuidText id)
    (body : Option String) :
    receive validator json ⟨"/work-orders/" ++ id ++ suffix, "PATCH", body⟩ =
      entry.handler [id] (body.bind json.readBody) := by
  obtain ⟨some_, noSlash, noCode, noQuery⟩ := isUuid.notMem
  have isPath : ("/work-orders/" ++ id ++ suffix).toList =
      RoutePattern.path entry.pattern [id.toList] := by
    rw [isPattern]
    simp [RoutePattern.path, RoutePattern.fill, Segment.text, List.intercalate, isSuffix]
  have whole : ("/work-orders/" ++ id ++ suffix).toList.takeWhile (· ≠ '?') =
      ("/work-orders/" ++ id ++ suffix).toList := by
    refine List.takeWhile_eq_self_iff.mpr fun c inside => decide_eq_true fun same => ?_
    subst same
    simp only [String.toList_append, List.mem_append] at inside
    rcases inside with (front | inId) | inSuffix
    · exact absurd front (by decide)
    · exact noQuery inId
    · exact plain.2.2 inSuffix
  have literals : RoutePattern.IsPlain (RoutePattern.literals entry.pattern) := by
    rw [isPattern]
    exact List.forall_mem_cons.mpr ⟨by decide, List.forall_mem_singleton.mpr ⟨plain.1, plain.2.1⟩⟩
  have matched : entry.pattern.matchPath (entry.pattern.path [id.toList]) = some [id.toList] :=
    RoutePattern.matchPath_path (by rw [isPattern]; exact List.cons_ne_nil _ _)
      (by rw [isPattern]; rfl) literals (List.forall_mem_singleton.mpr ⟨some_, noSlash⟩)
  have received : entry.receive "PATCH" (("/work-orders/" ++ id ++ suffix).toList.takeWhile
      (· ≠ '?')) = some [id.toList] := by
    rw [RouteEntry.receive, whole, isPath, if_pos (isPatch.trans (by decide)), matched]
  have decoded : [id.toList].mapM UriComponent.decode = some [id] := by
    rw [List.mapM_cons, UriComponent.decode_of_notMem noCode]
    rfl
  exact write_of_receive member received decoded

/-- The call that a client's request to the gateway is about, roles aside. -/
def direct (validator : ClassValidator) (method : String) (path : List Char)
    (body : Option RequestBody) : Option Call :=
  (RoutePattern.dropPrefix globalPrefix path).bind fun path =>
    write validator method path body

/-- An entry of the service, behind the prefix. -/
theorem matchPath_pattern (entry : RouteEntry Handler) (path : List Char)
    (some_ : entry.pattern ≠ []) :
    RoutePattern.matchPath (.literal globalPrefix :: entry.pattern) path =
      (RoutePattern.dropPrefix globalPrefix path).bind entry.pattern.matchPath :=
  RoutePattern.matchPath_literal some_ globalPrefix path

/-- The same for a request at the service itself. -/
theorem direct_of_receive {entry : RouteEntry Handler}
    (member : entry ∈ routes validator) (isMethod : entry.method = RouteEntry.handledAs method)
    (some_ : entry.pattern ≠ []) {matched : List (List Char)} {args : List String}
    (received : RoutePattern.matchPath (.literal globalPrefix :: entry.pattern) path = some matched)
    (decoded : matched.mapM UriComponent.decode = some args) :
    direct validator method path body = entry.handler args body := by
  rw [matchPath_pattern entry path some_] at received
  obtain ⟨rest, isRest, received⟩ := Option.bind_eq_some_iff.mp received
  rw [direct, isRest]
  exact write_of_receive member ((if_pos isMethod).trans received) decoded

/-- Nothing is written but by a handler that matches. -/
theorem exists_of_direct {call : Call}
    (wrote : direct validator method path body = some call) :
    ∃ entry ∈ routes validator, ∃ matched args,
      entry.method = RouteEntry.handledAs method ∧
      RoutePattern.matchPath (.literal globalPrefix :: entry.pattern) path = some matched ∧
      matched.mapM UriComponent.decode = some args ∧ entry.handler args body = some call := by
  obtain ⟨rest, isRest, wrote⟩ := Option.bind_eq_some_iff.mp wrote
  obtain ⟨entry, member, matched, args, received, decoded, made⟩ := exists_of_write wrote
  unfold RouteEntry.receive at received
  split_ifs at received with isMethod
  refine ⟨entry, member, matched, args, isMethod, ?_, decoded, made⟩
  obtain ⟨others, pattern⟩ := exists_pattern member
  rw [matchPath_pattern entry path (by rw [pattern]; exact List.cons_ne_nil _ _), isRest]
  exact received

end Service

/-! ## What the gateway lets through -/

/-- The user that the guard finds. -/
def HttpRequest.verifiedUser {Input : Type} (jwt : JwtService) (request : HttpRequest Input) :
    Option AuthenticatedUser :=
  (bearerToken request.authorization).bind jwt.verifyAsync

/-- `RolesGuard`, of the roles of a handler. -/
def Permits (roles : Option (List UserRole)) (user : AuthenticatedUser) : Prop :=
  roles.getD [] = [] ∨ user.HasRoleOf (roles.getD [])

instance (roles : Option (List UserRole)) (user : AuthenticatedUser) :
    Decidable (Permits roles user) :=
  inferInstanceAs (Decidable (_ ∨ _))

/-- The roles whose users may write this. -/
def Call.permittedRoles : Call → List UserRole
  | .create _ => [.tenant, .manager]
  | .assign _ _ => [.manager]
  | .updateStatus _ _ => [.technician, .manager]
  | .applyTriage _ _ => []

section Guards

variable {Body Answer : Type} {jwt : JwtService} {minted : MintedUuid}
  {request : HttpRequest (GatewayInput Body)} {answers : List Answer}

/-- What the second guard lets through, -/
theorem RolesGuard.canActivate_eq {Input : Type} {route : Route Input Answer}
    {request : HttpRequest Input} {user : AuthenticatedUser} (isUser : request.user = some user)
    (notPublic : getAllAndOverride Metadata.isPublic route.handler route.controller ≠ some true) :
    (RolesGuard.canActivate route request).toOption =
      if Permits route.requiredRoles user then some () else none := by
  unfold RolesGuard.canActivate Permits
  rw [if_neg notPublic]
  cases route.requiredRoles with
  | none => rfl
  | some required =>
      cases required with
      | nil => rfl
      | cons role rest =>
          rw [isUser]
          simp only [Option.getD_some, List.cons_ne_nil, false_or]
          split_ifs <;> rfl

/-- and the first one, on a path that is guarded. -/
theorem JwtAuthGuard.canActivate_eq {Input : Type} {route : Route Input Answer}
    {request : HttpRequest Input} {store : Option RequestContext}
    (notPublic : getAllAndOverride Metadata.isPublic route.handler route.controller ≠ some true)
    (notMetrics : request.path ∉ metricsPaths) :
    (JwtAuthGuard.canActivate jwt route request store).toOption =
      (request.verifiedUser jwt).map fun user =>
        ({ request with user := some user }, setCurrentUserId user.sub store) := by
  unfold JwtAuthGuard.canActivate HttpRequest.verifiedUser
  rw [if_neg notPublic, if_neg notMetrics]
  cases bearerToken request.authorization with
  | none => rfl
  | some token =>
      simp only [Option.bind_some]
      cases jwt.verifyAsync token <;> rfl

/-- Which of two steps has thrown does not matter here. -/
theorem toOption_bind {ε α β : Type} (x : Except ε α) (f : α → Except ε β) :
    (x >>= f).toOption = x.toOption.bind fun a => (f a).toOption := by
  cases x <;> rfl

/-- A handler issues its calls for users with one of its roles. -/
theorem handle_handler {resource : Resource} {method : String} {path : RoutePattern}
    {roles : Option (List UserRole)}
    {calls : List String → GatewayInput Body → Option (List DownstreamRequest)}
    {matched : List (List Char)} {args : List String}
    (received : (resource.pattern path).matchPath request.path.toList = some matched)
    (decoded : matched.mapM UriComponent.decode = some args) :
    (Gateway.handle jwt (resource.handler method path roles calls).handler minted request
        answers).toOption =
      (request.verifiedUser jwt).bind fun user =>
        if Permits roles user then
          some (((calls args request.input).getD []).map (DownstreamClient.call
            (setCurrentUserId user.sub (some (requestContextMiddleware request.headers minted)))))
        else none := by
  have notMetrics : request.path ∉ metricsPaths := fun isMetrics => by
    rw [resource.matchPath_metrics path _ isMetrics] at received
    cases received
  let route : Route (GatewayInput Body) Answer := (resource.handler method path roles calls).handler
  have notPublic : getAllAndOverride Metadata.isPublic route.handler route.controller ≠ some true :=
    nofun
  have required : route.requiredRoles = roles := by
    cases roles <;> rfl
  -- no handler looks at the user
  have issued : ∀ user : Option AuthenticatedUser,
      route.calls { request.toHandlerInput with user } answers =
        (calls args request.input).getD [] := by
    intro user
    show ((((resource.pattern path).matchPath request.path.toList).bind _).bind _).getD [] = _
    rw [received, Option.bind_some, decoded]
    rfl
  show (Gateway.handle jwt route minted request answers).toOption = _
  unfold Gateway.handle
  simp only [toOption_bind, JwtAuthGuard.canActivate_eq notPublic notMetrics]
  cases request.verifiedUser jwt with
  | none => rfl
  | some user =>
      rw [Option.map_some, Option.bind_some, Option.bind_some,
        RolesGuard.canActivate_eq rfl notPublic, required]
      by_cases permitted : Permits roles user
      · rw [if_pos permitted, if_pos permitted, Option.bind_some]
        exact congrArg some (congrArg (List.map _) (issued (some user)))
      · rw [if_neg permitted, if_neg permitted, Option.bind_none]

end Guards

namespace Gateway

variable {Body Answer : Type} {validator : ClassValidator} {json : JsonText Body}

/-- At most one handler of the gateway matches a request. -/
theorem apart (json : JsonText Body) :
    (@routes Body Answer json).Pairwise RouteEntry.Apart := of_decide_eq_true rfl

/-- The body as it arrives at the service, if it can be serialised and is not too long then: a
number too large for a double is `null` there. -/
def arrived (json : JsonText Body) (body : Option Body) : Option RequestBody := do
  let body ← body
  let text ← json.stringify body
  if text.utf8ByteSize ≤ bodyLimit then return (json.properties body).resent else none

/-- What is serialised is what arrives. -/
theorem readBody_of_serialised {body : Option Body} {text : Option String}
    (serialised : json.serialised body = some text) :
    text.bind json.readBody = arrived json body := by
  cases body with
  | none =>
      cases serialised
      rfl
  | some body =>
      obtain ⟨written, stringified, rfl⟩ := Option.map_eq_some_iff.mp serialised
      obtain ⟨again, parsed, sameProperties⟩ := json.parse_stringify stringified
      simp only [arrived, JsonText.readBody, Option.bind_some, Option.bind_eq_bind, stringified,
        parsed, Option.map_some, sameProperties, Option.pure_def]

/-- What cannot be serialised does not arrive. -/
theorem arrived_of_serialised_none {body : Option Body} (thrown : json.serialised body = none) :
    arrived json body = none := by
  cases body with
  | none => cases thrown
  | some body =>
      have unwritten : json.stringify body = none := Option.map_eq_none_iff.mp thrown
      simp only [arrived, Option.bind_eq_bind, Option.bind_some, unwritten, Option.bind_none]

/-- What a request comes to at the service. -/
def writes (validator : ClassValidator) (json : JsonText Body) (jwt : JwtService)
    (minted : MintedUuid) (method : String) (request : HttpRequest (GatewayInput Body))
    (answers : List Answer) : List Call :=
  (receive json jwt minted method request answers).filterMap fun call =>
    Service.receive validator json call.toDownstreamRequest

/-- What the client could write at the service itself, if its role permits that. -/
def permittedWrite (validator : ClassValidator) (json : JsonText Body) (jwt : JwtService)
    (method : String) (request : HttpRequest (GatewayInput Body)) : Option Call :=
  (request.verifiedUser jwt).bind fun user =>
    (Service.direct validator method request.path.toList
      (arrived json request.input.body)).filter fun call => user.HasRoleOf call.permittedRoles

section Writes

variable {jwt : JwtService} {minted : MintedUuid} {method : String}
  {request : HttpRequest (GatewayInput Body)} {answers : List Answer}

/-- One handler, of which it is known what its calls write. -/
theorem writes_of_handler {resource : Resource} {verb : String} {path : RoutePattern}
    {roles : Option (List UserRole)}
    {calls : List String → GatewayInput Body → Option (List DownstreamRequest)}
    {matched : List (List Char)} {args : List String}
    (member : resource.handler verb path roles calls ∈ @routes Body Answer json)
    (isMethod : verb = RouteEntry.handledAs method)
    (received : (resource.pattern path).matchPath request.path.toList = some matched)
    (decoded : matched.mapM UriComponent.decode = some args) {direct : Option Call}
    (issued : ((calls args request.input).getD []).filterMap (Service.receive validator json) =
      direct.toList)
    (permitted : ∀ call, direct = some call →
      call.permittedRoles ≠ [] ∧ roles = some call.permittedRoles) :
    writes validator json jwt minted method request answers =
      ((request.verifiedUser jwt).bind fun user =>
        direct.filter fun call => user.HasRoleOf call.permittedRoles).toList := by
  have isReceived : RouteEntry.receive method request.path.toList
      (resource.handler verb path roles calls :
        RouteEntry (Route (GatewayInput Body) Answer)) = some matched := by
    unfold RouteEntry.receive
    exact (if_pos isMethod).trans received
  -- no other route of the table matches, whatever their order
  have found := (RouteEntry.dispatch_eq_some_iff (apart json)).mpr
    ⟨_, member, rfl, matched, isReceived, decoded⟩
  rw [writes, receive, found]
  simp only [handle_handler received decoded]
  cases request.verifiedUser jwt with
  | none => rfl
  | some user =>
      -- the context adds headers, and the service decides by method, path and body
      have onward : ∀ store (downstream : List DownstreamRequest),
          ((downstream.map (DownstreamClient.call store)).filterMap fun call =>
            Service.receive validator json call.toDownstreamRequest) =
              downstream.filterMap (Service.receive validator json) :=
        fun store downstream => List.filterMap_map
      rw [Option.bind_some, Option.bind_some]
      cases direct with
      | none =>
          by_cases allowed : Permits roles user
          · rw [if_pos allowed, Option.getD_some, onward, issued]
            rfl
          · rw [if_neg allowed]
            rfl
      | some call =>
          obtain ⟨someRole, rfl⟩ := permitted call rfl
          by_cases isMember : user.HasRoleOf call.permittedRoles
          · have allowed : Permits (some call.permittedRoles) user := Or.inr isMember
            rw [if_pos allowed, Option.getD_some, onward, issued, Option.filter_some,
              decide_eq_true isMember, if_pos rfl]
          · have refused : ¬ Permits (some call.permittedRoles) user :=
              fun allowed => allowed.elim someRole isMember
            rw [if_neg refused, Option.filter_some, decide_eq_false isMember]
            rfl

/-- A handler for work orders, and the one of the service that its calls are for. -/
theorem writes_of_workOrders {entry : RouteEntry Service.Handler}
    (inService : entry ∈ Service.routes validator) {path : RoutePattern}
    {roles : Option (List UserRole)}
    {calls : List String → GatewayInput Body → Option (List DownstreamRequest)}
    {matched : List (List Char)} {args : List String}
    (member : Resource.workOrders.handler entry.method path roles calls ∈
      @routes Body Answer json)
    (pattern : entry.pattern = Segment.text "work-orders" :: path)
    (isMethod : entry.method = RouteEntry.handledAs method)
    (received : (Resource.workOrders.pattern path).matchPath request.path.toList = some matched)
    (decoded : matched.mapM UriComponent.decode = some args)
    (issued : ((calls args request.input).getD []).filterMap (Service.receive validator json) =
      (entry.handler args (arrived json request.input.body)).toList)
    (permitted : ∀ call, entry.handler args (arrived json request.input.body) = some call →
      call.permittedRoles ≠ [] ∧ roles = some call.permittedRoles) :
    writes validator json jwt minted method request answers =
      (permittedWrite validator json jwt method request).toList := by
  have some_ : entry.pattern ≠ [] := by
    rw [pattern]
    exact List.cons_ne_nil _ _
  rw [permittedWrite, Service.direct_of_receive inService isMethod some_
    (by rw [pattern]; exact received) decoded]
  exact writes_of_handler member isMethod received decoded issued permitted

/-- The service has no handlers for anything else. -/
theorem direct_eq_none {resource : Resource} (other : resource ≠ .workOrders)
    (body : Option RequestBody)
    {path : RoutePattern} {matched : List (List Char)}
    (received : (resource.pattern path).matchPath request.path.toList = some matched) :
    Service.direct validator method request.path.toList body = none := by
  cases wrote : Service.direct validator method request.path.toList body with
  | none => rfl
  | some call =>
      obtain ⟨entry, member, matched', args, -, received', -, -⟩ := Service.exists_of_direct wrote
      obtain ⟨rest, pattern⟩ := Service.exists_pattern member
      have apart : RoutePattern.Apart (resource.pattern path)
          (.literal globalPrefix :: entry.pattern) := by
        rw [pattern]
        cases resource with
        | workOrders => exact absurd rfl other
        | properties => exact Or.inr (Or.inl (by decide))
        | activity => exact Or.inr (Or.inl (by decide))
      rw [RoutePattern.matchPath_eq_none_of_apart apart (by rw [received]; rfl)] at received'
      cases received'

/-- A handler for anything else. -/
theorem writes_of_other {resource : Resource} (other : resource ≠ .workOrders) {verb : String}
    {path : RoutePattern} {roles : Option (List UserRole)}
    {calls : List String → GatewayInput Body → Option (List DownstreamRequest)}
    {matched : List (List Char)} {args : List String}
    (member : resource.handler verb path roles calls ∈ @routes Body Answer json)
    (isMethod : verb = RouteEntry.handledAs method)
    (received : (resource.pattern path).matchPath request.path.toList = some matched)
    (decoded : matched.mapM UriComponent.decode = some args)
    (issued : ((calls args request.input).getD []).filterMap (Service.receive validator json) =
      []) :
    writes validator json jwt minted method request answers =
      (permittedWrite validator json jwt method request).toList := by
  rw [permittedWrite, direct_eq_none other _ received]
  exact writes_of_handler member isMethod received decoded issued (fun _ none_ => nomatch none_)

/-- One call, one write at most. -/
theorem filterMap_singleton {α β : Type} (f : α → Option β) (a : α) :
    [a].filterMap f = (f a).toList := by
  cases made : f a <;> simp [made]

/-- Calls that only read. -/
theorem filterMap_get (calls : Option (List DownstreamRequest))
    (reads : ∀ requests, calls = some requests → ∀ r ∈ requests, ∃ path, r = .get path) :
    (calls.getD []).filterMap (Service.receive validator json) = [] := by
  cases calls with
  | none => rfl
  | some requests =>
      refine List.filterMap_eq_nil_iff.mpr fun r member => ?_
      obtain ⟨path, rfl⟩ := reads requests rfl r member
      exact Service.receive_get path

/-- A handler that gets one path only reads, -/
theorem reads_one (path : String) : ∀ requests, some [DownstreamRequest.get path] = some requests →
    ∀ r ∈ requests, ∃ path, r = .get path := by
  intro requests same
  cases same
  exact List.forall_mem_singleton.mpr ⟨path, rfl⟩

/-- and so does one that gets some paths with an id. -/
theorem reads_id {args : List String} {requests : String → List DownstreamRequest}
    (reads : ∀ id, ∀ r ∈ requests id, ∃ path, r = .get path) :
    ∀ made, (args.head?.bind ParseUUIDPipe.transform).bind (fun id => some (requests id)) =
      some made → ∀ r ∈ made, ∃ path, r = .get path := by
  intro made issued
  obtain ⟨id, -, same⟩ := Option.bind_eq_some_iff.mp issued
  cases same
  exact reads id

/-- `POST /properties` is not for the work-orders service. -/
theorem receive_properties (body : Option String) :
    Service.receive validator json ⟨"/properties", "POST", body⟩ = none := by
  cases wrote : Service.receive validator json ⟨"/properties", "POST", body⟩ with
  | none => rfl
  | some call =>
      obtain ⟨entry, member, matched, args, received, -, -⟩ := Service.exists_of_write wrote
      obtain ⟨rest, pattern⟩ := Service.exists_pattern member
      have plain : "/properties".toList.takeWhile (· ≠ '?') = "/properties".toList := by decide
      have none_ : RoutePattern.matchPath (Segment.text "work-orders" :: rest)
          "/properties".toList = none := rfl
      unfold RouteEntry.receive at received
      split_ifs at received
      rw [pattern, plain, none_] at received
      cases received

/-- `POST /work-orders` is what it was at the gateway. -/
theorem receive_workOrders (body : Option String) (args : List String) :
    Service.receive validator json ⟨"/work-orders", "POST", body⟩ =
      (Service.WorkOrdersController.create validator).handler args
        (body.bind json.readBody) := by
  have plain : "/work-orders".toList.takeWhile (· ≠ '?') = "/work-orders".toList := by decide
  have received : (Service.WorkOrdersController.create validator).receive "POST"
      "/work-orders".toList = some [] := rfl
  have decoded : ([] : List (List Char)).mapM UriComponent.decode = some [] := rfl
  rw [Service.receive, plain]
  exact (Service.write_of_receive List.mem_cons_self received decoded).trans rfl

/-- A call with a body, and what is made of that where it arrives. -/
theorem filterMap_serialised {body : Option Body} {make : Option String → DownstreamRequest}
    (handler : Option RequestBody → Option Call) (needsBody : handler none = none)
    (received : ∀ text,
      Service.receive validator json (make text) = handler (text.bind json.readBody)) :
    ((((json.serialised body).map make).bind fun request => some [request]).getD []).filterMap
        (Service.receive validator json) =
      (handler (arrived json body)).toList := by
  cases serialised : json.serialised body with
  | none =>
      rw [arrived_of_serialised_none serialised, needsBody]
      rfl
  | some text =>
      rw [Option.map_some, Option.bind_some, Option.getD_some, filterMap_singleton, received,
        readBody_of_serialised serialised]

/-- A `PATCH` with an id. -/
theorem filterMap_patch {entry : RouteEntry Service.Handler} {verb suffix : String}
    (member : entry ∈ Service.routes validator) (isPatch : entry.method = "PATCH")
    (isPattern : entry.pattern = [Segment.text "work-orders", .param, Segment.text verb])
    (plain : verb.toList ≠ [] ∧ '/' ∉ verb.toList ∧ '?' ∉ suffix.toList)
    (isSuffix : suffix.toList = '/' :: verb.toList)
    {make : String → Option RequestBody → Option Call} (needsBody : ∀ id, make id none = none)
    (isHandler : ∀ args body, entry.handler args body =
      (args.head?.bind ParseUUIDPipe.transform).bind fun id => make id body)
    (body : Option Body) (args : List String) :
    (((args.head?.bind ParseUUIDPipe.transform).bind fun id =>
        (DownstreamRequest.patch json ("/work-orders/" ++ id ++ suffix) body).bind
          fun request => some [request]).getD []).filterMap (Service.receive validator json) =
        (entry.handler args (arrived json body)).toList := by
  cases parsed : args.head?.bind ParseUUIDPipe.transform with
  | none =>
      rw [isHandler, parsed]
      rfl
  | some id =>
      obtain ⟨value, -, transformed⟩ := Option.bind_eq_some_iff.mp parsed
      have isUuid := (ParseUUIDPipe.transform_eq_some.mp transformed).2
      have again : ParseUUIDPipe.transform id = some id :=
        ParseUUIDPipe.transform_eq_some.mpr ⟨rfl, isUuid⟩
      rw [isHandler, parsed, Option.bind_some, Option.bind_some]
      refine filterMap_serialised (make id) (needsBody id) fun text => ?_
      have received : Service.receive validator json
          ⟨"/work-orders/" ++ id ++ suffix, "PATCH", text⟩ =
            entry.handler [id] (text.bind json.readBody) :=
        Service.receive_patch member isPatch isPattern plain isSuffix isUuid text
      rw [received, isHandler, List.head?_cons, Option.bind_some, again, Option.bind_some]

/-- What the create handler can write, the roles of its route are permitted to; -/
theorem permitted_create {args : List String} {body : Option RequestBody} :
    ∀ call, (Service.WorkOrdersController.create validator).handler args body = some call →
      call.permittedRoles ≠ [] ∧ some [.tenant, .manager] = some call.permittedRoles := by
  intro call made
  obtain ⟨dto, -, same⟩ := Option.bind_eq_some_iff.mp made
  cases same
  exact ⟨List.cons_ne_nil _ _, rfl⟩

/-- the same for an assignment -/
theorem permitted_assign {args : List String} {body : Option RequestBody} :
    ∀ call, (Service.WorkOrdersController.assign validator).handler args body = some call →
      call.permittedRoles ≠ [] ∧ some [.manager] = some call.permittedRoles := by
  intro call made
  obtain ⟨id, -, made⟩ := Option.bind_eq_some_iff.mp made
  obtain ⟨assigneeId, -, same⟩ := Option.bind_eq_some_iff.mp made
  cases same
  exact ⟨List.cons_ne_nil _ _, rfl⟩

/-- and for a change of status. -/
theorem permitted_updateStatus {args : List String} {body : Option RequestBody} :
    ∀ call, Service.WorkOrdersController.updateStatus.handler args body = some call →
      call.permittedRoles ≠ [] ∧ some [.technician, .manager] = some call.permittedRoles := by
  intro call made
  obtain ⟨id, -, made⟩ := Option.bind_eq_some_iff.mp made
  obtain ⟨status, -, same⟩ := Option.bind_eq_some_iff.mp made
  cases same
  exact ⟨List.cons_ne_nil _ _, rfl⟩

/-- A request for which the gateway has no handler. -/
theorem writes_of_none
    (none_ : RouteEntry.dispatch (@routes Body Answer json) method request.path.toList = none) :
    writes validator json jwt minted method request answers =
      (permittedWrite validator json jwt method request).toList := by
  have direct : Service.direct validator method request.path.toList
      (arrived json request.input.body) = none := by
    cases wrote : Service.direct validator method request.path.toList
        (arrived json request.input.body) with
    | none => rfl
    | some call =>
        obtain ⟨entry, member, matched, args, isMethod, received, decoded, made⟩ :=
          Service.exists_of_direct wrote
        -- the gateway has the same handler
        have twin : ∃ twin ∈ @routes Body Answer json, twin.method = entry.method ∧
            twin.pattern = .literal globalPrefix :: entry.pattern := by
          simp only [Service.routes, List.mem_cons, List.not_mem_nil, or_false] at member
          rcases member with rfl | rfl | rfl | rfl | rfl
          · exact ⟨WorkOrdersController.create json, by simp [routes], rfl, rfl⟩
          · exact ⟨WorkOrdersController.list, by simp [routes], rfl, rfl⟩
          · exact ⟨WorkOrdersController.getById, by simp [routes], rfl, rfl⟩
          · exact ⟨WorkOrdersController.assign json, by simp [routes], rfl, rfl⟩
          · exact ⟨WorkOrdersController.updateStatus json, by simp [routes], rfl, rfl⟩
        obtain ⟨twin, isTwin, sameMethod, samePattern⟩ := twin
        have isReceived : twin.receive method request.path.toList = some matched := by
          rw [RouteEntry.receive, samePattern, if_pos (sameMethod.trans isMethod)]
          exact received
        have found := (RouteEntry.dispatch_eq_some_iff (apart json)).mpr
          ⟨twin, isTwin, rfl, matched, isReceived, decoded⟩
        rw [none_] at found
        cases found
  rw [permittedWrite, direct, writes, receive, none_]
  cases request.verifiedUser jwt <;> rfl

end Writes

/-- Whatever handler the request has. -/
theorem writes_eq (validator : ClassValidator) (json : JsonText Body) (jwt : JwtService)
    (minted : MintedUuid) (method : String) (request : HttpRequest (GatewayInput Body))
    (answers : List Answer) :
    writes validator json jwt minted method request answers =
      (permittedWrite validator json jwt method request).toList := by
  cases found : RouteEntry.dispatch (@routes Body Answer json) method request.path.toList with
  | none => exact writes_of_none found
  | some handler =>
      obtain ⟨route, args⟩ := handler
      obtain ⟨entry, member, rfl, matched, received, decoded⟩ :=
        (RouteEntry.dispatch_eq_some_iff (apart json)).mp found
      unfold RouteEntry.receive at received
      split_ifs at received with isMethod
      have isMember := member
      simp only [routes, List.mem_cons, List.not_mem_nil, or_false] at member
      rcases member with rfl | rfl | rfl | rfl | rfl | rfl | rfl | rfl | rfl | rfl
      · -- `GET properties/:id/summary`
        refine writes_of_other (by decide : Resource.properties ≠ _) isMember isMethod received
          decoded (filterMap_get _ (reads_id fun id => ?_))
        exact List.forall_mem_cons.mpr ⟨⟨_, rfl⟩, List.forall_mem_singleton.mpr ⟨_, rfl⟩⟩
      · -- `POST work-orders`
        have inService : Service.WorkOrdersController.create validator ∈
            Service.routes validator := by simp [Service.routes]
        refine writes_of_workOrders inService isMember rfl isMethod received decoded ?_
          permitted_create
        exact filterMap_serialised
          ((Service.WorkOrdersController.create validator).handler args) rfl
            fun text => receive_workOrders text args
      · -- `GET work-orders`
        have inService : Service.WorkOrdersController.findAll ∈
            Service.routes validator := by simp [Service.routes]
        exact writes_of_workOrders inService isMember rfl isMethod received decoded
          (filterMap_get _ (reads_one _)) nofun
      · -- `GET work-orders/:id`
        have inService : Service.WorkOrdersController.findOne ∈
            Service.routes validator := by simp [Service.routes]
        exact writes_of_workOrders inService isMember rfl isMethod received decoded
          (filterMap_get _ (reads_id fun _ => List.forall_mem_singleton.mpr ⟨_, rfl⟩)) nofun
      · -- `PATCH work-orders/:id/assign`
        have inService : Service.WorkOrdersController.assign validator ∈
            Service.routes validator := by simp [Service.routes]
        refine writes_of_workOrders inService isMember rfl isMethod received decoded ?_
          permitted_assign
        have plain : "assign".toList ≠ [] ∧ '/' ∉ "assign".toList ∧ '?' ∉ "/assign".toList := by
          decide
        exact filterMap_patch inService rfl rfl plain rfl (fun _ => rfl) (fun _ _ => rfl) _ args
      · -- `PATCH work-orders/:id/status`
        have inService : Service.WorkOrdersController.updateStatus ∈
            Service.routes validator := by simp [Service.routes]
        refine writes_of_workOrders inService isMember rfl isMethod received decoded ?_
          permitted_updateStatus
        have plain : "status".toList ≠ [] ∧ '/' ∉ "status".toList ∧ '?' ∉ "/status".toList := by
          decide
        exact filterMap_patch inService rfl rfl plain rfl (fun _ => rfl) (fun _ _ => rfl) _ args
      · -- `POST properties`
        refine writes_of_other (by decide : Resource.properties ≠ _) isMember isMethod received
          decoded ?_
        exact filterMap_serialised (fun _ => none) rfl receive_properties
      · -- `GET properties`
        exact writes_of_other (by decide : Resource.properties ≠ _) isMember isMethod received
          decoded (filterMap_get _ (reads_one _))
      · -- `GET properties/:id`
        exact writes_of_other (by decide : Resource.properties ≠ _) isMember isMethod received
          decoded (filterMap_get _ (reads_id fun _ => List.forall_mem_singleton.mpr ⟨_, rfl⟩))
      · -- `GET activity`
        exact writes_of_other (by decide : Resource.activity ≠ _) isMember isMethod received
          decoded (filterMap_get _ (reads_one _))

/-- A call that writes is made for a user who may, and in the name of that user. -/
theorem authorised {jwt : JwtService} {minted : MintedUuid} {method : String}
    {request : HttpRequest (GatewayInput Body)} {answers : List Answer} {call : DownstreamCall}
    (issued : call ∈ receive json jwt minted method request answers) {write : Call}
    (isWrite : Service.receive validator json call.toDownstreamRequest = some write) :
    ∃ user, request.verifiedUser jwt = some user ∧ user.HasRoleOf write.permittedRoles ∧
      MadeBy user call := by
  have member : write ∈ writes validator json jwt minted method request answers :=
    List.mem_filterMap.mpr ⟨call, issued, isWrite⟩
  rw [writes_eq, Option.mem_toList] at member
  obtain ⟨user, isUser, permitted⟩ := Option.bind_eq_some_iff.mp member
  refine ⟨user, isUser, of_decide_eq_true (Option.filter_eq_some_iff.mp permitted).2, ?_⟩
  rw [receive] at issued
  split at issued
  · cases issued
  next route _ _ =>
    cases handled : handle jwt route minted request answers with
    | error _ =>
        rw [handled] at issued
        cases issued
    | ok calls =>
        rw [handled] at issued
        obtain ⟨token, user', bearer, verified, -, madeBy⟩ := verified_of_handle handled issued
        have same : request.verifiedUser jwt = some user' := by
          rw [HttpRequest.verifiedUser, bearer]
          exact verified
        rw [isUser] at same
        cases same
        exact madeBy

end Gateway

end PropFlow
