import PropFlow.Contracts

/-!
# Request context

`libs/observability`: the ambient request context and the middleware that opens
it.  The `AsyncLocalStorage` store is an `Option RequestContext` passed to
whatever reads it; `none` is code that runs outside any request, such as a
queue consumer.

* `RequestContext` — the id of the request, and the user who makes it once that is known;
* `currentRequestId`, `currentUserId` — what the outbox writes into an event.  Outside a
  request both are `null`;
* `requestContextMiddleware` — an inbound `x-request-id` is kept whatever it is, the empty
  text included, and one is minted only where there is none.
-/

namespace PropFlow

/-- `RequestContext`. -/
structure RequestContext where
  requestId : String
  userId : Option String
deriving DecidableEq, Repr

/-- `currentRequestId()`. -/
def currentRequestId (store : Option RequestContext) : Option String :=
  store.map RequestContext.requestId

/-- `currentUserId()`. -/
def currentUserId (store : Option RequestContext) : Option String :=
  store.bind RequestContext.userId

/-- `setCurrentUserId(userId)`: mutates an open store, ignored outside one. -/
def setCurrentUserId (userId : String) (store : Option RequestContext) :
    Option RequestContext :=
  store.map fun context => { context with userId := some userId }

/-- What `req.headers[name]` can be. -/
inductive HeaderValue where
  | absent
  | single (text : String)
  | repeated (texts : List String)
deriving DecidableEq, Repr

/-- `Array.isArray(incoming) ? incoming[0] : incoming`. -/
def HeaderValue.first : HeaderValue → Option String
  | .absent => none
  | .single text => some text
  | .repeated texts => texts.head?

/-- The request headers the middleware reads. -/
structure RequestHeaders where
  /-- `x-request-id` -/
  requestId : HeaderValue
  /-- `x-user-id` -/
  userId : HeaderValue
deriving DecidableEq, Repr

/-- A text minted by `randomUUID()`. -/
structure MintedUuid where
  text : String
  /-- A uuid has 36 characters, so it fits the column that an inbound id may not fit. -/
  length_eq : text.length = 36

/-- `requestContextMiddleware`: keep the inbound request id or mint one, and
open the context.  The same id is echoed on the response. -/
def requestContextMiddleware (headers : RequestHeaders) (minted : MintedUuid) :
    RequestContext where
  requestId := headers.requestId.first.getD minted.text
  userId := headers.userId.first

end PropFlow
