import PropFlow.Observability

/-!
# The gateway's side of the request context

What a client's headers become on the way to a service: the gateway opens a
context from them, the guard puts the verified user in it, the downstream client
forwards both as headers, and the service opens its own context from those.

* `Subject` — the `sub` of a token: an email address, whose parts the validator bounds;
* `forwarded` — a header as the downstream client sends it on: an empty value is not
  sent;
* `GatewayRequest.store` — the context of a service, for a request through the gateway.

`GatewayRequest.store_userId` and `GatewayRequest.store_requestId` are what the audit
service can rely on: a user id that fits its column, and a request id of the client's
choice.
-/

namespace PropFlow

/-- The subject of a verified token: the email a user logged in with.  `@IsEmail`
bounds both of its parts. -/
structure Subject where
  localPart : String
  domain : String
  /-- The validator allows 64 bytes. -/
  localPart_le : localPart.length ≤ 64
  /-- The validator allows 254 bytes. -/
  domain_le : domain.length ≤ 254

/-- The address. -/
def Subject.text (subject : Subject) : String := subject.localPart ++ "@" ++ subject.domain

/-- `...(value ? { [HEADER]: value } : {})`: the empty string is not forwarded. -/
def forwarded : Option String → HeaderValue
  | none => .absent
  | some value => if value = "" then .absent else .single value

/-- The context headers of `DownstreamClient.request`. -/
def DownstreamClient.headers (store : Option RequestContext) : RequestHeaders where
  requestId := forwarded (currentRequestId store)
  userId := forwarded (currentUserId store)

/-- An authenticated request to the gateway, with the ids that are minted for it
on the way if there is need. -/
structure GatewayRequest where
  /-- What the client has sent. -/
  headers : RequestHeaders
  /-- Whose token it is. -/
  subject : Subject
  /-- The id that the gateway takes if there is none. -/
  atGateway : MintedUuid
  /-- The id that the service takes if there is none. -/
  atService : MintedUuid

/-- The context a service handles the request in. -/
def GatewayRequest.store (request : GatewayRequest) : RequestContext :=
  requestContextMiddleware
    (DownstreamClient.headers
      (setCurrentUserId request.subject.text
        (some (requestContextMiddleware request.headers request.atGateway))))
    request.atService

/-- `@` counts. -/
theorem Subject.length_text (subject : Subject) :
    subject.text.length = subject.localPart.length + 1 + subject.domain.length := by
  unfold Subject.text
  rw [String.length_append, String.length_append]
  rfl

/-- It fits a column of 320 characters. -/
theorem Subject.length_le (subject : Subject) : subject.text.length ≤ 320 := by
  have localPart := subject.localPart_le
  have domain := subject.domain_le
  rw [subject.length_text]
  omega

/-- A value that is not empty arrives. -/
theorem forwarded_first_of_ne {value : String} (nonempty : value ≠ "") :
    (forwarded (some value)).first = some value := by
  rw [forwarded, if_neg nonempty]
  rfl

/-- A text with a length is not empty. -/
theorem ne_empty_of_length {value : String} (length : value.length ≠ 0) : value ≠ "" := by
  rintro rfl
  exact length rfl

/-- The user of the context is the verified one, whatever the client claimed. -/
theorem GatewayRequest.store_userId (request : GatewayRequest) :
    request.store.userId = some request.subject.text :=
  forwarded_first_of_ne (ne_empty_of_length (by rw [request.subject.length_text]; omega))

/-- The request id of the context is the client's, or one that was minted because
the client sent none or an empty one. -/
theorem GatewayRequest.store_requestId (request : GatewayRequest) :
    request.headers.requestId.first = some request.store.requestId ∨
      ((∀ text ∈ request.headers.requestId.first, text = "") ∧
        request.store.requestId.length = 36) := by
  have requestId : request.store.requestId =
      (forwarded (some (request.headers.requestId.first.getD request.atGateway.text))).first.getD
        request.atService.text := rfl
  rw [requestId]
  cases request.headers.requestId.first with
  | none =>
      refine Or.inr ⟨fun _ absent => (nomatch absent), ?_⟩
      rw [Option.getD_none, forwarded_first_of_ne, Option.getD_some, request.atGateway.length_eq]
      exact ne_empty_of_length (by rw [request.atGateway.length_eq]; decide)
  | some text =>
      rw [Option.getD_some]
      by_cases empty : text = ""
      · refine Or.inr ⟨fun _ here => (Option.some.inj here).symm.trans empty, ?_⟩
        rw [empty]
        exact request.atService.length_eq
      · rw [forwarded_first_of_ne empty]
        exact Or.inl rfl

end PropFlow
