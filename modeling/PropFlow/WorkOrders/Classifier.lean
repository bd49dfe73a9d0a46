import PropFlow.AsyncApi
import PropFlow.WorkOrders.Service

/-!
# The classifier

`AnthropicTriageClassifier`.  The model behind the API is not ours; what it answers is a
parameter, and so is whether it answers at all.

* `request` — what it is asked: the schema, the system prompt, and the title, description
  and reported priority of the order;
* `classify` — the first text of the answer, parsed; it is `null` where something is
  thrown, without a key, for a refusal and for an answer without a text;
* `Answers` — the model has answered with this JSON.

What the API promises of an answer is that it keeps to the schema of the request
(`KeepsToSchema`), which is why the service takes the parsed text for a `WorkOrderTriage`
without a look at it.  `exists_of_valid` says that this is sound: what is valid against
`TRIAGE_SCHEMA` is a triage block.
-/

namespace PropFlow

open Library JsonSchema

/-- `TRIAGE_SCHEMA`. -/
def triageSchema : JsonSchema := .allOf
  [ .object ["category", "urgency", "reasoning"]
      [ ("category", .vocabulary
          ["plumbing", "electrical", "hvac", "appliance", "structural", "pest_control", "other"]),
        ("urgency", .vocabulary ["emergency", "high", "medium", "low"]),
        ("reasoning", .type [.string]) ],
    .only ["category", "urgency", "reasoning"] ]

/-- `SYSTEM_PROMPT`. -/
def systemPrompt : String :=
  "You triage maintenance requests for residential properties.\n" ++
  "Classify each request into a category and an urgency level.\n" ++
  "Urgency guidance: \"emergency\" means active danger or damage in progress (gas leak, " ++
  "flooding, no heat in winter); \"high\" means the home is significantly impaired; " ++
  "\"medium\" means inconvenient but livable; \"low\" means cosmetic or routine.\n" ++
  "The tenant-reported priority is a hint, not ground truth — tenants overstate and understate."

/-- The argument of `messages.create`. -/
structure MessageRequest where
  model : String
  maxTokens : ℕ
  effort : String
  schema : JsonSchema
  system : String
  user : String

/-- A part of an answer. -/
structure ContentBlock where
  type : String
  text : String

/-- An answer. -/
structure MessageResponse where
  stopReason : String
  content : List ContentBlock

/-- `client.messages.create`, which may throw. -/
abbrev Anthropic := MessageRequest → Option MessageResponse

/-- Structured output: a text that is an answer, and is JSON, is valid against the schema that
was asked for. -/
def Anthropic.KeepsToSchema (api : Anthropic) : Prop :=
  ∀ request response, api request = some response → response.stopReason ≠ "refusal" →
    ∀ block ∈ response.content, block.type = "text" → ∀ json, Json.parse block.text = some json →
      request.schema.valid json = true

/-- The fields of the class. There is no client without an API key. -/
structure AnthropicTriageClassifier where
  client : Option Anthropic
  model : String

namespace AnthropicTriageClassifier

/-- The constructor, with `ANTHROPIC_API_KEY` and `TRIAGE_MODEL`. -/
def new (apiKey triageModel : Option String) (anthropic : Anthropic) :
    AnthropicTriageClassifier where
  client := if apiKey.getD "" = "" then none else some anthropic
  model := triageModel.getD "claude-opus-4-8"

/-- The request about an order. -/
def request (classifier : AnthropicTriageClassifier) (input : TriageInput) : MessageRequest where
  model := classifier.model
  maxTokens := 1024
  effort := "low"
  schema := triageSchema
  system := systemPrompt
  user := "\n".intercalate
    [ "Title: " ++ input.title, "Description: " ++ input.description,
      "Tenant-reported priority: " ++ input.priority ]

/-- `classify(input)`.  Whatever is thrown becomes `null`. -/
def classify (classifier : AnthropicTriageClassifier) (input : TriageInput) :
    Option WorkOrderTriage := do
  let create ← classifier.client
  let response ← create (classifier.request input)
  if response.stopReason = "refusal" then none
  else
    let block ← response.content.find? fun block => block.type = "text"
    (Json.parse block.text).bind WorkOrderTriage.ofJson?

/-- What the model answers about the input: the first text of an answer to the request. -/
def Answers (classifier : AnthropicTriageClassifier) (input : TriageInput) (json : Json) : Prop :=
  ∃ api response block, classifier.client = some api ∧
    api (classifier.request input) = some response ∧ response.stopReason ≠ "refusal" ∧
    response.content.find? (fun block => block.type = "text") = some block ∧
    Json.parse block.text = some json

/-- The API of the classifier does, if it has one. -/
def KeepsToSchema (classifier : AnthropicTriageClassifier) : Prop :=
  ∀ api ∈ classifier.client, api.KeepsToSchema

variable {classifier : AnthropicTriageClassifier} {input : TriageInput} {triage : WorkOrderTriage}
  {json : Json}

/-- A classification is an answer of the model that is read as a triage block. -/
theorem classify_eq_some :
    classifier.classify input = some triage ↔
      ∃ json, classifier.Answers input json ∧ WorkOrderTriage.ofJson? json = some triage := by
  unfold classify Answers
  simp only [Option.bind_eq_bind, Option.bind_eq_some_iff]
  constructor
  · rintro ⟨api, asked, response, answered, outcome⟩
    split_ifs at outcome with refused
    obtain ⟨block, first, outcome⟩ := Option.bind_eq_some_iff.mp outcome
    obtain ⟨json, parsed, read⟩ := Option.bind_eq_some_iff.mp outcome
    exact ⟨json, ⟨api, response, block, asked, answered, refused, first, parsed⟩, read⟩
  · rintro ⟨json, ⟨api, response, block, asked, answered, willing, first, parsed⟩, read⟩
    refine ⟨api, asked, response, answered, ?_⟩
    rw [if_neg willing, first]
    exact Option.bind_eq_some_iff.mpr
      ⟨block, rfl, Option.bind_eq_some_iff.mpr ⟨json, parsed, read⟩⟩

/-- An answer is valid against the schema. -/
theorem Answers.valid (said : classifier.Answers input json) (keeps : classifier.KeepsToSchema) :
    triageSchema.valid json = true := by
  obtain ⟨api, response, block, asked, answered, willing, first, parsed⟩ := said
  have isText := List.find?_some first
  exact keeps api asked _ response answered willing block (List.mem_of_find?_eq_some first)
    (of_decide_eq_true isText) json parsed

/-- **The cast is sound**: an object that is valid against the schema is a triage block. -/
theorem exists_of_valid (valid : triageSchema.valid json = true) :
    ∃ triage, WorkOrderTriage.ofJson? json = some triage := by
  rw [triageSchema, valid_allOf, List.forall_mem_cons] at valid
  -- its keys apart, the schema is that of the document
  exact AsyncApi.valid_workOrderTriage.mp valid.1

/-- What the model answers is a classification. -/
theorem Answers.classifies (said : classifier.Answers input json)
    (keeps : classifier.KeepsToSchema) :
    ∃ triage, classifier.classify input = some triage := by
  obtain ⟨triage, read⟩ := exists_of_valid (said.valid keeps)
  exact ⟨triage, classify_eq_some.mpr ⟨json, said, read⟩⟩

end AnthropicTriageClassifier

end PropFlow
