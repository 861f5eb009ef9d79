import AiGateway.Lib.Json
import AiGateway.Lib.JsString

/- The reply that both caches store: `CachedChatResponse`, its JSON text, and
   `CachedChatResponseSchema` with `isUnservableCachedReply`, through which every read goes.

   `readCachedReply_write`: what a lookup reads back from a text that a store has written is
   the reply that was stored, or nothing. -/
namespace AiGateway

/-- `CachedFinishReason`. -/
inductive FinishReason where
  | stop | toolCalls | length | contentFilter
  deriving DecidableEq, Repr

def FinishReason.text : FinishReason → String
  | .stop => "stop"
  | .toolCalls => "tool_calls"
  | .length => "length"
  | .contentFilter => "content_filter"

/-- `z.enum([...])`. -/
def FinishReason.ofText? (s : String) : Option FinishReason :=
  if s = "stop" then some .stop
  else if s = "tool_calls" then some .toolCalls
  else if s = "length" then some .length
  else if s = "content_filter" then some .contentFilter
  else none

@[simp] theorem FinishReason.ofText?_text (r : FinishReason) : ofText? r.text = some r := by
  cases r <;> rfl

structure CachedUsage where
  inputTokens : Json.Number
  outputTokens : Json.Number
  deriving DecidableEq

structure CachedChatWarning where
  code : String
  message : String
  field : Option String
  deriving DecidableEq

structure ProviderUsageDetails where
  promptCacheHitTokens : Option Json.Number
  promptCacheCreationTokens : Option Json.Number
  deriving DecidableEq

inductive ChatCacheSource where
  | exact | semantic
  deriving DecidableEq, Repr

/-- The fields `output.type` (`'text'`) and `cached` (`true`) are constants of the type. -/
structure CachedChatResponse where
  id : String
  provider : String
  model : String
  text : String
  finishReason : FinishReason
  usage : Option CachedUsage
  warnings : Option (List CachedChatWarning)
  thinkingContent : Option String
  effectiveModelAlias : Option String
  usageDetails : Option ProviderUsageDetails
  systemFingerprint : Option String
  cachedAt : String
  deriving DecidableEq

/-! ## Writing -/

/-- One property of an object literal; `JSON.stringify` leaves out an undefined one. -/
def member (key : String) : Option Json.Value → List (String × Json.Value)
  | none => []
  | some v => [(key, v)]

def CachedUsage.toJson (u : CachedUsage) : Json.Value :=
  .obj (member "inputTokens" (some (.num u.inputTokens)) ++
    member "outputTokens" (some (.num u.outputTokens)))

def CachedChatWarning.toJson (w : CachedChatWarning) : Json.Value :=
  .obj (member "code" (some (.str w.code)) ++ member "message" (some (.str w.message)) ++
    member "field" (w.field.map .str))

def ProviderUsageDetails.toJson (d : ProviderUsageDetails) : Json.Value :=
  .obj (member "promptCacheHitTokens" (d.promptCacheHitTokens.map .num) ++
    member "promptCacheCreationTokens" (d.promptCacheCreationTokens.map .num))

def outputToJson (text : String) : Json.Value :=
  .obj (member "type" (some (.str "text")) ++ member "text" (some (.str text)))

/-- The properties in the order in which `toCachedChatResponse` sets them. -/
def CachedChatResponse.toJson (r : CachedChatResponse) : Json.Value :=
  .obj (member "id" (some (.str r.id)) ++ member "provider" (some (.str r.provider)) ++
    member "model" (some (.str r.model)) ++ member "output" (some (outputToJson r.text)) ++
    member "finishReason" (some (.str r.finishReason.text)) ++
    member "usage" (r.usage.map CachedUsage.toJson) ++
    member "warnings" (r.warnings.map fun ws => .arr (ws.map CachedChatWarning.toJson)) ++
    member "thinkingContent" (r.thinkingContent.map .str) ++
    member "effectiveModelAlias" (r.effectiveModelAlias.map .str) ++
    member "usageDetails" (r.usageDetails.map ProviderUsageDetails.toJson) ++
    member "systemFingerprint" (r.systemFingerprint.map .str) ++
    member "cached" (some (.bool true)) ++ member "cachedAt" (some (.str r.cachedAt)))

/-- `JSON.stringify(reply)`. -/
def writeCachedReply (r : CachedChatResponse) : String := Json.stringify r.toJson

/-! ## Reading -/

/-- `z.string()`. -/
def asStr : Json.Value → Option String
  | .str s => some s
  | _ => none

/-- `int().min(0)`; `int()` accepts safe integers only. -/
def isCount (n : Json.Number) : Bool := n.value.den = 1 ∧ 0 ≤ n.value.num ∧ n.value.num < 2 ^ 53

/-- `z.number().int().min(0)`. -/
def asCount : Json.Value → Option Json.Number
  | .num n => if isCount n then some n else none
  | _ => none

def required {α : Type} (v : Json.Value) (key : String) (read : Json.Value → Option α) : Option α :=
  (v.get? key).bind read

/-- `.optional()`: the property may be missing, but not wrong. -/
def optional {α : Type} (v : Json.Value) (key : String) (read : Json.Value → Option α) :
    Option (Option α) :=
  match v.get? key with
  | none => some none
  | some x => (read x).map some

def CachedUsage.ofJson? (v : Json.Value) : Option CachedUsage := do
  let inputTokens ← required v "inputTokens" asCount
  let outputTokens ← required v "outputTokens" asCount
  some ⟨inputTokens, outputTokens⟩

def CachedChatWarning.ofJson? (v : Json.Value) : Option CachedChatWarning := do
  let code ← required v "code" asStr
  let message ← required v "message" asStr
  let field ← optional v "field" asStr
  some ⟨code, message, field⟩

def warningsOfJson? : Json.Value → Option (List CachedChatWarning)
  | .arr items => items.mapM CachedChatWarning.ofJson?
  | _ => none

def ProviderUsageDetails.ofJson? (v : Json.Value) : Option ProviderUsageDetails :=
  match v with
  | .obj _ => do
    let hit ← optional v "promptCacheHitTokens" asCount
    let creation ← optional v "promptCacheCreationTokens" asCount
    some ⟨hit, creation⟩
  | _ => none

def outputOfJson? (v : Json.Value) : Option String := do
  let type ← required v "type" asStr
  if type ≠ "text" then none else required v "text" asStr

def asTrue : Json.Value → Option Unit
  | .bool true => some ()
  | _ => none

/-- `parseCachedChatResponse`: the schema of a cached reply. -/
def parseCachedChatResponse (v : Json.Value) : Option CachedChatResponse := do
  let id ← required v "id" asStr
  let provider ← required v "provider" asStr
  let model ← required v "model" asStr
  let text ← required v "output" outputOfJson?
  let usage ← optional v "usage" CachedUsage.ofJson?
  required v "cached" asTrue
  let cachedAt ← required v "cachedAt" asStr
  let finishReason ← required v "finishReason" (fun x => (asStr x).bind FinishReason.ofText?)
  let warnings ← optional v "warnings" warningsOfJson?
  let thinkingContent ← optional v "thinkingContent" asStr
  let effectiveModelAlias ← optional v "effectiveModelAlias" asStr
  let usageDetails ← optional v "usageDetails" ProviderUsageDetails.ofJson?
  let systemFingerprint ← optional v "systemFingerprint" asStr
  some { id, provider, model, text, finishReason, usage, warnings, thinkingContent,
         effectiveModelAlias, usageDetails, systemFingerprint, cachedAt }

def isUnservableCachedReply (r : CachedChatResponse) : Bool :=
  r.finishReason ≠ .stop || (JsString.trim r.text).length = 0

/-- What every read path does with a stored text: parse it, check the shape, drop what must
not be served. `none` is what the read paths delete. -/
def readCachedReply (text : String) : Option CachedChatResponse :=
  ((Json.parse text).bind parseCachedChatResponse).filter fun r => !isUnservableCachedReply r

/-! ## Reading what was written -/

theorem get?_append (ms ns : List (String × Json.Value)) (key : String) :
    (Json.Value.obj (ms ++ ns)).get? key =
      ((Json.Value.obj ns).get? key).or ((Json.Value.obj ms).get? key) := by
  simp only [Json.Value.get?, List.reverse_append, List.find?_append]
  cases List.find? _ ns.reverse <;> rfl

@[simp] theorem get?_member_self (key : String) (v : Option Json.Value) :
    (Json.Value.obj (member key v)).get? key = v := by
  cases v <;> simp [member, Json.Value.get?]

theorem get?_member_ne {key key' : String} (h : key ≠ key') (v : Option Json.Value) :
    (Json.Value.obj (member key v)).get? key' = none := by
  cases v <;> simp [member, Json.Value.get?, h]

def CachedUsage.counts (u : CachedUsage) : Bool := isCount u.inputTokens && isCount u.outputTokens

def ProviderUsageDetails.counts (d : ProviderUsageDetails) : Bool :=
  d.promptCacheHitTokens.all isCount && d.promptCacheCreationTokens.all isCount

/-- Every token count of the reply is a non-negative safe integer. -/
def CachedChatResponse.counts (r : CachedChatResponse) : Bool :=
  r.usage.all CachedUsage.counts && r.usageDetails.all ProviderUsageDetails.counts

theorem CachedUsage.ofJson?_toJson (u : CachedUsage) :
    CachedUsage.ofJson? u.toJson = if u.counts then some u else none := by
  have hin : u.toJson.get? "inputTokens" = some (.num u.inputTokens) := by
    simp [CachedUsage.toJson, get?_append, get?_member_ne]
  have hout : u.toJson.get? "outputTokens" = some (.num u.outputTokens) := by
    simp [CachedUsage.toJson, get?_append]
  simp only [CachedUsage.ofJson?, required, hin, hout, Option.bind_some, asCount, CachedUsage.counts]
  by_cases h1 : isCount u.inputTokens <;> by_cases h2 : isCount u.outputTokens <;> simp [h1, h2]

theorem CachedChatWarning.ofJson?_toJson (w : CachedChatWarning) :
    CachedChatWarning.ofJson? w.toJson = some w := by
  have hcode : w.toJson.get? "code" = some (.str w.code) := by
    simp [CachedChatWarning.toJson, get?_append, get?_member_ne]
  have hmessage : w.toJson.get? "message" = some (.str w.message) := by
    simp [CachedChatWarning.toJson, get?_append, get?_member_ne]
  have hfield : w.toJson.get? "field" = w.field.map .str := by
    simp [CachedChatWarning.toJson, get?_append, get?_member_ne]
  simp only [CachedChatWarning.ofJson?, required, optional, hcode, hmessage, hfield]
  cases w with
  | mk code message field => cases field <;> rfl

theorem warningsOfJson?_toJson (ws : List CachedChatWarning) :
    warningsOfJson? (.arr (ws.map CachedChatWarning.toJson)) = some ws := by
  show (ws.map CachedChatWarning.toJson).mapM CachedChatWarning.ofJson? = some ws
  induction ws with
  | nil => rfl
  | cons w ws ih =>
    rw [List.map_cons, List.mapM_cons, CachedChatWarning.ofJson?_toJson, ih]
    rfl

theorem ProviderUsageDetails.ofJson?_toJson (d : ProviderUsageDetails) :
    ProviderUsageDetails.ofJson? d.toJson = if d.counts then some d else none := by
  have hhit : d.toJson.get? "promptCacheHitTokens" = d.promptCacheHitTokens.map .num := by
    simp [ProviderUsageDetails.toJson, get?_append, get?_member_ne]
  have hcreation : d.toJson.get? "promptCacheCreationTokens" = d.promptCacheCreationTokens.map .num := by
    simp [ProviderUsageDetails.toJson, get?_append, get?_member_ne]
  have hobj : ∃ ms, d.toJson = .obj ms := ⟨_, rfl⟩
  obtain ⟨ms, hms⟩ := hobj
  rw [hms] at hhit hcreation ⊢
  simp only [ProviderUsageDetails.ofJson?, optional, hhit, hcreation, ProviderUsageDetails.counts]
  cases d with
  | mk hit creation =>
    cases hit <;> cases creation <;> simp [asCount] <;> grind

theorem outputOfJson?_toJson (text : String) : outputOfJson? (outputToJson text) = some text := by
  have htype : (outputToJson text).get? "type" = some (.str "text") := by
    simp [outputToJson, get?_append, get?_member_ne]
  have htext : (outputToJson text).get? "text" = some (.str text) := by
    simp [outputToJson, get?_append]
  simp [outputOfJson?, required, htype, htext, asStr]

/-- An optional property that was written by `toJson` and is read by `ofJson?`. -/
theorem optional_map {α : Type} {v : Json.Value} {key : String} {read : Json.Value → Option α}
    {write : α → Json.Value} {o : Option α} (ok : α → Bool) (hget : v.get? key = o.map write)
    (hread : ∀ a, read (write a) = if ok a then some a else none) :
    optional v key read = if o.all ok then some o else none := by
  cases o with
  | none => simp [optional, hget]
  | some a => by_cases h : ok a <;> simp [optional, hget, hread, h]

theorem optional_str {v : Json.Value} {key : String} {o : Option String}
    (hget : v.get? key = o.map .str) : optional v key asStr = some o := by
  cases o <;> simp [optional, hget, asStr]

theorem parseCachedChatResponse_toJson (r : CachedChatResponse) :
    parseCachedChatResponse r.toJson = if r.counts then some r else none := by
  have hid : r.toJson.get? "id" = some (.str r.id) := by
    simp [CachedChatResponse.toJson, get?_append, get?_member_ne]
  have hprovider : r.toJson.get? "provider" = some (.str r.provider) := by
    simp [CachedChatResponse.toJson, get?_append, get?_member_ne]
  have hmodel : r.toJson.get? "model" = some (.str r.model) := by
    simp [CachedChatResponse.toJson, get?_append, get?_member_ne]
  have houtput : r.toJson.get? "output" = some (outputToJson r.text) := by
    simp [CachedChatResponse.toJson, get?_append, get?_member_ne]
  have hfinish : r.toJson.get? "finishReason" = some (.str r.finishReason.text) := by
    simp [CachedChatResponse.toJson, get?_append, get?_member_ne]
  have hcached : r.toJson.get? "cached" = some (.bool true) := by
    simp [CachedChatResponse.toJson, get?_append, get?_member_ne]
  have hcachedAt : r.toJson.get? "cachedAt" = some (.str r.cachedAt) := by
    simp [CachedChatResponse.toJson, get?_append]
  -- the optional properties, each with the check its schema makes
  have husage : optional r.toJson "usage" CachedUsage.ofJson? =
      if r.usage.all CachedUsage.counts then some r.usage else none := by
    apply optional_map _ _ CachedUsage.ofJson?_toJson
    simp [CachedChatResponse.toJson, get?_append, get?_member_ne]
  have hdetails : optional r.toJson "usageDetails" ProviderUsageDetails.ofJson? =
      if r.usageDetails.all ProviderUsageDetails.counts then some r.usageDetails else none := by
    apply optional_map _ _ ProviderUsageDetails.ofJson?_toJson
    simp [CachedChatResponse.toJson, get?_append, get?_member_ne]
  have hwarnings : optional r.toJson "warnings" warningsOfJson? = some r.warnings := by
    have := @optional_map _ r.toJson "warnings" warningsOfJson?
      (fun ws => .arr (ws.map CachedChatWarning.toJson)) r.warnings (fun _ => true)
      (by simp [CachedChatResponse.toJson, get?_append, get?_member_ne])
      (by simp [warningsOfJson?_toJson])
    simpa using this
  have hthinking : optional r.toJson "thinkingContent" asStr = some r.thinkingContent := by
    apply optional_str
    simp [CachedChatResponse.toJson, get?_append, get?_member_ne]
  have halias : optional r.toJson "effectiveModelAlias" asStr = some r.effectiveModelAlias := by
    apply optional_str
    simp [CachedChatResponse.toJson, get?_append, get?_member_ne]
  have hfingerprint : optional r.toJson "systemFingerprint" asStr = some r.systemFingerprint := by
    apply optional_str
    simp [CachedChatResponse.toJson, get?_append, get?_member_ne]
  simp only [parseCachedChatResponse, required, hid, hprovider, hmodel, houtput, hfinish, hcached,
    hcachedAt, husage, hdetails, hwarnings, hthinking, halias, hfingerprint, Option.bind_some, asStr,
    asTrue, outputOfJson?_toJson, FinishReason.ofText?_text, Option.bind_eq_bind,
    CachedChatResponse.counts]
  by_cases h1 : r.usage.all CachedUsage.counts <;>
    by_cases h2 : r.usageDetails.all ProviderUsageDetails.counts <;> simp [h1, h2]

/-- What a read makes of a text that a store has written. -/
theorem readCachedReply_write (r : CachedChatResponse) :
    readCachedReply (writeCachedReply r) =
      if r.counts && !isUnservableCachedReply r then some r else none := by
  rw [readCachedReply, writeCachedReply, Json.parse_stringify, Option.bind_some,
    parseCachedChatResponse_toJson]
  by_cases h1 : r.counts <;> by_cases h2 : isUnservableCachedReply r <;> simp [h1, h2]

/-- A reply that is read from a written text is the reply that was written. -/
theorem eq_of_readCachedReply {r r' : CachedChatResponse}
    (h : readCachedReply (writeCachedReply r) = some r') : r' = r := by
  rw [readCachedReply_write] at h
  split at h
  · exact (Option.some.inj h).symm
  · cases h

end AiGateway
