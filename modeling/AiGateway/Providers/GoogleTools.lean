import AiGateway.Lib.JsonText
import AiGateway.Providers.AnthropicTurns
import AiGateway.Providers.Google
import Mathlib.Data.List.Nodup

/- Tool calls and their results on the way to and from Gemini. `mapTurnsToGeminiContents` sends a
   tool result under the id of its call, as the name too, and its content as the JSON object that
   it is or, for any other text, as the empty object. `parseGeminiResponseWithTools` makes up a
   missing id from the name of the function.

   * `tool_results_kept_iff`: which results a history keeps. Taken to the letter none is kept,
     since white space in a content is lost already; up to the writing of JSON those are whose
     content is an object with members and whose id is the name of the function.
   * `tool_ids_distinct_iff`: when the ids of the calls of a response are pairwise different.

   `createPartFromFunctionResponse` of the SDK is a parameter. -/
namespace AiGateway.Google

/-! ## `mapTurnsToGeminiContents` -/

structure FunctionResponse where
  id : String
  name : String
  response : Json.Value

inductive HistoryPart where
  | text (text : String)
  | functionCall (id name : String) (args : Json.Value)
  | functionResponse (data : FunctionResponse)

inductive ContentRole where
  | user | model
  deriving DecidableEq, Repr

structure Content where
  role : ContentRole
  parts : List HistoryPart

def functionCallPart (call : GatewayToolCall) : HistoryPart :=
  .functionCall call.id call.name (parseJsonObject (orEmptyObject call.arguments) (.obj []))

def mapAssistantTurnToGeminiContent (content : String) (toolCalls : Option (List GatewayToolCall)) : Content :=
  ⟨.model, (if content = "" then [] else [.text content]) ++ (toolCalls.getD []).map functionCallPart⟩

section Contents
variable (createPartFromFunctionResponse : String → String → Json.Value → HistoryPart)

/-- What the loop pushes for one turn. -/
def contentOfTurn : ProviderChatTurn → Content
  | .user content => ⟨.user, [.text content]⟩
  | .assistant content toolCalls => mapAssistantTurnToGeminiContent content toolCalls
  | .tool toolCallId content =>
    ⟨.user, [createPartFromFunctionResponse toolCallId toolCallId (parseJsonObject (orEmptyObject content) (.obj []))]⟩

def mapTurnsToGeminiContents (turns : List ProviderChatTurn) : List Content :=
  turns.map (contentOfTurn createPartFromFunctionResponse)

end Contents

/-! ## Histories that keep their tool results -/

/-- An assistant turn of the list calls the function `name` under this id. -/
def Calls (turns : List ProviderChatTurn) (toolCallId name : String) : Prop :=
  ∃ content toolCalls, ProviderChatTurn.assistant content (some toolCalls) ∈ turns ∧
    ∃ call ∈ toolCalls, call.id = toolCallId ∧ call.name = name

/-- Every tool turn answers a call of an earlier assistant turn. -/
def EachAnswers (turns : List ProviderChatTurn) : Prop :=
  ∀ before toolCallId content after, turns = before ++ .tool toolCallId content :: after →
    ∃ name, Calls before toolCallId name

/-- Every tool turn is sent as a function response that names a function called under its id, and
no content but the same maps to that response. -/
def ToolResultsKept (createPart : String → String → Json.Value → HistoryPart) (same : String → String → Prop)
    (turns : List ProviderChatTurn) : Prop :=
  ∀ before toolCallId content after, turns = before ++ .tool toolCallId content :: after →
    ∃ sent : FunctionResponse,
      (mapTurnsToGeminiContents createPart turns)[before.length]? = some ⟨.user, [.functionResponse sent]⟩ ∧
      Calls before toolCallId sent.name ∧
      ∀ content', contentOfTurn createPart (.tool toolCallId content') = ⟨.user, [.functionResponse sent]⟩ →
        same content content'

/-- Two texts that are the same, or two writings of one JSON value. -/
def SameJson (a b : String) : Prop := a = b ∨ ∃ v, Json.parse a = some v ∧ Json.parse b = some v

/-- The content is a JSON object with members. -/
def HasMembers (content : String) : Prop := ∃ m ms, Json.parse content = some (.obj (m :: ms))

section Contents
variable {content content' : String} {members : List (String × Json.Value)}

theorem parseJsonObject_of_parse (h : Json.parse content = some (.obj members)) :
    parseJsonObject (orEmptyObject content) (.obj []) = .obj members := by
  have hne : content ≠ "" := by
    rintro rfl
    cases h
  unfold parseJsonObject orEmptyObject
  rw [if_neg hne, h]

/-- Whatever is no object with members is sent as the empty one. -/
theorem parseJsonObject_cases (content : String) :
    (∃ m ms, Json.parse content = some (.obj (m :: ms)) ∧
      parseJsonObject (orEmptyObject content) (.obj []) = .obj (m :: ms)) ∨
    (¬ HasMembers content ∧ parseJsonObject (orEmptyObject content) (.obj []) = .obj []) := by
  by_cases hmembers : HasMembers content
  · obtain ⟨m, ms, hparse⟩ := hmembers
    exact .inl ⟨m, ms, hparse, parseJsonObject_of_parse hparse⟩
  · refine .inr ⟨hmembers, ?_⟩
    by_cases hempty : content = ""
    · subst hempty
      rfl
    · unfold parseJsonObject orEmptyObject
      rw [if_neg hempty]
      split
      · next members hparse =>
        cases members with
        | nil => rfl
        | cons m ms => exact absurd ⟨m, ms, hparse⟩ hmembers
      · rfl

/-- Every content shares its response with another one: an object with itself after a blank, any
other text with `{}` or with the empty text. -/
theorem exists_other_content (content : String) :
    ∃ content', content' ≠ content ∧ parseJsonObject (orEmptyObject content') (.obj []) =
      parseJsonObject (orEmptyObject content) (.obj []) := by
  obtain ⟨m, ms, hparse, hsent⟩ | ⟨-, hsent⟩ := parseJsonObject_cases content
  · refine ⟨" " ++ content, ?_, ?_⟩
    · intro h
      have := congrArg String.length h
      rw [String.length_append] at this
      exact absurd this (by simp)
    · rw [hsent, parseJsonObject_of_parse ((Json.parse_blank content).trans hparse)]
  · by_cases hempty : content = ""
    · exact ⟨"{}", by rw [hempty]; decide, by rw [hsent]; rfl⟩
    · exact ⟨"", Ne.symm hempty, by rw [hsent]; rfl⟩

/-- Up to its writing, a content is told from all others exactly when it is an object with
members. -/
theorem sameJson_of_sent_iff (content : String) :
    (∀ content', parseJsonObject (orEmptyObject content') (.obj []) =
        parseJsonObject (orEmptyObject content) (.obj []) → SameJson content content') ↔ HasMembers content := by
  obtain ⟨m, ms, hparse, hsent⟩ | ⟨hmembers, hsent⟩ := parseJsonObject_cases content
  · refine iff_of_true ?_ ⟨m, ms, hparse⟩
    intro content' h
    rw [hsent] at h
    obtain ⟨m', ms', hparse', hsent'⟩ | ⟨-, hsent'⟩ := parseJsonObject_cases content'
    · rw [hsent'] at h
      rw [h] at hparse'
      exact .inr ⟨_, hparse, hparse'⟩
    · rw [hsent'] at h
      cases h
  · refine iff_of_false ?_ hmembers
    intro h
    -- `{}` and the empty text are both sent as the empty object, and are not the same
    have hobject : SameJson content "{}" := h "{}" (by rw [hsent]; rfl)
    have htext : SameJson content "" := h "" (by rw [hsent]; rfl)
    have hnone : Json.parse "" = none := rfl
    obtain rfl | ⟨v, -, hv⟩ := htext
    · obtain heq | ⟨v, hv, -⟩ := hobject
      · exact absurd heq (by decide)
      · rw [hnone] at hv
        cases hv
    · rw [hnone] at hv
      cases hv

end Contents

section Kept
variable {createPart : String → String → Json.Value → HistoryPart}
variable (hpart : ∀ id name response, createPart id name response = .functionResponse ⟨id, name, response⟩)
include hpart

theorem contentOfTurn_tool (toolCallId content : String) :
    contentOfTurn createPart (.tool toolCallId content) = ⟨.user, [.functionResponse
      ⟨toolCallId, toolCallId, parseJsonObject (orEmptyObject content) (.obj [])⟩]⟩ := by
  show Content.mk .user [createPart toolCallId toolCallId _] = _
  rw [hpart]

/-- What is asked of one tool turn: its id is the name of the function, and the contents that are
sent like its own are the same. -/
theorem toolResultsKept_iff (same : String → String → Prop) (turns : List ProviderChatTurn) :
    ToolResultsKept createPart same turns ↔
      ∀ before toolCallId content after, turns = before ++ .tool toolCallId content :: after →
        Calls before toolCallId toolCallId ∧
          ∀ content', parseJsonObject (orEmptyObject content') (.obj []) =
            parseJsonObject (orEmptyObject content) (.obj []) → same content content' := by
  unfold ToolResultsKept
  apply forall₄_congr
  intro before toolCallId content after
  apply imp_congr_right
  rintro rfl
  have hsent : (mapTurnsToGeminiContents createPart (before ++ .tool toolCallId content :: after))[before.length]? =
      some ⟨.user, [.functionResponse
        ⟨toolCallId, toolCallId, parseJsonObject (orEmptyObject content) (.obj [])⟩]⟩ := by
    unfold mapTurnsToGeminiContents
    rw [List.map_append, List.getElem?_append_right (by simp), List.length_map, Nat.sub_self, List.map_cons,
      contentOfTurn_tool hpart]
    rfl
  rw [hsent]
  constructor
  · rintro ⟨sent, hsent, hcalls, hsame⟩
    cases hsent
    refine ⟨hcalls, fun content' h => hsame content' ?_⟩
    rw [contentOfTurn_tool hpart, h]
  · rintro ⟨hcalls, hsame⟩
    refine ⟨_, rfl, hcalls, fun content' h => hsame content' ?_⟩
    simp only [contentOfTurn_tool hpart, Content.mk.injEq, List.cons.injEq, HistoryPart.functionResponse.injEq,
      FunctionResponse.mk.injEq, true_and, and_true] at h
    exact h

end Kept

/-- To the letter, only a history without tool turns keeps its results: no content is told from
all others by what is sent. Up to the writing of JSON, exactly those contents are that are objects
with members, and the name is right when the call's id is the name of the function. -/
theorem tool_results_kept_iff (createPart : String → String → Json.Value → HistoryPart)
    (hpart : ∀ id name response, createPart id name response = .functionResponse ⟨id, name, response⟩)
    (turns : List ProviderChatTurn) (hanswers : EachAnswers turns) :
    (ToolResultsKept createPart (· = ·) turns ↔ ∀ toolCallId content, .tool toolCallId content ∉ turns) ∧
      (ToolResultsKept createPart SameJson turns ↔
        ∀ before toolCallId content after, turns = before ++ .tool toolCallId content :: after →
          Calls before toolCallId toolCallId ∧ HasMembers content) := by
  refine ⟨?_, ?_⟩
  · rw [toolResultsKept_iff hpart]
    constructor
    · intro h toolCallId content hmem
      obtain ⟨before, after, hturns⟩ := List.append_of_mem hmem
      obtain ⟨-, hsame⟩ := h before toolCallId content after hturns
      obtain ⟨content', hne, hsent⟩ := exists_other_content content
      exact hne (hsame content' hsent).symm
    · rintro h before toolCallId content after rfl
      exact absurd (by simp) (h toolCallId content)
  · rw [toolResultsKept_iff hpart]
    apply forall₄_congr
    intro before toolCallId content after
    apply imp_congr_right
    intro _
    rw [sameJson_of_sent_iff]

/-- The part as the SDK makes it. -/
def functionResponsePart (id name : String) (response : Json.Value) : HistoryPart :=
  .functionResponse ⟨id, name, response⟩

/-- One call, and what it is answered with. -/
def weatherHistory (content : String) : List ProviderChatTurn :=
  [.user "How warm?", .assistant "" (some [⟨"call_1", "weather", "{}"⟩]), .tool "call_1" content]

theorem weatherHistory_answers (content : String) : EachAnswers (weatherHistory content) := by
  rintro (_ | ⟨first, _ | ⟨second, before⟩⟩) toolCallId content' after h
  · cases h
  · cases h
  · obtain ⟨rfl, rfl, hrest⟩ : .user "How warm?" = first ∧
        .assistant "" (some [⟨"call_1", "weather", "{}"⟩]) = second ∧
        [.tool "call_1" content] = before ++ .tool toolCallId content' :: after := by
      simpa [weatherHistory] using h
    have hid : toolCallId = "call_1" := by
      cases before with
      | nil =>
        cases hrest
        rfl
      | cons _ before => cases before <;> cases hrest
    exact ⟨"weather", "", [⟨"call_1", "weather", "{}"⟩], by simp, ⟨"call_1", "weather", "{}"⟩, by simp, hid.symm, rfl⟩

theorem tool_results_kept_iff_weather :
    (ToolResultsKept functionResponsePart (· = ·) (weatherHistory "72") ↔
        ∀ toolCallId content, .tool toolCallId content ∉ weatherHistory "72") ∧
      (ToolResultsKept functionResponsePart SameJson (weatherHistory "72") ↔
        ∀ before toolCallId content after, weatherHistory "72" = before ++ .tool toolCallId content :: after →
          Calls before toolCallId toolCallId ∧ HasMembers content) :=
  tool_results_kept_iff functionResponsePart (fun _ _ _ => rfl) (weatherHistory "72") (weatherHistory_answers "72")

/-- "72" is sent as `{}`, like any other text that is no object, and under the id of the call
instead of the name of the function. -/
theorem plain_result_lost :
    EachAnswers (weatherHistory "72") ∧ ¬ ToolResultsKept functionResponsePart SameJson (weatherHistory "72") ∧
      contentOfTurn functionResponsePart (.tool "call_1" "72") =
        ⟨.user, [.functionResponse ⟨"call_1", "call_1", .obj []⟩]⟩ ∧
      contentOfTurn functionResponsePart (.tool "call_1" "sunny") =
        ⟨.user, [.functionResponse ⟨"call_1", "call_1", .obj []⟩]⟩ := by
  refine ⟨weatherHistory_answers "72", ?_, rfl, rfl⟩
  intro h
  obtain ⟨-, hsame⟩ := (toolResultsKept_iff (fun _ _ _ => rfl) _ _).mp h
    [.user "How warm?", .assistant "" (some [⟨"call_1", "weather", "{}"⟩])] "call_1" "72" [] rfl
  obtain ⟨m, ms, hparse⟩ := (sameJson_of_sent_iff "72").mp hsame
  cases hparse

/-! ## The ids of a response's calls -/

/-- The calls that are passed on: each with the id that was sent, if one was, and its name. -/
def GenerateContentResponse.namedCalls (r : GenerateContentResponse) : List (Option String × String) :=
  (r.functionCalls.getD []).filterMap fun f => (JsString.truthy f.name).map fun name => (f.id, name)

/-- The names of the calls that come without an id. -/
def GenerateContentResponse.unidentified (r : GenerateContentResponse) : List String :=
  (r.namedCalls.filter fun c => c.1.isNone).map Prod.snd

/-- No function is called twice without an id, and no id that was sent is one that is made up. -/
def GenerateContentResponse.IdsApart (r : GenerateContentResponse) : Prop :=
  r.unidentified.Nodup ∧ ∀ name ∈ r.unidentified, ∀ c ∈ r.namedCalls, c.1 ≠ some ("call_" ++ name)

section Ids

/-- Values that are given for some items and made up for the others are different when the given
ones are, the made up ones are, and none is both. -/
theorem nodup_getD_iff {α β : Type} (fallback : β → α) (items : List (Option α × β)) :
    (items.map fun i => i.1.getD (fallback i.2)).Nodup ↔
      (items.filterMap Prod.fst).Nodup ∧ ((items.filter fun i => i.1.isNone).map fun i => fallback i.2).Nodup ∧
        ∀ i ∈ items, ∀ j ∈ items, j.1 = none → i.1 ≠ some (fallback j.2) := by
  have hgiven : (items.filter fun i => i.1.isSome).map (fun i => i.1.getD (fallback i.2)) = items.filterMap Prod.fst := by
    induction items with
    | nil => rfl
    | cons i items ih =>
      obtain ⟨given, other⟩ := i
      cases given with
      | none => simpa using ih
      | some a => simpa using ih
  have hmade : (items.filter fun i => !i.1.isSome).map (fun i => i.1.getD (fallback i.2)) =
      (items.filter fun i => i.1.isNone).map fun i => fallback i.2 := by
    simp only [Option.not_isSome]
    apply List.map_congr_left
    intro i hi
    rw [Option.isNone_iff_eq_none.mp (List.mem_filter.mp hi).2]
    rfl
  -- The ids that were given and those that were made up are told apart first.
  rw [← ((List.filter_append_perm (fun i => i.1.isSome) items).map _).nodup_iff, List.map_append, hgiven, hmade,
    List.nodup_append]
  refine and_congr_right fun _ => and_congr_right fun _ => ?_
  constructor
  · intro h i hi j hj hnone hsome
    refine h (fallback j.2) (List.mem_filterMap.mpr ⟨i, hi, hsome⟩) (fallback j.2) ?_ rfl
    exact List.mem_map.mpr ⟨j, List.mem_filter.mpr ⟨hj, by rw [hnone]; rfl⟩, rfl⟩
  · intro h a ha b hb
    obtain ⟨i, hi, hsome⟩ := List.mem_filterMap.mp ha
    obtain ⟨j, hj, rfl⟩ := List.mem_map.mp hb
    obtain ⟨hj, hnone⟩ := List.mem_filter.mp hj
    rintro rfl
    exact h i hi j hj (Option.isNone_iff_eq_none.mp hnone) hsome

theorem toolCalls_ids (r : GenerateContentResponse) :
    r.toolCalls.map GatewayToolCall.id = r.namedCalls.map fun c => c.1.getD ("call_" ++ c.2) := by
  unfold GenerateContentResponse.toolCalls GenerateContentResponse.namedCalls FunctionCall.toolCall?
  simp only [List.map_filterMap, Option.map_map]
  rfl

/-- The ids that are passed on as they were sent. -/
theorem namedCalls_sent_sublist (r : GenerateContentResponse) :
    (r.namedCalls.filterMap Prod.fst).Sublist ((r.functionCalls.getD []).filterMap FunctionCall.id) := by
  unfold GenerateContentResponse.namedCalls
  rw [List.filterMap_filterMap]
  induction r.functionCalls.getD [] with
  | nil => exact List.Sublist.refl _
  | cons f fs ih =>
    cases hid : f.id with
    | none =>
      cases hname : JsString.truthy f.name with
      | none => simpa [List.filterMap_cons, hid, hname] using ih
      | some name => simpa [List.filterMap_cons, hid, hname] using ih
    | some id =>
      cases hname : JsString.truthy f.name with
      | none => simpa [List.filterMap_cons, hid, hname] using ih.cons id
      | some name => simpa [List.filterMap_cons, hid, hname] using ih.cons_cons id

end Ids

/-- With the ids that Gemini sends pairwise different, the ids of the gateway's calls are so
exactly when none of those that it makes up is made up twice or sent. -/
theorem tool_ids_distinct_iff (r : GenerateContentResponse) (modelId : String)
    (hsent : ((r.functionCalls.getD []).filterMap FunctionCall.id).Nodup) :
    ((parseGeminiResponseWithTools r modelId).toolCalls.map GatewayToolCall.id).Nodup ↔ r.IdsApart := by
  have hprefix : Function.Injective ("call_" ++ ·) := fun a b h => String.append_right_inj _ |>.mp h
  have hmade : (r.namedCalls.filter fun c => c.1.isNone).map (fun c => "call_" ++ c.2) =
      r.unidentified.map ("call_" ++ ·) := by
    unfold GenerateContentResponse.unidentified
    rw [List.map_map]
    rfl
  show (r.toolCalls.map GatewayToolCall.id).Nodup ↔ _
  rw [toolCalls_ids, nodup_getD_iff, hmade, List.nodup_map_iff hprefix,
    iff_true_intro ((namedCalls_sent_sublist r).nodup hsent), true_and]
  refine and_congr_right fun _ => ?_
  constructor
  · intro h name hname c hc
    obtain ⟨j, hj, rfl⟩ := List.mem_map.mp hname
    obtain ⟨hj, hnone⟩ := List.mem_filter.mp hj
    exact h c hc j hj (Option.isNone_iff_eq_none.mp hnone)
  · intro h i hi j hj hnone
    refine h j.2 (List.mem_map.mpr ⟨j, List.mem_filter.mpr ⟨hj, ?_⟩, rfl⟩) i hi
    rw [hnone]
    rfl

/-- A response that does nothing but call functions. -/
def callingResponse (calls : List FunctionCall) : GenerateContentResponse where
  text := none
  functionCalls := some calls
  thoughts := none
  thinkingContent := none
  parts := none
  finishReason := none
  modelVersion := none
  usageMetadata := none

theorem tool_ids_distinct_iff_weather :
    ((parseGeminiResponseWithTools (callingResponse [⟨some "fc_1", some "weather", none⟩, ⟨none, some "weather", none⟩])
        "gemini-2.5-flash").toolCalls.map GatewayToolCall.id).Nodup ↔
      (callingResponse [⟨some "fc_1", some "weather", none⟩, ⟨none, some "weather", none⟩]).IdsApart :=
  tool_ids_distinct_iff _ "gemini-2.5-flash" (by decide)

/-- Two calls of one function without ids get one id. -/
theorem parallel_calls_share_id :
    ¬ ∀ (r : GenerateContentResponse) (modelId : String),
      ((r.functionCalls.getD []).filterMap FunctionCall.id).Nodup →
        ((parseGeminiResponseWithTools r modelId).toolCalls.map GatewayToolCall.id).Nodup := by
  intro h
  have := h (callingResponse [⟨none, some "weather", none⟩, ⟨none, some "weather", none⟩]) "gemini-2.5-flash" (by decide)
  exact absurd this (by decide)

end AiGateway.Google
