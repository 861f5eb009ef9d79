import AiGateway.Lib.Table
import AiGateway.Providers.Responses

/- A response of the Responses API and the events that stream it: what `stream` makes of the
   events against what `complete` makes of the response.

   `Streams` says which events stream a response: every output item is added, has its
   arguments or its summary sent, and is done; the items may alternate; and the last event is
   `response.completed` or `response.incomplete`, with the response.

   `stream_parse_agree_iff`: the two agree if and only if the calls have different ids and their
   arguments are done in the order of the output, and the response is complete or has nothing
   that only its last event tells. `incomplete_reported_as_stop` is a response cut short that is
   streamed as complete. -/
namespace AiGateway.Responses

/-! ## Events that stream a response -/

/-- A function call of the output. -/
structure CallItem where
  itemId : String
  callId : String
  name : String
  arguments : String
  deriving DecidableEq

def OutputItem.call? : OutputItem → Option CallItem
  | .functionCall (some itemId) callId name arguments => some ⟨itemId, callId, name, arguments⟩
  | _ => none

def callItems (output : List OutputItem) : List CallItem := output.filterMap OutputItem.call?

/-- The item as it is added, with nothing in it yet. -/
def OutputItem.added : OutputItem → OutputItem
  | .functionCall id callId name _ => .functionCall id callId name ""
  | .reasoning _ => .reasoning (some [])
  | .message _ => .message []
  | .other => .other

/-- How far an item is: of its summary, the number of parts that are done and what was sent of
the next one. -/
inductive Phase where
  | waiting
  | opened (parts : ℕ) (part : String)
  | argumentsDone
  | closed
  deriving DecidableEq

def Phase.part : Phase → String
  | .opened _ part => part
  | _ => ""

/-- One event of an item. -/
inductive ItemStep : OutputItem → Phase → StreamEvent → Phase → Prop where
  | added (item : OutputItem) : ItemStep item .waiting (.outputItemAdded item.added) (.opened 0 "")
  | argumentsDone (itemId callId name arguments : String) :
      ItemStep (.functionCall (some itemId) callId name arguments) (.opened 0 "")
        (.functionCallArgumentsDone itemId name arguments) .argumentsDone
  | callDone (id : Option String) (callId name arguments : String) :
      ItemStep (.functionCall id callId name arguments) .argumentsDone
        (.outputItemDone (.functionCall id callId name arguments)) .closed
  | summaryDelta {summary : List SummaryPart} {parts : ℕ} {part text : String} (delta rest : String) :
      summary[parts]? = some (.summaryText text) → text = part ++ delta ++ rest →
      ItemStep (.reasoning (some summary)) (.opened parts part) (.reasoningSummaryTextDelta delta)
        (.opened parts (part ++ delta))
  | summaryDone {summary : List SummaryPart} {parts : ℕ} {text : String} :
      summary[parts]? = some (.summaryText text) →
      ItemStep (.reasoning (some summary)) (.opened parts text) (.reasoningSummaryTextDone text) (.opened (parts + 1) "")
  | summaryOther {summary : List SummaryPart} {parts : ℕ} :
      summary[parts]? = some .other →
      ItemStep (.reasoning (some summary)) (.opened parts "") .other (.opened (parts + 1) "")
  | reasoningDone (summary : Option (List SummaryPart)) :
      ItemStep (.reasoning summary) (.opened (summary.getD []).length "") (.outputItemDone (.reasoning summary)) .closed
  | messageDone (content : List MessagePart) :
      ItemStep (.message content) (.opened 0 "") (.outputItemDone (.message content)) .closed
  | otherDone : ItemStep .other (.opened 0 "") (.outputItemDone .other) .closed

/-- Events that come beside these: deltas of texts and of arguments, parts of a message. -/
def StreamEvent.beside : StreamEvent → Bool
  | .outputTextDelta _ | .refusalDone _ | .other => true
  | _ => false

/-- Events that bring the items of an output to some phases. -/
inductive Sends (output : List OutputItem) : List Phase → List StreamEvent → Prop where
  | start : Sends output (output.map fun _ => .waiting) []
  | item {phases : List Phase} {events : List StreamEvent} {i : ℕ} {item : OutputItem} {phase phase' : Phase}
      {event : StreamEvent} : Sends output phases events → output[i]? = some item → phases[i]? = some phase →
      ItemStep item phase event phase' → Sends output (phases.set i phase') (events ++ [event])
  | beside {phases : List Phase} {events : List StreamEvent} {event : StreamEvent} :
      Sends output phases events → event.beside = true → Sends output phases (events ++ [event])

/-- The item ids tell the calls apart, and no id is empty. -/
structure ProperIds (output : List OutputItem) : Prop where
  given : ∀ item ∈ output, item.isFunctionCall = true → ∃ call, item.call? = some call
  nodup : ((callItems output).map CallItem.itemId).Nodup
  nonempty : ∀ call ∈ callItems output, call.itemId ≠ "" ∧ call.callId ≠ ""

/-- The event that ends the stream. -/
def terminal (r : Response) : StreamEvent := if r.status = some .completed then .completed r else .incomplete r

structure Streams (r : Response) (events : List StreamEvent) : Prop where
  status : r.status = some .completed ∨ r.status = some .incomplete
  ids : ProperIds (r.output.getD [])
  sent : ∃ phases before, Sends (r.output.getD []) phases before ∧ (∀ phase ∈ phases, phase = .closed) ∧
    events = before ++ [terminal r]

/-! ## Agreement -/

/-- Tool calls, stop reason, usage and thoughts are those of the response. -/
def ParseAgrees (result : StreamResult) (r : Response) (modelId : String) : Prop :=
  ∃ final, result.final = some final ∧ final.stopReason = (parseOpenAiResponse r modelId).stopReason ∧
    final.usage = (parseOpenAiResponse r modelId).usage ∧ final.toolCalls = (parseOpenAiResponse r modelId).toolCalls ∧
    final.thinkingContent = extractResponsesReasoningSummaryText r.output

/-- The calls in the order in which their arguments are done. -/
def closedCalls (output : List OutputItem) (events : List StreamEvent) : List CallItem :=
  events.filterMap fun
    | .functionCallArgumentsDone itemId _ _ => (callItems output).find? fun call => call.itemId = itemId
    | _ => none

def StreamEvent.summaryDone? : StreamEvent → Option String
  | .reasoningSummaryTextDone text => some text
  | _ => none

/-- The part of a summary that was done last. -/
def lastSummary (events : List StreamEvent) : String := (events.reverse.findSome? StreamEvent.summaryDone?).getD ""

/-- The calls have different ids and are closed in order. -/
def CallsKept (output : List OutputItem) (events : List StreamEvent) : Prop :=
  ((callItems output).map CallItem.callId).Nodup ∧ closedCalls output events = callItems output

/-- Nothing is lost with the response of `response.incomplete`: there is no usage, the stop
reason is told by a call or is `stop` anyway, and the whole summary is its last part. -/
def NothingInTerminal (r : Response) (events : List StreamEvent) : Prop :=
  r.usage = none ∧
    (r.hasToolCalls = true ∨ (r.incompleteReason ≠ some .maxOutputTokens ∧ r.incompleteReason ≠ some .contentFilter)) ∧
    joinText ((r.output.getD []).flatMap OutputItem.summaryTexts) = lastSummary events

/-! ## Calls and their ids -/

section Ids
variable {output : List OutputItem}

theorem mem_callItems {call : CallItem} :
    call ∈ callItems output ↔ ∃ (i : ℕ) (item : OutputItem), output[i]? = some item ∧ item.call? = some call := by
  unfold callItems
  rw [List.mem_filterMap]
  constructor
  · intro h
    obtain ⟨item, hmem, hcall⟩ := h
    obtain ⟨i, hi⟩ := List.getElem?_of_mem hmem
    exact ⟨i, item, hi, hcall⟩
  · intro h
    obtain ⟨i, item, hi, hcall⟩ := h
    exact ⟨item, List.mem_of_getElem? hi, hcall⟩

/-- An item id belongs to one position. -/
theorem ProperIds.index_eq (hids : ProperIds output) {i j : ℕ} {a b : OutputItem} {c d : CallItem}
    (hi : output[i]? = some a) (hc : a.call? = some c) (hj : output[j]? = some b) (hd : b.call? = some d)
    (hsame : c.itemId = d.itemId) : i = j := by
  have hpairs := hids.nodup
  unfold callItems at hpairs
  rw [List.Nodup, List.pairwise_map, List.pairwise_filterMap, List.pairwise_iff_getElem] at hpairs
  obtain ⟨hilt, hia⟩ := List.getElem?_eq_some_iff.mp hi
  obtain ⟨hjlt, hjb⟩ := List.getElem?_eq_some_iff.mp hj
  obtain hlt | heq | hgt := Nat.lt_trichotomy i j
  · exact absurd hsame (hpairs i j hilt hjlt hlt c (by rw [hia, hc]) d (by rw [hjb, hd]))
  · exact heq
  · exact absurd hsame.symm (hpairs j i hjlt hilt hgt d (by rw [hjb, hd]) c (by rw [hia, hc]))

theorem ProperIds.find?_eq (hids : ProperIds output) {call : CallItem} (hmem : call ∈ callItems output) :
    ((callItems output).find? fun c => c.itemId = call.itemId) = some call := by
  have hinj := List.inj_on_of_nodup_map hids.nodup
  cases hfind : (callItems output).find? fun c => c.itemId = call.itemId with
  | none =>
    have hno := List.find?_eq_none.mp hfind call hmem
    simp at hno
  | some found =>
    have hid : found.itemId = call.itemId := by simpa using List.find?_some hfind
    rw [hinj (List.mem_of_find?_eq_some hfind) hmem hid]

theorem closedCalls_subset {events : List StreamEvent} {call : CallItem} (h : call ∈ closedCalls output events) :
    call ∈ callItems output := by
  obtain ⟨event, -, hevent⟩ := List.mem_filterMap.mp h
  cases event with
  | functionCallArgumentsDone itemId name arguments => exact List.mem_of_find?_eq_some hevent
  | _ => cases hevent

theorem closedCalls_append (events : List StreamEvent) (event : StreamEvent) :
    closedCalls output (events ++ [event]) = closedCalls output events ++ closedCalls output [event] :=
  List.filterMap_append

end Ids

/-! ## What one event of an item does -/

section Step
variable {item : OutputItem} {phase phase' : Phase} {event : StreamEvent}

theorem register_of_call {call : CallItem} (h : item.call? = some call) (hne : call.itemId ≠ "" ∧ call.callId ≠ "")
    (registry : JsMap String String) :
    registerResponsesFunctionCallItemId item registry = registry.set call.itemId call.callId ∧
      registerResponsesFunctionCallItemId item.added registry = registry.set call.itemId call.callId := by
  cases item with
  | functionCall id callId name arguments =>
    cases id with
    | none => cases h
    | some id =>
      cases h
      simp [registerResponsesFunctionCallItemId, OutputItem.added, hne]
  | reasoning summary => cases h
  | message content => cases h
  | other => cases h

theorem register_of_none (h : item.call? = none) (registry : JsMap String String) :
    registerResponsesFunctionCallItemId item registry = registry ∧
      registerResponsesFunctionCallItemId item.added registry = registry := by
  cases item with
  | functionCall id callId name arguments =>
    cases id with
    | none => exact ⟨rfl, rfl⟩
    | some id => cases h
  | reasoning summary => exact ⟨rfl, rfl⟩
  | message content => exact ⟨rfl, rfl⟩
  | other => exact ⟨rfl, rfl⟩

/-- The registry: an item registers itself when it is added, and again when it is done. -/
theorem ItemStep.registry (h : ItemStep item phase event phase') (s : StreamState)
    (hne : ∀ call, item.call? = some call → call.itemId ≠ "" ∧ call.callId ≠ "") :
    (phase ≠ .waiting ∧ (readEvent s event).itemIdToCallId = s.itemIdToCallId) ∨
      (item.call? = none ∧ (readEvent s event).itemIdToCallId = s.itemIdToCallId) ∨
      ∃ call, item.call? = some call ∧
        (readEvent s event).itemIdToCallId = s.itemIdToCallId.set call.itemId call.callId := by
  -- Both handlers that register go through the same function, on the item as it is then.
  have hregister : ∀ done, (readEvent s done).itemIdToCallId = registerResponsesFunctionCallItemId item s.itemIdToCallId ∨
      (readEvent s done).itemIdToCallId = registerResponsesFunctionCallItemId item.added s.itemIdToCallId →
      (item.call? = none ∧ (readEvent s done).itemIdToCallId = s.itemIdToCallId) ∨
        ∃ call, item.call? = some call ∧
          (readEvent s done).itemIdToCallId = s.itemIdToCallId.set call.itemId call.callId := by
    intro done hdone
    cases hcall : item.call? with
    | none =>
      obtain ⟨hitem, hadded⟩ := register_of_none hcall s.itemIdToCallId
      rw [hitem, hadded, or_self] at hdone
      exact .inl ⟨rfl, hdone⟩
    | some call =>
      obtain ⟨hitem, hadded⟩ := register_of_call hcall (hne call hcall) s.itemIdToCallId
      rw [hitem, hadded, or_self] at hdone
      exact .inr ⟨call, rfl, hdone⟩
  cases h with
  | added => exact .inr (hregister _ (.inr rfl))
  | argumentsDone => exact .inl ⟨by simp, rfl⟩
  | callDone => exact .inr (hregister _ (.inl rfl))
  | summaryDelta => exact .inl ⟨by simp, rfl⟩
  | summaryDone => exact .inl ⟨by simp, rfl⟩
  | summaryOther => exact .inl ⟨by simp, rfl⟩
  | reasoningDone => exact .inr (hregister _ (.inl rfl))
  | messageDone => exact .inr (hregister _ (.inl rfl))
  | otherDone => exact .inr (hregister _ (.inl rfl))

/-- The buffer: a part that is done replaces it, and only deltas add to it. -/
theorem ItemStep.buffer (h : ItemStep item phase event phase') (s : StreamState) (hafter : phase'.part = "") :
    (∃ text, event.summaryDone? = some text ∧ (readEvent s event).reasoningBuffer = text) ∨
      (phase.part = "" ∧ event.summaryDone? = none ∧ (readEvent s event).reasoningBuffer = s.reasoningBuffer) := by
  cases h with
  | @summaryDelta summary parts part text delta rest hpart htext =>
    obtain ⟨hpart, hdelta⟩ := String.append_eq_empty_iff.mp hafter
    refine .inr ⟨hpart, rfl, ?_⟩
    show s.reasoningBuffer ++ delta = s.reasoningBuffer
    rw [hdelta, String.append_empty]
  | summaryDone => exact .inl ⟨_, rfl, rfl⟩
  | reasoningDone => exact .inr ⟨rfl, rfl, rfl⟩
  | callDone => exact .inr ⟨rfl, rfl, rfl⟩
  | added => exact .inr ⟨rfl, rfl, rfl⟩
  | argumentsDone => exact .inr ⟨rfl, rfl, rfl⟩
  | summaryOther => exact .inr ⟨rfl, rfl, rfl⟩
  | messageDone => exact .inr ⟨rfl, rfl, rfl⟩
  | otherDone => exact .inr ⟨rfl, rfl, rfl⟩

end Step

/-- Events beside the items change nothing that is kept. -/
theorem readEvent_beside {event : StreamEvent} (h : event.beside = true) (s : StreamState) : readEvent s event = s := by
  cases event with
  | outputTextDelta delta => rfl
  | refusalDone refusal => rfl
  | other => rfl
  | _ => cases h

theorem closesCall_of_beside {event : StreamEvent} (h : event.beside = true) : event.closesCall = false := by
  cases event with
  | outputTextDelta delta => rfl
  | refusalDone refusal => rfl
  | other => rfl
  | _ => cases h

theorem readEvent_of_open {event : StreamEvent} (h : event.closesCall = false) {s : StreamState} :
    (readEvent s event).accumulatedToolCalls = s.accumulatedToolCalls := by
  cases event with
  | functionCallArgumentsDone itemId name arguments => cases h
  | outputItemDone item =>
    cases item with
    | functionCall id callId name arguments => cases h
    | _ => rfl
  | _ => rfl

theorem closedCalls_of_open {event : StreamEvent} (h : event.closesCall = false) {output : List OutputItem} :
    closedCalls output [event] = [] := by
  cases event with
  | functionCallArgumentsDone itemId name arguments => cases h
  | _ => rfl

/-! ## What the events have done so far -/

section Sends
variable {output : List OutputItem} {phases : List Phase} {events : List StreamEvent}

/-- What the loop has read. -/
def stateAfter (events : List StreamEvent) : StreamState := events.foldl readEvent .initial

theorem stateAfter_append (events : List StreamEvent) (event : StreamEvent) :
    stateAfter (events ++ [event]) = readEvent (stateAfter events) event := by
  simp [stateAfter]

theorem Sends.registered (hids : ProperIds output) (h : Sends output phases events) {i : ℕ} {item : OutputItem}
    {call : CallItem} {phase : Phase} (hitem : output[i]? = some item) (hcall : item.call? = some call)
    (hphase : phases[i]? = some phase) (hopen : phase ≠ .waiting) :
    (stateAfter events).itemIdToCallId.get? call.itemId = some call.callId := by
  induction h generalizing phase with
  | start =>
    rw [List.getElem?_map, hitem] at hphase
    cases hphase
    exact absurd rfl hopen
  | @item phases events j item' before after event _ hj hbefore hstep ih =>
    rw [stateAfter_append]
    have hne : ∀ c, item'.call? = some c → c.itemId ≠ "" ∧ c.callId ≠ "" := fun c hc =>
      hids.nonempty c (mem_callItems.mpr ⟨j, item', hj, hc⟩)
    -- Either the item itself moves, or another one, whose ids are its own.
    obtain ⟨rfl, rfl⟩ | ⟨hother, hphase⟩ := Table.getElem?_set_cases hphase
    · rw [hitem] at hj
      cases hj
      obtain ⟨hwaiting, hsame⟩ | ⟨hnone, -⟩ | ⟨c, hc, hset⟩ := hstep.registry (stateAfter events) hne
      · rw [hsame]
        exact ih hbefore hwaiting
      · rw [hcall] at hnone
        cases hnone
      · rw [hcall] at hc
        cases hc
        rw [hset, JsMap.get?_set_self]
    · have hrest := ih hphase hopen
      obtain ⟨-, hsame⟩ | ⟨-, hsame⟩ | ⟨c, hc, hset⟩ := hstep.registry (stateAfter events) hne
      · rw [hsame, hrest]
      · rw [hsame, hrest]
      · rw [hset, JsMap.get?_set_ne _ _ ?_, hrest]
        intro hsame
        exact hother (hids.index_eq hj hc hitem hcall hsame.symm)
  | beside _ hbeside ih =>
    rw [stateAfter_append, readEvent_beside hbeside]
    exact ih hphase hopen

/-- The arguments of a call are done from some phase on. -/
theorem Sends.closed_iff (hids : ProperIds output) (h : Sends output phases events) {i : ℕ} {item : OutputItem}
    {call : CallItem} {phase : Phase} (hitem : output[i]? = some item) (hcall : item.call? = some call)
    (hphase : phases[i]? = some phase) :
    call ∈ closedCalls output events ↔ phase = .argumentsDone ∨ phase = .closed := by
  induction h generalizing phase with
  | start =>
    rw [List.getElem?_map, hitem] at hphase
    cases hphase
    simp [closedCalls]
  | @item phases events j item' before after event _ hj hbefore hstep ih =>
    rw [closedCalls_append, List.mem_append]
    obtain ⟨rfl, rfl⟩ | ⟨hother, hphase⟩ := Table.getElem?_set_cases hphase
    · rw [hitem] at hj
      cases hj
      rw [ih hbefore]
      cases hstep with
      | added => simp [closedCalls]
      | argumentsDone itemId callId name arguments =>
        cases hcall
        have hfind := hids.find?_eq (mem_callItems.mpr ⟨j, _, hitem, rfl⟩)
        simp [closedCalls, hfind]
      | callDone => simp [closedCalls]
      | summaryDelta => cases hcall
      | summaryDone => cases hcall
      | summaryOther => cases hcall
      | reasoningDone => cases hcall
      | messageDone => cases hcall
      | otherDone => cases hcall
    · rw [ih hphase, or_iff_left_iff_imp]
      -- the event is of another item, with another id
      intro hmem
      cases hstep with
      | argumentsDone itemId callId name arguments =>
        obtain ⟨event, hevent, hfound⟩ := List.mem_filterMap.mp hmem
        obtain rfl := List.mem_singleton.mp hevent
        have hid : call.itemId = itemId := by simpa using List.find?_some hfound
        exact absurd (hids.index_eq hj rfl hitem hcall hid.symm) hother
      | _ => simp [closedCalls] at hmem
  | beside _ hbeside ih =>
    rw [closedCalls_append, closedCalls_of_open (closesCall_of_beside hbeside), List.append_nil]
    exact ih hphase

/-- What is kept of a call, under its id. -/
def CallItem.entry (call : CallItem) : String × String × String :=
  (call.callId, call.name, orEmptyObject call.arguments)

/-- An event that closes no call leaves the calls as they are. -/
theorem entries_of_open {event : StreamEvent} (hopen : event.closesCall = false)
    (h : (stateAfter events).accumulatedToolCalls.entries = (closedCalls output events).map CallItem.entry) :
    (stateAfter (events ++ [event])).accumulatedToolCalls.entries =
      (closedCalls output (events ++ [event])).map CallItem.entry := by
  rw [stateAfter_append, closedCalls_append, closedCalls_of_open hopen, List.append_nil, readEvent_of_open hopen, h]

/-- A call that is not closed yet has no entry under its id. -/
theorem get?_of_not_closed (hnodup : ((callItems output).map CallItem.callId).Nodup)
    (h : (stateAfter events).accumulatedToolCalls.entries = (closedCalls output events).map CallItem.entry)
    {call : CallItem} (hmem : call ∈ callItems output) (hnew : call ∉ closedCalls output events) :
    (stateAfter events).accumulatedToolCalls.get? call.callId = none := by
  rw [Option.eq_none_iff_forall_ne_some]
  intro value hvalue
  have hentry := JsMap.mem_entries.mpr hvalue
  rw [h] at hentry
  obtain ⟨other, hclosed, heq⟩ := List.mem_map.mp hentry
  have hid : other.callId = call.callId := congrArg Prod.fst heq
  exact hnew (List.inj_on_of_nodup_map hnodup (closedCalls_subset hclosed) hmem hid ▸ hclosed)

/-- The calls are kept in the order in which they are closed, if their ids differ. -/
theorem Sends.entries (hids : ProperIds output) (hnodup : ((callItems output).map CallItem.callId).Nodup)
    (h : Sends output phases events) :
    (stateAfter events).accumulatedToolCalls.entries = (closedCalls output events).map CallItem.entry := by
  induction h with
  | start => rfl
  | @item phases events j item' before after event hsends hj hbefore hstep ih =>
    cases hstep with
    | argumentsDone itemId callId name arguments =>
      have hmem := mem_callItems.mpr ⟨j, _, hj, rfl⟩
      -- Its own arguments.done comes first for this call, so that the entry is new and stands last.
      have hregistered := hsends.registered hids hj rfl hbefore (by simp)
      have hnew : (⟨itemId, callId, name, arguments⟩ : CallItem) ∉ closedCalls output events := by
        rw [hsends.closed_iff hids hj rfl hbefore]
        simp
      have habsent := get?_of_not_closed hnodup ih hmem hnew
      have hfind := hids.find?_eq hmem
      rw [stateAfter_append, closedCalls_append]
      show (JsMap.set _ (((stateAfter events).itemIdToCallId.get? itemId).getD itemId) _).entries = _
      rw [hregistered, Option.getD_some, JsMap.set_of_get?_none _ habsent, ih]
      simp [closedCalls, hfind, CallItem.entry, extractResponsesStreamToolCallDone]
    | callDone id callId name arguments =>
      obtain ⟨call, hcall⟩ := hids.given _ (List.mem_of_getElem? hj) rfl
      have hclosed := (hsends.closed_iff hids hj hcall hbefore).mpr (.inl rfl)
      cases id with
      | none => cases hcall
      | some itemId =>
        cases hcall
        -- The finished item writes the entry of its call once more, with the same arguments.
        have hentry := List.mem_map_of_mem (f := CallItem.entry) hclosed
        rw [← ih, CallItem.entry] at hentry
        rw [stateAfter_append, closedCalls_append]
        show (JsMap.set _ callId (name, orEmptyObject arguments)).entries = _
        rw [JsMap.set_of_get?_some (JsMap.mem_entries.mp hentry), ih]
        simp [closedCalls]
    | added => exact entries_of_open rfl ih
    | summaryDelta => exact entries_of_open rfl ih
    | summaryDone => exact entries_of_open rfl ih
    | summaryOther => exact entries_of_open rfl ih
    | reasoningDone => exact entries_of_open rfl ih
    | messageDone => exact entries_of_open rfl ih
    | otherDone => exact entries_of_open rfl ih
  | beside _ hbeside ih => exact entries_of_open (closesCall_of_beside hbeside) ih

theorem lastSummary_append (events : List StreamEvent) (event : StreamEvent) :
    lastSummary (events ++ [event]) = event.summaryDone?.getD (lastSummary events) := by
  unfold lastSummary
  rw [List.reverse_append]
  show (List.findSome? StreamEvent.summaryDone? (event :: events.reverse)).getD "" = _
  rw [List.findSome?_cons]
  cases event.summaryDone? <;> rfl

/-- As long as no part of a summary is half sent, the buffer holds the last part. -/
theorem Sends.buffer (h : Sends output phases events) (hparts : ∀ phase ∈ phases, phase.part = "") :
    (stateAfter events).reasoningBuffer = lastSummary events := by
  induction h with
  | start => rfl
  | @item phases events j item' before after event _ hj hbefore hstep ih =>
    have hlt : j < phases.length := (List.getElem?_eq_some_iff.mp hbefore).1
    rw [stateAfter_append, lastSummary_append]
    obtain ⟨text, hdone, hbuffer⟩ | ⟨hpart, hnone, hbuffer⟩ :=
      hstep.buffer (stateAfter events) (hparts after (List.mem_set hlt after))
    · rw [hdone, hbuffer]
      rfl
    · rw [hnone, hbuffer]
      apply ih
      intro phase hmem
      obtain ⟨k, hk⟩ := List.getElem?_of_mem hmem
      by_cases hjk : j = k
      · rw [← hjk, hbefore] at hk
        cases hk
        exact hpart
      · apply hparts phase
        apply List.mem_of_getElem? (i := k)
        rw [List.getElem?_set_ne hjk, hk]
  | @beside phases events event _ hbeside ih =>
    have hnone : event.summaryDone? = none := by
      cases event with
      | reasoningSummaryTextDone text => cases hbeside
      | _ => rfl
    rw [stateAfter_append, lastSummary_append, readEvent_beside hbeside, hnone, ih hparts]
    rfl

/-- The last summary part is the text of an event, unless there was none. -/
theorem lastSummary_sent (hne : lastSummary events ≠ "") : .reasoningSummaryTextDone (lastSummary events) ∈ events := by
  unfold lastSummary at hne ⊢
  cases hfound : events.reverse.findSome? StreamEvent.summaryDone? with
  | none =>
    rw [hfound] at hne
    exact absurd rfl hne
  | some text =>
    obtain ⟨event, hevent, hdone⟩ := List.exists_of_findSome?_eq_some hfound
    cases event with
    | reasoningSummaryTextDone text' =>
      cases hdone
      exact List.mem_reverse.mp hevent
    | _ => cases hdone

/-- A part that is done is one of the output. -/
theorem Sends.summary_mem (h : Sends output phases events) {text : String}
    (hdone : .reasoningSummaryTextDone text ∈ events) (hne : text ≠ "") : text ∈ output.flatMap OutputItem.summaryTexts := by
  induction h with
  | start => cases hdone
  | @item phases events j item' before after event _ hj hbefore hstep ih =>
    obtain hold | hnew := List.mem_append.mp hdone
    · exact ih hold
    · obtain rfl := List.mem_singleton.mp hnew
      cases hstep with
      | @summaryDone summary parts text hpart =>
        apply List.mem_flatMap.mpr
        refine ⟨_, List.mem_of_getElem? hj, List.mem_filterMap.mpr ⟨_, List.mem_of_getElem? hpart, ?_⟩⟩
        show JsString.truthy (some text) = some text
        rw [JsString.truthy_some, if_neg hne]
  | beside _ hbeside ih =>
    obtain hold | hnew := List.mem_append.mp hdone
    · exact ih hold
    · obtain rfl := List.mem_singleton.mp hnew
      cases hbeside

/-- Only the last event of a stream carries a response. -/
theorem Sends.completed_none (h : Sends output phases events) : ∀ event ∈ events, event.completed? = none := by
  induction h with
  | start =>
    intro event hevent
    cases hevent
  | item _ _ _ hstep ih =>
    intro event hevent
    obtain hold | hnew := List.mem_append.mp hevent
    · exact ih event hold
    · obtain rfl := List.mem_singleton.mp hnew
      cases hstep <;> rfl
  | beside _ hbeside ih =>
    intro event hevent
    obtain hold | hnew := List.mem_append.mp hevent
    · exact ih event hold
    · obtain rfl := List.mem_singleton.mp hnew
      cases event with
      | completed response => cases hbeside
      | _ => rfl

end Sends

/-! ## Stream and response -/

def CallItem.toolCall (call : CallItem) : GatewayToolCall := ⟨call.callId, call.name, orEmptyObject call.arguments⟩

theorem orEmptyObject_orEmptyObject (text : String) : orEmptyObject (orEmptyObject text) = orEmptyObject text := by
  by_cases htext : text = "" <;> simp [orEmptyObject, htext]

theorem extractResponsesToolCalls_eq {output : Option (List OutputItem)} (hids : ProperIds (output.getD [])) :
    extractResponsesToolCalls output = (callItems (output.getD [])).map CallItem.toolCall := by
  unfold extractResponsesToolCalls callItems
  rw [List.map_filterMap]
  apply List.filterMap_congr
  intro item hitem
  cases item with
  | functionCall id callId name arguments =>
    obtain ⟨call, hcall⟩ := hids.given _ hitem rfl
    cases id with
    | none => cases hcall
    | some id => rfl
  | _ => rfl

theorem hasToolCalls_eq_false {r : Response} : r.hasToolCalls = false ↔ extractResponsesToolCalls r.output = [] := by
  constructor
  · exact extractResponsesToolCalls_eq_nil
  · intro hnil
    apply List.any_eq_false.mpr
    intro item hitem hcall
    obtain ⟨call, htoolCall⟩ := isFunctionCall_iff.mp hcall
    rw [List.filterMap_eq_nil_iff.mp hnil item hitem] at htoolCall
    cases htoolCall

/-- Lists with the same images are equal where the function tells their members apart. -/
theorem eq_of_map_eq {α β : Type} {f : α → β} {l m : List α} (hinj : ∀ a ∈ m, ∀ b ∈ m, f a = f b → a = b)
    (hsub : ∀ a ∈ l, a ∈ m) (hmap : l.map f = m.map f) : l = m := by
  apply List.ext_getElem?
  intro i
  have hi : (l.map f)[i]? = (m.map f)[i]? := by rw [hmap]
  rw [List.getElem?_map, List.getElem?_map] at hi
  cases hl : l[i]? with
  | none =>
    rw [hl] at hi
    exact (Option.map_eq_none_iff.mp hi.symm).symm
  | some a =>
    rw [hl] at hi
    obtain ⟨b, hb, hfb⟩ := Option.map_eq_some_iff.mp hi.symm
    rw [hb, hinj a (hsub a (List.mem_of_getElem? hl)) b (List.mem_of_getElem? hb) hfb.symm]

section Agreement
variable {r : Response} {events : List StreamEvent}

/-- What is left when the stream has ended. -/
structure EndState (r : Response) (events : List StreamEvent) (s : StreamState) : Prop where
  finalResponse : s.finalResponse = if r.status = some .completed then some r else none
  entries : ((callItems (r.output.getD [])).map CallItem.callId).Nodup →
    s.accumulatedToolCalls.entries = (closedCalls (r.output.getD []) events).map CallItem.entry
  buffer : s.reasoningBuffer = lastSummary events
  summary : lastSummary events ≠ "" → lastSummary events ∈ (r.output.getD []).flatMap OutputItem.summaryTexts

theorem Streams.endState (h : Streams r events) : EndState r events (stateAfter events) := by
  obtain ⟨phases, before, hsends, hclosed, rfl⟩ := h.sent
  have hread : ∀ s, readEvent s (terminal r) =
      { s with finalResponse := if r.status = some .completed then some r else s.finalResponse } := by
    intro s
    unfold terminal
    split <;> rfl
  have hopen : (terminal r).closesCall = false ∧ (terminal r).summaryDone? = none := by
    unfold terminal
    split <;> exact ⟨rfl, rfl⟩
  have hlast : lastSummary (before ++ [terminal r]) = lastSummary before := by
    rw [lastSummary_append, hopen.2]
    rfl
  have hfinal : (stateAfter before).finalResponse = none := by
    have hnone : before.reverse.findSome? StreamEvent.completed? = none := by
      rw [List.findSome?_eq_none_iff]
      intro event hevent
      exact hsends.completed_none event (List.mem_reverse.mp hevent)
    rw [stateAfter, (foldl_readEvent before .initial).1, hnone]
    rfl
  refine ⟨?_, ?_, ?_, ?_⟩
  · rw [stateAfter_append, hread, ← hfinal]
  · intro hnodup
    rw [stateAfter_append, hread, closedCalls_append, closedCalls_of_open hopen.1, List.append_nil]
    exact hsends.entries h.ids hnodup
  · rw [stateAfter_append, hread, hlast]
    exact hsends.buffer fun phase hmem => by rw [hclosed phase hmem]; rfl
  · rw [hlast]
    intro hne
    exact hsends.summary_mem (lastSummary_sent hne) hne

variable {s : StreamState}

theorem EndState.calls_iff (h : EndState r events s) (hids : ProperIds (r.output.getD [])) :
    s.getFinalToolCalls = extractResponsesToolCalls r.output ↔ CallsKept (r.output.getD []) events := by
  rw [extractResponsesToolCalls_eq hids]
  have hentry : ∀ calls : List CallItem, s.accumulatedToolCalls.entries = calls.map CallItem.entry →
      s.getFinalToolCalls = calls.map CallItem.toolCall := by
    intro calls hentries
    unfold StreamState.getFinalToolCalls
    rw [hentries, List.map_map]
    apply List.map_congr_left
    intro call _
    simp [CallItem.entry, CallItem.toolCall, orEmptyObject_orEmptyObject]
  constructor
  · intro hsame
    -- the keys of the map are the ids of the calls
    have hkeys : s.accumulatedToolCalls.entries.map Prod.fst = (callItems (r.output.getD [])).map CallItem.callId := by
      have hids := congrArg (List.map GatewayToolCall.id) hsame
      rw [StreamState.getFinalToolCalls, List.map_map, List.map_map] at hids
      exact hids
    have hnodup : ((callItems (r.output.getD [])).map CallItem.callId).Nodup := by
      rw [← hkeys]
      exact s.accumulatedToolCalls.nodup
    refine ⟨hnodup, ?_⟩
    rw [h.entries hnodup, List.map_map] at hkeys
    have hinj := List.inj_on_of_nodup_map hnodup
    exact eq_of_map_eq (fun a ha b hb hab => hinj ha hb hab) (fun a ha => closedCalls_subset ha) hkeys
  · intro hkept
    apply hentry
    rw [h.entries hkept.1, hkept.2]

theorem EndState.stopReason_iff (h : EndState r events s) (hstatus : r.status = some .completed ∨ r.status = some .incomplete)
    (hcalls : s.getFinalToolCalls = extractResponsesToolCalls r.output) :
    s.getStopReason = mapResponsesStopReason r ↔ r.status = some .completed ∨ r.hasToolCalls = true ∨
      (r.incompleteReason ≠ some .maxOutputTokens ∧ r.incompleteReason ≠ some .contentFilter) := by
  have hempty : s.accumulatedToolCalls.entries = [] ↔ r.hasToolCalls = false := by
    rw [hasToolCalls_eq_false, ← hcalls]
    unfold StreamState.getFinalToolCalls
    exact List.map_eq_nil_iff.symm
  unfold StreamState.getStopReason mapResponsesStopReason
  by_cases hhas : r.hasToolCalls = true
  · have hne : s.accumulatedToolCalls.entries ≠ [] := by
      intro hnil
      rw [hempty.mp hnil] at hhas
      cases hhas
    simp [hhas, hne]
  · have hnil := hempty.mpr (eq_false_of_ne_true hhas)
    rw [h.finalResponse, hnil]
    obtain hcompleted | hincomplete := hstatus
    · simp [hcompleted, hhas]
    · cases hreason : r.incompleteReason with
      | none => simp [hincomplete, hhas]
      | some reason => cases reason <;> simp [hincomplete, hhas]

theorem EndState.usage_iff (h : EndState r events s) :
    s.getUsageMetadata = r.usage.map Usage.providerUsage ↔ r.status = some .completed ∨ r.usage = none := by
  unfold StreamState.getUsageMetadata
  rw [h.finalResponse]
  by_cases hcompleted : r.status = some .completed
  · simp [hcompleted]
  · cases r.usage <;> simp [hcompleted]

theorem joinText_summary_eq_empty {output : List OutputItem} (h : joinText (output.flatMap OutputItem.summaryTexts) = "") :
    output.flatMap OutputItem.summaryTexts = [] := by
  cases htexts : output.flatMap OutputItem.summaryTexts with
  | nil => rfl
  | cons text texts =>
    have hmem : text ∈ output.flatMap OutputItem.summaryTexts := by simp [htexts]
    have hne : text ≠ "" := by
      obtain ⟨item, -, hitem⟩ := List.mem_flatMap.mp hmem
      cases item with
      | reasoning summary =>
        obtain ⟨part, -, hpart⟩ := List.mem_filterMap.mp hitem
        cases part with
        | summaryText said => exact (JsString.truthy_eq_some hpart).2
        | other => cases hpart
      | _ => cases hitem
    rw [htexts] at h
    exact absurd (String.append_eq_empty_iff.mp h).1 hne

theorem EndState.thinking_iff (h : EndState r events s) :
    JsString.truthy s.getThinkingContent = extractResponsesReasoningSummaryText r.output ↔
      r.status = some .completed ∨
        joinText ((r.output.getD []).flatMap OutputItem.summaryTexts) = lastSummary events := by
  unfold StreamState.getThinkingContent
  rw [h.finalResponse, h.buffer]
  by_cases hcompleted : r.status = some .completed
  · simp only [hcompleted, if_true, Option.bind_some, true_or, iff_true]
    unfold extractResponsesReasoningSummaryText
    by_cases hjoined : joinText ((r.output.getD []).flatMap OutputItem.summaryTexts) = ""
    · -- no text at all, so the buffer has none
      have hlast : lastSummary events = "" := by
        by_contra hne
        have hmem := h.summary hne
        rw [joinText_summary_eq_empty hjoined] at hmem
        cases hmem
      simp [JsString.truthy_some, hjoined, hlast]
    · simp [JsString.truthy_some, hjoined]
  · have hnone : extractResponsesReasoningSummaryText none = none := rfl
    simp only [hcompleted, if_false, Option.bind_none, hnone, Option.none_or, JsString.truthy_truthy, false_or]
    unfold extractResponsesReasoningSummaryText
    rw [JsString.truthy_some_inj]
    exact eq_comm

end Agreement

theorem stream_parse_agree_iff (r : Response) (events : List StreamEvent) (modelId : String) (h : Streams r events) :
    ParseAgrees (stream ⟨events, false⟩) r modelId ↔
      CallsKept (r.output.getD []) events ∧ (r.status = some .completed ∨ NothingInTerminal r events) := by
  have hend := h.endState
  have hcalls := hend.calls_iff h.ids
  have hfinal : ParseAgrees (stream ⟨events, false⟩) r modelId ↔
      (stateAfter events).getStopReason = mapResponsesStopReason r ∧
        (stateAfter events).getUsageMetadata = r.usage.map Usage.providerUsage ∧
        (stateAfter events).getFinalToolCalls = extractResponsesToolCalls r.output ∧
        JsString.truthy (stateAfter events).getThinkingContent = extractResponsesReasoningSummaryText r.output := by
    constructor
    · intro hagree
      obtain ⟨final, hfinal, hstop, husage, htoolCalls, hthinking⟩ := hagree
      cases hfinal
      exact ⟨Option.some.inj hstop, husage, htoolCalls, hthinking⟩
    · intro hagree
      obtain ⟨hstop, husage, htoolCalls, hthinking⟩ := hagree
      exact ⟨_, rfl, congrArg some hstop, husage, htoolCalls, hthinking⟩
  rw [hfinal, hend.usage_iff, hend.thinking_iff, hcalls]
  unfold NothingInTerminal
  constructor
  · intro hagree
    obtain ⟨hstop, husage, hkept, hthinking⟩ := hagree
    -- The stop reason depends on the calls, which is why they are settled first.
    have hstop := (hend.stopReason_iff h.status (hcalls.mpr hkept)).mp hstop
    refine ⟨hkept, ?_⟩
    by_cases hcompleted : r.status = some .completed
    · exact .inl hcompleted
    · exact .inr ⟨husage.resolve_left hcompleted, hstop.resolve_left hcompleted, hthinking.resolve_left hcompleted⟩
  · intro hcondition
    obtain ⟨hkept, hterminal⟩ := hcondition
    rw [hend.stopReason_iff h.status (hcalls.mpr hkept)]
    obtain hcompleted | ⟨husage, hstop, hthinking⟩ := hterminal
    · exact ⟨.inl hcompleted, .inl hcompleted, hkept, .inl hcompleted⟩
    · exact ⟨.inr hstop, .inr husage, hkept, .inr hthinking⟩

/-! ## A response that is cut short -/

/-- The text "hi". -/
def hiResponse (status : Status) (reason : Option IncompleteReason) : Response :=
  ⟨some "hi", some [.message [.outputText "hi"]], some status, reason, some "gpt-5", none⟩

def hiEvents (r : Response) : List StreamEvent :=
  [.other, .outputItemAdded (.message []), .outputTextDelta "hi", .outputItemDone (.message [.outputText "hi"]), terminal r]

theorem hiEvents_stream (status : Status) (reason : Option IncompleteReason)
    (hstatus : some status = some .completed ∨ some status = some .incomplete) :
    Streams (hiResponse status reason) (hiEvents (hiResponse status reason)) where
  status := hstatus
  ids := by
    refine ⟨?_, List.nodup_nil, ?_⟩
    · intro item hitem hcall
      obtain rfl := List.mem_singleton.mp hitem
      cases hcall
    · intro call hcall
      cases hcall
  sent := by
    have hcreated : Sends [.message [.outputText "hi"]] [.waiting] [.other] := .beside .start rfl
    have hadded : Sends [.message [.outputText "hi"]] [.opened 0 ""] [.other, .outputItemAdded (.message [])] :=
      .item (i := 0) hcreated rfl rfl (.added _)
    have htext : Sends [.message [.outputText "hi"]] [.opened 0 ""]
        [.other, .outputItemAdded (.message []), .outputTextDelta "hi"] := .beside hadded rfl
    have hdone := Sends.item (i := 0) htext rfl rfl (.messageDone _)
    refine ⟨_, _, hdone, ?_, rfl⟩
    intro phase hphase
    exact List.mem_singleton.mp hphase

theorem hi_completed_agrees :
    ParseAgrees (stream ⟨hiEvents (hiResponse .completed none), false⟩) (hiResponse .completed none) "gpt-5" := by
  apply (stream_parse_agree_iff _ _ "gpt-5" (hiEvents_stream .completed none (.inl rfl))).mpr
  exact ⟨⟨List.nodup_nil, rfl⟩, .inl rfl⟩

theorem incomplete_reported_as_stop :
    ¬ ∀ (r : Response) (events : List StreamEvent) (modelId : String), Streams r events →
      ParseAgrees (stream ⟨events, false⟩) r modelId := by
  intro hclaim
  obtain ⟨final, hfinal, hstop, -⟩ :=
    hclaim _ _ "gpt-5" (hiEvents_stream .incomplete (some .maxOutputTokens) (.inr rfl))
  cases hfinal
  cases hstop

end AiGateway.Responses
