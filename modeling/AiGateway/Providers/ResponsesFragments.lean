import AiGateway.Providers.ResponsesStream
import Mathlib.Data.List.Perm.Basic

/- What the loop over a Responses stream accumulates, whatever the rest of the stream is: the
   function calls, which two kinds of events report, one of them under the id of the item; and
   the summary of the reasoning, which comes in deltas and is closed part by part.

   * `calls_accumulated`: each call is kept once, under its `call_id`, if an item whose arguments
     are reported done is one that the registry takes (`Registrable`): the guard of
     `registerResponsesFunctionCallItemId` leaves an empty id out, and `unregistered_call_misplaced`
     is a call that is kept under the id of its item.
   * `summary_kept_iff`: a part that is done replaces what is in the buffer, so the buffer holds
     the summary only if all parts before the last are empty. -/
namespace AiGateway.Responses

/-! ## Events of function calls -/

/-- The item is added, with what it has by then. -/
def CallItem.AddedBy (call : CallItem) (event : StreamEvent) : Prop :=
  ∃ name arguments, event = .outputItemAdded (.functionCall (some call.itemId) call.callId name arguments)

def CallItem.argumentsDone (call : CallItem) : StreamEvent :=
  .functionCallArgumentsDone call.itemId call.name call.arguments

def CallItem.itemDone (call : CallItem) : StreamEvent :=
  .outputItemDone (.functionCall (some call.itemId) call.callId call.name call.arguments)

def CallItem.ClosedBy (call : CallItem) (event : StreamEvent) : Prop :=
  event = call.argumentsDone ∨ event = call.itemDone

/-- An event that says something of a function call. -/
def StreamEvent.ofCall : StreamEvent → Bool
  | .outputItemAdded item => item.isFunctionCall
  | .outputItemDone item => item.isFunctionCall
  | .functionCallArgumentsDone .. => true
  | _ => false

/-- Events of some calls, a call being added before it is closed. -/
structure CallEvents (calls : List CallItem) (events : List StreamEvent) : Prop where
  itemIds : (calls.map CallItem.itemId).Nodup
  callIds : (calls.map CallItem.callId).Nodup
  known : ∀ event ∈ events, event.ofCall = true → ∃ call ∈ calls, call.AddedBy event ∨ call.ClosedBy event
  addedFirst : ∀ (n : ℕ) (event : StreamEvent), events[n]? = some event → ∀ call ∈ calls, call.ClosedBy event →
    ∃ earlier ∈ events.take n, call.AddedBy earlier

/-- Events that stream some calls; of the two events that close a call one may be missing. -/
structure StreamsCalls (calls : List CallItem) (events : List StreamEvent) : Prop extends CallEvents calls events where
  closed : ∀ call ∈ calls, ∃ event ∈ events, call.ClosedBy event

/-- The registry knows the call by its item id, or the item id will do. -/
def CallItem.Registrable (call : CallItem) : Prop :=
  (call.itemId ≠ "" ∧ call.callId ≠ "") ∨ call.itemId = call.callId

instance (call : CallItem) : Decidable call.Registrable :=
  inferInstanceAs (Decidable ((call.itemId ≠ "" ∧ call.callId ≠ "") ∨ call.itemId = call.callId))

section Calls
variable {calls : List CallItem} {events : List StreamEvent} {event : StreamEvent} {call : CallItem}

theorem CallEvents.before (h : CallEvents calls (events ++ [event])) : CallEvents calls events where
  itemIds := h.itemIds
  callIds := h.callIds
  known := fun e he => h.known e (List.mem_append_left _ he)
  addedFirst := by
    intro n e he c hc hclosed
    have hn : n < events.length := (List.getElem?_eq_some_iff.mp he).1
    have hadded := h.addedFirst n e (by rw [List.getElem?_append_left hn, he]) c hc hclosed
    rwa [List.take_append_of_le_length (Nat.le_of_lt hn)] at hadded

/-- A call that is closed next has been added. -/
theorem CallEvents.added (h : CallEvents calls (events ++ [event])) (hcall : call ∈ calls) (hclosed : call.ClosedBy event) :
    ∃ earlier ∈ events, call.AddedBy earlier := by
  have hadded := h.addedFirst events.length event (by simp) call hcall hclosed
  rwa [List.take_left] at hadded

/-! ## The registry -/

theorem registry_of_other (h : event.ofCall = false) (s : StreamState) :
    (readEvent s event).itemIdToCallId = s.itemIdToCallId := by
  cases event with
  | outputItemAdded item =>
    cases item with
    | functionCall id callId name arguments => cases h
    | _ => rfl
  | outputItemDone item =>
    cases item with
    | functionCall id callId name arguments => cases h
    | _ => rfl
  | _ => rfl

/-- A call is registered, or left out for an empty id. -/
theorem register_call (call : CallItem) (name arguments : String) (registry : JsMap String String) :
    registerResponsesFunctionCallItemId (.functionCall (some call.itemId) call.callId name arguments) registry =
      if call.itemId = "" ∨ call.callId = "" then registry else registry.set call.itemId call.callId := rfl

/-- An event leaves the registry alone, or registers one of the calls. -/
theorem CallEvents.registry_step (h : CallEvents calls (events ++ [event])) (s : StreamState) :
    (readEvent s event).itemIdToCallId = s.itemIdToCallId ∨
      ∃ c ∈ calls, (readEvent s event).itemIdToCallId = s.itemIdToCallId.set c.itemId c.callId := by
  have hregister : ∀ c ∈ calls, ∀ registry : JsMap String String,
      registry = (if c.itemId = "" ∨ c.callId = "" then s.itemIdToCallId else s.itemIdToCallId.set c.itemId c.callId) →
      registry = s.itemIdToCallId ∨ ∃ c ∈ calls, registry = s.itemIdToCallId.set c.itemId c.callId := by
    intro c hc registry hregistry
    split at hregistry
    · exact .inl hregistry
    · exact .inr ⟨c, hc, hregistry⟩
  cases hof : event.ofCall with
  | false => exact .inl (registry_of_other hof s)
  | true =>
    obtain ⟨c, hc, ⟨name, arguments, rfl⟩ | rfl | rfl⟩ := h.known event (by simp) hof
    · exact hregister c hc _ (register_call c name arguments _)
    · exact .inl rfl
    · exact hregister c hc _ (register_call c c.name c.arguments _)

/-- The registry has the calls' own ids only. -/
theorem CallEvents.registry_sound (h : CallEvents calls events) {itemId callId : String}
    (hget : (stateAfter events).itemIdToCallId.get? itemId = some callId) :
    ∃ c ∈ calls, c.itemId = itemId ∧ c.callId = callId := by
  induction events using List.reverseRecOn with
  | nil => cases hget
  | append_singleton events event ih =>
    rw [stateAfter_append] at hget
    obtain hsame | ⟨c, hc, hset⟩ := h.registry_step (stateAfter events)
    · rw [hsame] at hget
      exact ih h.before hget
    · rw [hset] at hget
      by_cases hid : itemId = c.itemId
      · subst hid
        rw [JsMap.get?_set_self] at hget
        exact ⟨c, hc, rfl, Option.some.inj hget⟩
      · rw [JsMap.get?_set_ne _ _ hid] at hget
        exact ih h.before hget

/-- A call that was added is registered, if neither of its ids is empty. -/
theorem CallEvents.registered (h : CallEvents calls events) (hcall : call ∈ calls)
    (hne : call.itemId ≠ "" ∧ call.callId ≠ "") (hadded : ∃ earlier ∈ events, call.AddedBy earlier) :
    (stateAfter events).itemIdToCallId.get? call.itemId = some call.callId := by
  induction events using List.reverseRecOn with
  | nil =>
    obtain ⟨earlier, hearlier, -⟩ := hadded
    cases hearlier
  | append_singleton events event ih =>
    rw [stateAfter_append]
    -- The events of other calls write under other ids.
    by_cases hnow : call.AddedBy event
    · obtain ⟨name, arguments, rfl⟩ := hnow
      show (registerResponsesFunctionCallItemId _ (stateAfter events).itemIdToCallId).get? call.itemId = _
      rw [register_call, if_neg (not_or.mpr hne), JsMap.get?_set_self]
    · have hbefore : ∃ earlier ∈ events, call.AddedBy earlier := by
        obtain ⟨earlier, hearlier, hby⟩ := hadded
        obtain hold | hlast := List.mem_append.mp hearlier
        · exact ⟨earlier, hold, hby⟩
        · obtain rfl := List.mem_singleton.mp hlast
          exact absurd hby hnow
      have hget := ih h.before hbefore
      obtain hsame | ⟨c, hc, hset⟩ := h.registry_step (stateAfter events)
      · rw [hsame, hget]
      · rw [hset]
        by_cases hid : call.itemId = c.itemId
        · obtain rfl := List.inj_on_of_nodup_map h.itemIds hcall hc hid
          exact JsMap.get?_set_self ..
        · rw [JsMap.get?_set_ne _ _ hid, hget]

/-- Where the arguments of a call go. -/
theorem CallEvents.lookup (h : CallEvents calls events) (hcall : call ∈ calls) (hregistrable : call.Registrable)
    (hadded : ∃ earlier ∈ events, call.AddedBy earlier) :
    ((stateAfter events).itemIdToCallId.get? call.itemId).getD call.itemId = call.callId := by
  obtain hne | hsame := hregistrable
  · rw [h.registered hcall hne hadded, Option.getD_some]
  · cases hget : (stateAfter events).itemIdToCallId.get? call.itemId with
    | none => exact hsame
    | some callId =>
      obtain ⟨c, hc, hid, rfl⟩ := h.registry_sound hget
      rw [Option.getD_some, List.inj_on_of_nodup_map h.itemIds hc hcall hid]

/-! ## The calls -/

theorem ofCall_of_closesCall (h : event.closesCall = true) : event.ofCall = true := by
  cases event with
  | outputItemDone item => exact h
  | functionCallArgumentsDone itemId name arguments => rfl
  | _ => cases h

theorem CallItem.closesCall_of_closedBy (h : call.ClosedBy event) : event.closesCall = true := by
  obtain rfl | rfl := h <;> rfl

theorem CallItem.closesCall_of_addedBy (h : call.AddedBy event) : event.closesCall = false := by
  obtain ⟨name, arguments, rfl⟩ := h
  rfl

/-- An event closes one call only. -/
theorem CallEvents.callId_unique (h : CallEvents calls events) {other : CallItem} (hcall : call ∈ calls)
    (hother : other ∈ calls) (hby : call.ClosedBy event) (hby' : other.ClosedBy event) : call.callId = other.callId := by
  have hitem : call.itemId = other.itemId := by
    obtain rfl | rfl := hby
    · obtain heq | heq := hby'
      · exact (StreamEvent.functionCallArgumentsDone.inj heq).1
      · cases heq
    · obtain heq | heq := hby'
      · cases heq
      · exact Option.some.inj (OutputItem.functionCall.inj (StreamEvent.outputItemDone.inj heq)).1
  rw [List.inj_on_of_nodup_map h.itemIds hcall hother hitem]

/-- An event that closes a call puts it under its `call_id`. -/
theorem CallEvents.close_step (h : CallEvents calls (events ++ [event])) (hcall : call ∈ calls)
    (hregistrable : event = call.argumentsDone → call.Registrable) (hclosed : call.ClosedBy event) :
    (readEvent (stateAfter events) event).accumulatedToolCalls =
      (stateAfter events).accumulatedToolCalls.set call.callId (call.name, orEmptyObject call.arguments) := by
  have hadded := h.added hcall hclosed
  obtain rfl | rfl := hclosed
  · have hlookup := h.before.lookup hcall (hregistrable rfl) hadded
    show (stateAfter events).accumulatedToolCalls.set
      (((stateAfter events).itemIdToCallId.get? call.itemId).getD call.itemId) _ = _
    rw [hlookup]
    rfl
  · rfl

/-- What is kept is the calls that have been closed. -/
theorem CallEvents.kept (h : CallEvents calls events)
    (hregistrable : ∀ c ∈ calls, c.argumentsDone ∈ events → c.Registrable) (callId : String) (kept : String × String) :
    (stateAfter events).accumulatedToolCalls.get? callId = some kept ↔
      ∃ c ∈ calls, (∃ e ∈ events, c.ClosedBy e) ∧ c.entry = (callId, kept) := by
  induction events using List.reverseRecOn with
  | nil => simp [stateAfter, StreamState.initial]
  | append_singleton events event ih =>
    have ih := ih h.before fun c hc hdone => hregistrable c hc (List.mem_append_left _ hdone)
    rw [stateAfter_append]
    cases hcloses : event.closesCall with
    | false =>
      rw [readEvent_of_open hcloses, ih]
      refine exists_congr fun c => and_congr_right fun _ => and_congr_left fun _ => ?_
      constructor
      · intro hold
        obtain ⟨e, he, hby⟩ := hold
        exact ⟨e, List.mem_append_left _ he, hby⟩
      · intro hclosed
        obtain ⟨e, he, hby⟩ := hclosed
        obtain hold | hlast := List.mem_append.mp he
        · exact ⟨e, hold, hby⟩
        · obtain rfl := List.mem_singleton.mp hlast
          cases (c.closesCall_of_closedBy hby).symm.trans hcloses
    | true =>
      obtain ⟨c, hc, hby⟩ := h.known event (by simp) (ofCall_of_closesCall hcloses)
      have hclosed : c.ClosedBy event := by
        obtain hadded | hclosed := hby
        · cases (c.closesCall_of_addedBy hadded).symm.trans hcloses
        · exact hclosed
      rw [h.close_step hc (fun heq => hregistrable c hc (by simp [heq])) hclosed]
      by_cases hid : callId = c.callId
      · -- the call that is closed by this event
        subst hid
        rw [JsMap.get?_set_self, Option.some_inj]
        constructor
        · rintro rfl
          exact ⟨c, hc, ⟨event, by simp, hclosed⟩, rfl⟩
        · rintro ⟨other, hother, -, hentry⟩
          obtain ⟨hsame, hkept⟩ := Prod.mk.inj hentry
          rw [← hkept, List.inj_on_of_nodup_map h.callIds hother hc hsame]
      · rw [JsMap.get?_set_ne _ _ hid, ih]
        refine exists_congr fun other => and_congr_right fun hother => ?_
        constructor
        · rintro ⟨⟨e, he, hby⟩, hentry⟩
          exact ⟨⟨e, List.mem_append_left _ he, hby⟩, hentry⟩
        · rintro ⟨⟨e, he, hcloser⟩, hentry⟩
          refine ⟨?_, hentry⟩
          obtain hold | hlast := List.mem_append.mp he
          · exact ⟨e, hold, hcloser⟩
          · -- the event closes one call only
            obtain rfl := List.mem_singleton.mp hlast
            exact absurd ((Prod.mk.inj hentry).1.symm.trans (h.callId_unique hother hc hcloser hclosed)) hid

end Calls

/-- **Each call is kept once**, under its `call_id`. -/
theorem calls_accumulated (calls : List CallItem) (events : List StreamEvent) (h : StreamsCalls calls events)
    (hregistrable : ∀ call ∈ calls, call.argumentsDone ∈ events → call.Registrable) :
    (stateAfter events).accumulatedToolCalls.entries.Perm (calls.map CallItem.entry) ∧
      (stateAfter events).getFinalToolCalls.Perm (calls.map CallItem.toolCall) := by
  have hentries : (stateAfter events).accumulatedToolCalls.entries.Perm (calls.map CallItem.entry) := by
    have hnodup : (calls.map CallItem.entry).Nodup := by
      have hkeys := h.callIds
      apply List.Nodup.of_map Prod.fst
      rwa [List.map_map]
    rw [List.perm_ext_iff_of_nodup (List.Nodup.of_map _ (stateAfter events).accumulatedToolCalls.nodup) hnodup]
    intro ⟨callId, kept⟩
    rw [JsMap.mem_entries, h.kept hregistrable, List.mem_map]
    refine exists_congr fun call => and_congr_right fun hcall => and_iff_right (h.closed call hcall)
  refine ⟨hentries, ?_⟩
  have hcalls := hentries.map fun entry => (⟨entry.1, entry.2.1, orEmptyObject entry.2.2⟩ : GatewayToolCall)
  rw [List.map_map] at hcalls
  have hcall : (fun entry : String × String × String => (⟨entry.1, entry.2.1, orEmptyObject entry.2.2⟩ : GatewayToolCall)) ∘
      CallItem.entry = CallItem.toolCall := by
    funext call
    simp [CallItem.entry, CallItem.toolCall, orEmptyObject_orEmptyObject]
  rw [hcall] at hcalls
  exact hcalls

/-- A call without arguments; its item is not reported done. -/
def ping : CallItem := ⟨"fc_1", "call_1", "ping", ""⟩

/-- Added, then its arguments, with some text in between. -/
def pingEvents (call : CallItem) : List StreamEvent :=
  [.outputItemAdded (.functionCall (some call.itemId) call.callId call.name ""), .outputTextDelta "Let me see.",
    call.argumentsDone]

theorem pingEvents_stream (call : CallItem) : StreamsCalls [call] (pingEvents call) where
  itemIds := List.nodup_singleton _
  callIds := List.nodup_singleton _
  known := by
    intro event hevent hof
    refine ⟨call, List.mem_singleton_self call, ?_⟩
    simp only [pingEvents, List.mem_cons, List.not_mem_nil, or_false] at hevent
    obtain rfl | rfl | rfl := hevent
    · exact .inl ⟨_, _, rfl⟩
    · cases hof
    · exact .inr (.inl rfl)
  addedFirst := by
    intro n event hn c hc hclosed
    obtain rfl := List.mem_singleton.mp hc
    match n, hn with
    | 0, rfl => obtain heq | heq := hclosed <;> cases heq
    | 1, rfl => obtain heq | heq := hclosed <;> cases heq
    | 2, rfl => exact ⟨_, List.mem_cons_self, _, _, rfl⟩
  closed := by
    intro c hc
    obtain rfl := List.mem_singleton.mp hc
    exact ⟨c.argumentsDone, by simp [pingEvents], .inl rfl⟩

theorem calls_accumulated_ping :
    (stateAfter (pingEvents ping)).accumulatedToolCalls.entries.Perm [("call_1", "ping", "\x7b\x7d")] ∧
      (stateAfter (pingEvents ping)).getFinalToolCalls.Perm [⟨"call_1", "ping", "\x7b\x7d"⟩] :=
  calls_accumulated [ping] (pingEvents ping) (pingEvents_stream ping) fun call hcall _ =>
    List.mem_singleton.mp hcall ▸ .inl (by decide)

/-- The arguments of an item without an id go under that id. -/
theorem unregistered_call_misplaced :
    ¬ ∀ (calls : List CallItem) (events : List StreamEvent), StreamsCalls calls events →
      (stateAfter events).accumulatedToolCalls.entries.Perm (calls.map CallItem.entry) := by
  intro hclaim
  have hperm := hclaim [{ ping with itemId := "" }] _ (pingEvents_stream _)
  have hentries := List.perm_singleton.mp hperm
  revert hentries
  decide

/-! ## The summary of the reasoning -/

/-- The texts of an item's summary, empty ones too. -/
def OutputItem.summaryParts : OutputItem → List String
  | .reasoning summary => (summary.getD []).filterMap fun
    | .summaryText text => some text
    | .other => none
  | _ => []

/-- A part of a summary, in fragments, and the event that closes it. -/
def partEvents (fragments : List String) : List StreamEvent :=
  fragments.map .reasoningSummaryTextDelta ++ [.reasoningSummaryTextDone (joinText fragments)]

def StreamEvent.ofSummary : StreamEvent → Bool
  | .reasoningSummaryTextDelta _ | .reasoningSummaryTextDone _ => true
  | _ => false

/-- The events send the summaries of the output, part by part; other events may come between. -/
def StreamsSummary (output : List OutputItem) (events : List StreamEvent) : Prop :=
  ∃ parts : List (List String), output.flatMap OutputItem.summaryParts = parts.map joinText ∧
    events.filter StreamEvent.ofSummary = parts.flatMap partEvents

/-- The buffer after some events. -/
def reasoningText (events : List StreamEvent) (start : String) : String :=
  events.foldl (fun buffer event => accumulateResponsesReasoningDelta event buffer) start

/-- The buffer is all of the summary. -/
def SummaryKept (output : List OutputItem) (events : List StreamEvent) : Prop :=
  reasoningText events "" = joinText (output.flatMap OutputItem.summaryParts) ∧
    JsString.truthy (some (reasoningText events "")) = extractResponsesReasoningSummaryText (some output)

theorem reasoningText_append (events events' : List StreamEvent) (start : String) :
    reasoningText (events ++ events') start = reasoningText events' (reasoningText events start) := List.foldl_append

theorem reasoningText_filter (events : List StreamEvent) (start : String) :
    reasoningText events start = reasoningText (events.filter StreamEvent.ofSummary) start := by
  induction events generalizing start with
  | nil => rfl
  | cons event events ih =>
    show reasoningText events (accumulateResponsesReasoningDelta event start) = _
    rw [ih]
    cases event <;> rfl

/-- The event that closes a part has the last word. -/
theorem reasoningText_part (fragments : List String) (start : String) :
    reasoningText (partEvents fragments) start = joinText fragments := by
  rw [partEvents, reasoningText_append]
  rfl

theorem reasoningText_parts (parts : List (List String)) (start : String) :
    reasoningText (parts.flatMap partEvents) start = (parts.getLast?.map joinText).getD start := by
  induction parts using List.reverseRecOn with
  | nil => rfl
  | append_singleton parts fragments ih =>
    rw [List.flatMap_append, reasoningText_append, List.flatMap_singleton, reasoningText_part, List.getLast?_concat]
    rfl

theorem joinText_eq_last {texts : List String} :
    joinText texts = texts.getLast?.getD "" ↔ ∀ text ∈ texts.dropLast, text = "" := by
  induction texts using List.reverseRecOn with
  | nil => simp [joinText]
  | append_singleton texts last ih =>
    rw [joinText_append, List.getLast?_concat, List.dropLast_concat, ← joinText_eq_empty]
    simp [joinText]

theorem summary_joined (output : List OutputItem) :
    joinText (output.flatMap OutputItem.summaryTexts) = joinText (output.flatMap OutputItem.summaryParts) := by
  have hitem : ∀ item : OutputItem, item.summaryTexts =
      item.summaryParts.filterMap fun text => JsString.truthy (some text) := by
    intro item
    cases item with
    | reasoning summary =>
      rw [OutputItem.summaryTexts, OutputItem.summaryParts, List.filterMap_filterMap]
      apply List.filterMap_congr
      intro part _
      cases part <;> rfl
    | _ => rfl
  rw [← joinText_truthy (output.flatMap OutputItem.summaryParts), List.filterMap_flatMap]
  congr 2
  funext item
  exact hitem item

/-- **The buffer loses the parts** before the last, unless they are empty. -/
theorem summary_kept_iff (output : List OutputItem) (events : List StreamEvent) (h : StreamsSummary output events) :
    SummaryKept output events ↔ ∀ part ∈ (output.flatMap OutputItem.summaryParts).dropLast, part = "" := by
  obtain ⟨parts, hparts, hevents⟩ := h
  have hbuffer : reasoningText events "" = (output.flatMap OutputItem.summaryParts).getLast?.getD "" := by
    rw [reasoningText_filter, hevents, reasoningText_parts, hparts, List.getLast?_map]
  have htext : JsString.truthy (some (reasoningText events "")) = extractResponsesReasoningSummaryText (some output) ↔
      reasoningText events "" = joinText (output.flatMap OutputItem.summaryParts) := by
    rw [extractResponsesReasoningSummaryText, Option.getD_some, summary_joined, JsString.truthy_some_inj]
  unfold SummaryKept
  rw [htext, and_self, hbuffer, eq_comm]
  exact joinText_eq_last

/-- One part, then a message. -/
theorem summary_kept_iff_one :
    SummaryKept [.reasoning (some [.summaryText "ab"]), .message []]
      [.reasoningSummaryTextDelta "a", .other, .reasoningSummaryTextDelta "b", .reasoningSummaryTextDone "ab"] :=
  (summary_kept_iff _ _ ⟨[["a", "b"]], rfl, rfl⟩).mpr (by decide)

/-- Of two parts the first is lost. -/
theorem first_part_lost :
    ¬ ∀ (output : List OutputItem) (events : List StreamEvent), StreamsSummary output events →
      SummaryKept output events := by
  intro hclaim
  obtain ⟨hbuffer, -⟩ := hclaim [.reasoning (some [.summaryText "a", .summaryText "b"])]
    [.reasoningSummaryTextDelta "a", .reasoningSummaryTextDone "a", .reasoningSummaryTextDelta "b",
      .reasoningSummaryTextDone "b"] ⟨[["a"], ["b"]], rfl, rfl⟩
  revert hbuffer
  decide

end AiGateway.Responses
