import AiGateway.Chat.Singleflight
import AiGateway.Chat.Response

/- `ChatService.executeChat`: any number of JSON chat calls in one process, from the
   preparation of the request over the cache lookup to the provider call, which calls with
   the same cache identity share through `createInProcessSingleflight`.

   A response is stamped with a request id and a conversation id in three places: on a cache
   hit with those of the call, on its own miss likewise, and on a shared miss with those of
   the call that started the work. `responses_are_own` proves that every call gets its own
   ids in every run where no call joins a work that was started under other ids;
   `joined_call_gets_leader_ids` is the shortest run in which one does. -/
namespace AiGateway

open Singleflight (Flight Stage Work)

/-! ## Conversation ids -/

def oneOf (chars : String) (c : Char) : Bool := c ∈ chars.toList

def isHex : Char → Bool := oneOf "0123456789abcdefABCDEF"

/-- `CONVERSATION_ID_PATTERN`, one test for each character (flag `i`). -/
def conversationIdShape : List (Char → Bool) :=
  [oneOf "cC", oneOf "oO", oneOf "nN", oneOf "vV", oneOf "_"] ++
    List.replicate 8 isHex ++ [oneOf "-"] ++ List.replicate 4 isHex ++ [oneOf "-"] ++
    [oneOf "12345"] ++ List.replicate 3 isHex ++ [oneOf "-"] ++
    [oneOf "89abAB"] ++ List.replicate 3 isHex ++ [oneOf "-"] ++ List.replicate 12 isHex

def matchesShape : List (Char → Bool) → List Char → Bool
  | [], [] => true
  | test :: tests, c :: cs => test c && matchesShape tests cs
  | _, _ => false

/-- `createConversationId`; `none` is the thrown error. -/
def createConversationId (value : String) : Option String :=
  if matchesShape conversationIdShape value.toList then some value else none

/-- The id that the client sent, trimmed; an empty one counts as not sent. -/
def sentConversationId (request : ChatRequest) : Option String :=
  (request.conversationId.map JsString.trim).filter (· ≠ "")

def getOrCreateConversationIdForResponse (request : ChatRequest) (uuid : String) : Option String :=
  match sentConversationId request with
  | some id => createConversationId id
  | none => createConversationId ("conv_" ++ uuid)

theorem createConversationId_eq {value id : String} (h : createConversationId value = some id) :
    id = value := by
  unfold createConversationId at h
  split at h
  · exact (Option.some.inj h).symm
  · cases h

/-! ## Calls -/

/-- The `models` and `providers` of the effective configuration: the provider instance of an
alias, and whether an instance is enabled. -/
structure GatewayModels where
  providerInstance : String → Option String
  enabled : String → Option Bool

def isCachedChatAllowedForModelAlias (gateway : GatewayModels) (modelAlias : String) : Bool :=
  ((gateway.providerInstance modelAlias).bind gateway.enabled) = some true

/-- The arguments of one `executeChat`, and the options resolved for it. -/
structure ExecuteInput where
  request : ChatRequest
  options : ProviderCallOptions
  clientId : String
  requestId : String
  gatewayKey : String

/-- The gates of `getCachedIfAllowed` and of `mayCoalesce`. -/
def ExecuteInput.cacheable (gateway : GatewayModels) (c : ExecuteInput) : Bool :=
  c.gatewayKey ≠ "" && c.clientId ≠ "unknown" && !isToolingRequest c.request &&
    isCachedChatAllowedForModelAlias gateway c.request.modelAlias

inductive ChatResult where
  | live (response : ChatResponseData)
  | cached (reply : CachedChatResponse) (source : ChatCacheSource) (conversationId requestId : String)
  deriving DecidableEq

def ChatResult.requestId : ChatResult → String
  | .live response => response.requestId
  | .cached _ _ _ requestId => requestId

def ChatResult.conversationId : ChatResult → String
  | .live response => response.conversationId
  | .cached _ _ conversationId _ => conversationId

/-- What a provider call, retried and perhaps on the fallback alias, comes back with. -/
structure MissOutcome where
  response : ProviderResponse
  providerName : String
  effectiveModelAlias : Option String
  warnings : List CachedChatWarning
  responseId : String

/-- The result of `completeChatAndStore` for the call whose closure it runs in. -/
def completeChat (c : ExecuteInput) (conversationId : String) (m : MissOutcome) : ChatResult :=
  .live (buildChatResponse m.response m.providerName c.request.modelAlias c.requestId conversationId
    m.effectiveModelAlias m.warnings m.responseId)

inductive ExecutePhase where
  | preparing               -- the cooldown check of `prepareRequestForExecution` is awaited
  | lookingUp               -- `getCachedIfAllowed` is awaited
  | missing                 -- its own `completeChatAndStore` is awaited
  | joined (work : ℕ)       -- the shared promise of a work is awaited
  | returned (result : ChatResult)
  | threw
  deriving DecidableEq

structure ExecuteCall where
  input : ExecuteInput
  conversationId : String
  phase : ExecutePhase

/-- The closure a work was started with: whose `completeChatAndStore` it is. -/
structure Closure where
  input : ExecuteInput
  conversationId : String

structure ChatSystem where
  flight : Flight String (Option ChatResult)
  closures : List Closure
  calls : List ExecuteCall

def ChatSystem.initial : ChatSystem := ⟨.initial, [], []⟩

inductive ChatAction where
  | call (input : ExecuteInput) (uuid : String)
  | prepareFails (i : ℕ)
  | prepared (i : ℕ)
  | lookupFails (i : ℕ)
  | hit (i : ℕ) (reply : CachedChatResponse) (source : ChatCacheSource)
  | miss (i : ℕ)
  | ownSettles (i : ℕ) (outcome : Option MissOutcome)
  | settle (w : ℕ) (outcome : Option MissOutcome)
  | finalize (w : ℕ)
  | deliver (w : ℕ)
  | resume (i : ℕ)

section Step
variable (cfg : IdentityConfig) (gateway : GatewayModels)

/-- No signature is made of an alias that is not read, and no key: `buildIdentityKey` throws. -/
def ExecuteInput.reads (c : ExecuteInput) : Bool := cfg.prompts.reads c.request.modelAlias

def ExecuteInput.key (c : ExecuteInput) : String :=
  buildIdentityKey cfg (toChatCacheIdentity c.request c.clientId c.options)

def ChatSystem.setPhase (s : ChatSystem) (i : ℕ) (c : ExecuteCall) (phase : ExecutePhase) : ChatSystem :=
  { s with calls := s.calls.set i { c with phase := phase } }

/-- After a miss: share the work of the identity, or run alone. -/
def ChatSystem.startMiss (s : ChatSystem) (i : ℕ) (c : ExecuteCall) : ChatSystem :=
  if c.input.cacheable gateway && !c.input.reads cfg then s.setPhase i c .threw
  else if c.input.cacheable gateway then
    match s.flight.inFlight (c.input.key cfg) with
    | some w => { s.setPhase i c (.joined w) with flight := s.flight.call (c.input.key cfg) false }
    | none =>
      { s.setPhase i c (.joined s.flight.works.length) with
        flight := s.flight.call (c.input.key cfg) false
        closures := s.closures ++ [⟨c.input, c.conversationId⟩] }
  else s.setPhase i c .missing

def settledPhase : Option ChatResult → ExecutePhase
  | some result => .returned result
  | none => .threw

def chatStep (s : ChatSystem) : ChatAction → Option ChatSystem
  | .call input uuid =>
    match getOrCreateConversationIdForResponse input.request uuid with
    | some conversationId => some { s with calls := s.calls ++ [⟨input, conversationId, .preparing⟩] }
    | none => some { s with calls := s.calls ++ [⟨input, "", .threw⟩] }
  | .prepareFails i =>
    match s.calls[i]? with
    | some ⟨input, conversationId, .preparing⟩ => some (s.setPhase i ⟨input, conversationId, .preparing⟩ .threw)
    | _ => none
  -- Without a gateway key there is no cache identity, and the caches are passed over.
  | .prepared i =>
    match s.calls[i]? with
    | some ⟨input, conversationId, .preparing⟩ =>
      if input.gatewayKey ≠ "" then some (s.setPhase i ⟨input, conversationId, .preparing⟩ .lookingUp)
      else some (s.startMiss cfg gateway i ⟨input, conversationId, .preparing⟩)
    | _ => none
  | .lookupFails i =>
    match s.calls[i]? with
    | some ⟨input, conversationId, .lookingUp⟩ => some (s.setPhase i ⟨input, conversationId, .lookingUp⟩ .threw)
    | _ => none
  | .hit i reply source =>
    match s.calls[i]? with
    | some ⟨input, conversationId, .lookingUp⟩ =>
      if input.cacheable gateway && input.reads cfg then
        some (s.setPhase i ⟨input, conversationId, .lookingUp⟩
          (.returned (.cached reply source conversationId input.requestId)))
      else none
    | _ => none
  | .miss i =>
    match s.calls[i]? with
    | some ⟨input, conversationId, .lookingUp⟩ =>
      some (s.startMiss cfg gateway i ⟨input, conversationId, .lookingUp⟩)
    | _ => none
  | .ownSettles i outcome =>
    match s.calls[i]? with
    | some ⟨input, conversationId, .missing⟩ =>
      some (s.setPhase i ⟨input, conversationId, .missing⟩
        (settledPhase (outcome.map (completeChat input conversationId))))
    | _ => none
  -- The work runs in the closure of the call that started it, with that call's ids.
  | .settle w outcome =>
    match s.closures[w]? with
    | some closure =>
      (Singleflight.step s.flight
        (.settle w (outcome.map (completeChat closure.input closure.conversationId)))).map
        fun flight => { s with flight := flight }
    | none => none
  | .finalize w => (Singleflight.step s.flight (.finalize w)).map fun flight => { s with flight := flight }
  | .deliver w => (Singleflight.step s.flight (.deliver w)).map fun flight => { s with flight := flight }
  | .resume i =>
    match s.calls[i]? with
    | some ⟨input, conversationId, .joined w⟩ =>
      match s.flight.works[w]? with
      | some ⟨_, .done result⟩ =>
        some (s.setPhase i ⟨input, conversationId, .joined w⟩ (settledPhase result))
      | _ => none
    | _ => none

end Step

/-! ## Every response carries the ids of its call -/

def ChatResult.Carries (result : ChatResult) (requestId conversationId : String) : Prop :=
  result.requestId = requestId ∧ result.conversationId = conversationId

/-- The ids of a returned response are the call's, and the conversation id is the client's
when it sent one. -/
def OwnIds (s : ChatSystem) : Prop :=
  ∀ c ∈ s.calls, ∀ result, c.phase = .returned result →
    result.Carries c.input.requestId c.conversationId ∧
      ∀ id, sentConversationId c.input.request = some id → c.conversationId = id

section Invariant
variable {cfg : IdentityConfig} {gateway : GatewayModels}

/-- A call that goes to share a work finds none of its key, or one under its own ids. -/
def JoinsOwn (cfg : IdentityConfig) (gateway : GatewayModels) (s : ChatSystem) : ChatAction → Prop
  | .miss i => ∀ c, s.calls[i]? = some c → c.input.cacheable gateway = true →
      ∀ w, s.flight.inFlight (c.input.key cfg) = some w → ∀ closure, s.closures[w]? = some closure →
        closure.input.requestId = c.input.requestId ∧ closure.conversationId = c.conversationId
  | _ => True

structure ChatInv (s : ChatSystem) : Prop where
  flight : Singleflight.Inv s.flight
  closures : s.closures.length = s.flight.works.length
  outcome : ∀ (w : ℕ) (work : Work String (Option ChatResult)) (result : ChatResult),
    s.flight.works[w]? = some work → work.stage.outcome? = some (some result) →
    ∃ closure, s.closures[w]? = some closure ∧
      result.Carries closure.input.requestId closure.conversationId
  joined : ∀ c ∈ s.calls, ∀ w, c.phase = .joined w → ∃ closure, s.closures[w]? = some closure ∧
    closure.input.requestId = c.input.requestId ∧ closure.conversationId = c.conversationId
  returned : ∀ c ∈ s.calls, ∀ result, c.phase = .returned result →
    result.Carries c.input.requestId c.conversationId
  sent : ∀ c ∈ s.calls, c.phase = .threw ∨
    ∀ id, sentConversationId c.input.request = some id → c.conversationId = id

theorem chatInv_initial : ChatInv .initial := by
  refine ⟨Singleflight.inv_initial, rfl, ?_, ?_, ?_, ?_⟩ <;>
    simp [ChatSystem.initial, Singleflight.Flight.initial]

theorem completeChat_carries (c : ExecuteInput) (conversationId : String) (m : MissOutcome) :
    (completeChat c conversationId m).Carries c.requestId conversationId :=
  ⟨rfl, rfl⟩

/-- What the invariant says of one call. -/
structure CallOk (closures : List Closure) (c : ExecuteCall) : Prop where
  joined : ∀ w, c.phase = .joined w → ∃ closure, closures[w]? = some closure ∧
    closure.input.requestId = c.input.requestId ∧ closure.conversationId = c.conversationId
  returned : ∀ result, c.phase = .returned result → result.Carries c.input.requestId c.conversationId
  sent : c.phase = .threw ∨ ∀ id, sentConversationId c.input.request = some id → c.conversationId = id

theorem ChatInv.callOk {s : ChatSystem} (h : ChatInv s) {c : ExecuteCall} (hc : c ∈ s.calls) : CallOk s.closures c :=
  ⟨h.joined c hc, h.returned c hc, h.sent c hc⟩

theorem ChatInv.ofCalls {flight : Flight String (Option ChatResult)} {closures : List Closure} {calls : List ExecuteCall}
    (hflight : Singleflight.Inv flight) (hlen : closures.length = flight.works.length)
    (hout : ∀ (w : ℕ) (work : Work String (Option ChatResult)) (result : ChatResult),
      flight.works[w]? = some work → work.stage.outcome? = some (some result) →
      ∃ closure, closures[w]? = some closure ∧ result.Carries closure.input.requestId closure.conversationId)
    (hcalls : ∀ c ∈ calls, CallOk closures c) : ChatInv ⟨flight, closures, calls⟩ :=
  ⟨hflight, hlen, hout, fun c hc => (hcalls c hc).joined, fun c hc => (hcalls c hc).returned,
    fun c hc => (hcalls c hc).sent⟩

/-- A live call that moves on to a phase of its own, under closures that may have grown. -/
theorem ChatInv.moved {s : ChatSystem} (h : ChatInv s) {i : ℕ} {c : ExecuteCall} {phase : ExecutePhase}
    {closures : List Closure} (hi : s.calls[i]? = some c) (hlive : c.phase ≠ .threw)
    (hgrown : ∀ (w : ℕ) (closure : Closure), s.closures[w]? = some closure → closures[w]? = some closure)
    (hjoined : ∀ w, phase = .joined w → ∃ closure, closures[w]? = some closure ∧
      closure.input.requestId = c.input.requestId ∧ closure.conversationId = c.conversationId)
    (hreturned : ∀ result, phase = .returned result → result.Carries c.input.requestId c.conversationId) :
    ∀ d ∈ s.calls.set i { c with phase := phase }, CallOk closures d := by
  intro d hd
  rcases List.mem_or_eq_of_mem_set hd with hd | rfl
  · refine ⟨?_, h.returned d hd, h.sent d hd⟩
    intro w hw
    obtain ⟨closure, hclosure, hids⟩ := h.joined d hd w hw
    exact ⟨closure, hgrown w closure hclosure, hids⟩
  · exact ⟨hjoined, hreturned, .inr ((h.sent c (List.mem_of_getElem? hi)).resolve_left hlive)⟩

/-- One call moves on and the flight is left alone. -/
theorem ChatInv.setPhase {s : ChatSystem} (h : ChatInv s) {i : ℕ} {c : ExecuteCall} {phase : ExecutePhase}
    (hi : s.calls[i]? = some c) (hlive : c.phase ≠ .threw) (hjoined : ∀ w, phase ≠ .joined w)
    (hreturned : ∀ result, phase = .returned result → result.Carries c.input.requestId c.conversationId) :
    ChatInv (s.setPhase i c phase) := by
  apply ChatInv.ofCalls h.flight h.closures h.outcome
  apply h.moved hi hlive (fun _ _ hclosure => hclosure) ?_ hreturned
  intro w hw
  exact absurd hw (hjoined w)

theorem ChatInv.addCall {s : ChatSystem} (h : ChatInv s) {c : ExecuteCall}
    (hphase : c.phase = .threw ∨ (c.phase = .preparing ∧
      ∀ id, sentConversationId c.input.request = some id → c.conversationId = id)) :
    ChatInv { s with calls := s.calls ++ [c] } := by
  apply ChatInv.ofCalls h.flight h.closures h.outcome
  intro d hd
  rcases List.mem_append.mp hd with hd | hd
  · exact h.callOk hd
  · obtain rfl := List.mem_singleton.mp hd
    rcases hphase with hp | ⟨hp, hs⟩
    · exact ⟨by simp [hp], by simp [hp], .inl hp⟩
    · exact ⟨by simp [hp], by simp [hp], .inr hs⟩

/-- The flight takes a step of its own: no work is added, and an outcome that appears carries
the ids of the closure. -/
theorem ChatInv.setFlight {s : ChatSystem} (h : ChatInv s) {flight : Flight String (Option ChatResult)}
    (hinv : Singleflight.Inv flight) (hlen : flight.works.length = s.flight.works.length)
    (hout : ∀ (w : ℕ) (work : Work String (Option ChatResult)) (result : ChatResult),
      flight.works[w]? = some work → work.stage.outcome? = some (some result) →
      (∃ old : Work String (Option ChatResult), s.flight.works[w]? = some old ∧ old.stage.outcome? = some (some result)) ∨
      ∃ closure, s.closures[w]? = some closure ∧
        result.Carries closure.input.requestId closure.conversationId) :
    ChatInv { s with flight := flight } := by
  refine ⟨hinv, by rw [h.closures, hlen], ?_, h.joined, h.returned, h.sent⟩
  intro w work result hw hr
  rcases hout w work result hw hr with ⟨old, hold, hor⟩ | hc
  · exact h.outcome w old result hold hor
  · exact hc

/-- A call shares a work: it joins one under its own ids, or starts one. -/
theorem ChatInv.startMiss {s : ChatSystem} (h : ChatInv s) {i : ℕ} {c : ExecuteCall}
    (hi : s.calls[i]? = some c) (hlive : c.phase ≠ .threw)
    (hown : c.input.cacheable gateway = true → ∀ w, s.flight.inFlight (c.input.key cfg) = some w →
      ∀ closure, s.closures[w]? = some closure →
        closure.input.requestId = c.input.requestId ∧ closure.conversationId = c.conversationId) :
    ChatInv (s.startMiss cfg gateway i c) := by
  have hflight : Singleflight.Inv (s.flight.call (c.input.key cfg) false) :=
    Singleflight.step_inv h.flight (a := .call (c.input.key cfg) false) rfl
  unfold ChatSystem.startMiss
  split
  · exact h.setPhase hi hlive (by simp) (by simp)
  split
  · next hcache =>
    split
    · next w hentry =>
      -- the entry is a work, so it has a closure, and the closure has the ids of the call
      obtain ⟨work, hwork, -⟩ := (h.flight.entry_iff _ w).mp hentry
      have hlt : w < s.closures.length := by
        rw [h.closures]
        exact (List.getElem?_eq_some_iff.mp hwork).1
      have hclosure := List.getElem?_eq_getElem hlt
      have hids := hown hcache w hentry _ hclosure
      rw [Singleflight.call_of_entry false hentry] at hflight ⊢
      apply ChatInv.ofCalls hflight h.closures h.outcome
      apply h.moved hi hlive (fun _ _ hold => hold) ?_ (by simp)
      intro v hv
      cases hv
      exact ⟨_, hclosure, hids⟩
    · next hentry =>
      rw [Singleflight.call_of_no_entry hentry] at hflight ⊢
      have hold : ∀ (v : ℕ) (closure : Closure), s.closures[v]? = some closure →
          (s.closures ++ [⟨c.input, c.conversationId⟩])[v]? = some closure := by
        intro v closure hv
        rw [List.getElem?_append_left (List.getElem?_eq_some_iff.mp hv).1]
        exact hv
      refine ChatInv.ofCalls hflight (by simp [h.closures]) ?_ (h.moved hi hlive hold ?_ (by simp))
      · intro v work result hv hr
        rcases Table.getElem?_snoc_cases hv with ⟨-, rfl⟩ | hv
        · cases hr
        · obtain ⟨closure, hclosure, hcarries⟩ := h.outcome v work result hv hr
          exact ⟨closure, hold v closure hclosure, hcarries⟩
      · intro v hv
        cases hv
        exact ⟨⟨c.input, c.conversationId⟩, by simp [← h.closures], rfl, rfl⟩
  · exact h.setPhase hi hlive (by simp) (by simp)

/-- A step of the flight that settles nothing keeps every outcome. -/
theorem flight_keeps_outcome {f f' : Flight String (Option ChatResult)}
    {a : Singleflight.Action String (Option ChatResult)} (hstep : Singleflight.step f a = some f')
    (ha : (∃ w, a = .finalize w) ∨ ∃ w, a = .deliver w) :
    f'.works.length = f.works.length ∧ ∀ (w : ℕ) (work : Work String (Option ChatResult)),
      f'.works[w]? = some work → ∃ old, f.works[w]? = some old ∧ old.stage.outcome? = work.stage.outcome? := by
  rcases Singleflight.step_cases hstep with ⟨key, throws, rfl, -⟩ | ⟨i, key, r, rfl, -, -⟩ |
    ⟨i, key, r, rfl, hi, rfl⟩ | ⟨i, key, r, rfl, hi, rfl⟩
  · simp at ha
  · simp at ha
  all_goals
    refine ⟨List.length_set, ?_⟩
    intro w work hw
    rcases Table.getElem?_set_cases hw with ⟨rfl, rfl⟩ | ⟨-, hw⟩
    · exact ⟨_, hi, rfl⟩
    · exact ⟨work, hw, rfl⟩

/-- The outcome of a work is handed on, as it is. -/
theorem ChatInv.passOn {s : ChatSystem} (h : ChatInv s) {flight : Flight String (Option ChatResult)}
    {a : Singleflight.Action String (Option ChatResult)} (hflight : Singleflight.step s.flight a = some flight)
    (ha : (∃ w, a = .finalize w) ∨ ∃ w, a = .deliver w) : ChatInv { s with flight := flight } := by
  obtain ⟨hlen, hout⟩ := flight_keeps_outcome hflight ha
  apply h.setFlight (Singleflight.step_inv h.flight hflight) hlen
  intro v work result hv hr
  obtain ⟨old, hold, heq⟩ := hout v work hv
  exact .inl ⟨old, hold, heq.trans hr⟩

theorem ChatInv.settled {s : ChatSystem} (h : ChatInv s) {w : ℕ} {closure : Closure} {outcome : Option MissOutcome}
    {flight : Flight String (Option ChatResult)} (hclosure : s.closures[w]? = some closure)
    (hflight : Singleflight.step s.flight
      (.settle w (outcome.map (completeChat closure.input closure.conversationId))) = some flight) :
    ChatInv { s with flight := flight } := by
  have hinv := Singleflight.step_inv h.flight hflight
  rcases Singleflight.step_cases hflight with ⟨key, throws, ha, -⟩ | ⟨i, key, r, ha, hi, rfl⟩ |
    ⟨i, key, r, ha, -, -⟩ | ⟨i, key, r, ha, -, -⟩ <;> cases ha
  apply h.setFlight hinv List.length_set
  intro v work result hv hr
  rcases Table.getElem?_set_cases hv with ⟨rfl, rfl⟩ | ⟨-, hv⟩
  · -- the outcome that appears was built in the closure of the work
    right
    refine ⟨closure, hclosure, ?_⟩
    cases outcome with
    | none => cases hr
    | some m =>
      cases hr
      exact completeChat_carries closure.input closure.conversationId m
  · exact .inl ⟨work, hv, hr⟩

theorem settledPhase_joined (result : Option ChatResult) (w : ℕ) : settledPhase result ≠ .joined w := by
  cases result <;> simp [settledPhase]

/-! ## Every action -/

section Actions
variable {s s' : ChatSystem}

theorem ChatInv.step_call {input : ExecuteInput} {uuid : String} (h : ChatInv s)
    (hstep : chatStep cfg gateway s (.call input uuid) = some s') : ChatInv s' := by
  unfold chatStep at hstep
  dsimp only at hstep
  split at hstep
  · next conversationId hconv =>
    cases hstep
    apply h.addCall
    refine .inr ⟨rfl, ?_⟩
    intro id hid
    rw [getOrCreateConversationIdForResponse, hid] at hconv
    exact createConversationId_eq hconv
  · cases hstep
    exact h.addCall (.inl rfl)

theorem ChatInv.step_prepareFails {i : ℕ} (h : ChatInv s)
    (hstep : chatStep cfg gateway s (.prepareFails i) = some s') : ChatInv s' := by
  unfold chatStep at hstep
  dsimp only at hstep
  split at hstep
  · next hi => cases hstep; exact h.setPhase hi (by simp) (by simp) (by simp)
  · cases hstep

theorem ChatInv.step_prepared {i : ℕ} (h : ChatInv s) (hstep : chatStep cfg gateway s (.prepared i) = some s') :
    ChatInv s' := by
  unfold chatStep at hstep
  dsimp only at hstep
  split at hstep
  · next input conversationId hi =>
    split at hstep
    · cases hstep
      exact h.setPhase hi (by simp) (by simp) (by simp)
    · next hkey =>
      cases hstep
      apply h.startMiss hi (by simp)
      intro hcache
      simp only [ne_eq, not_not] at hkey
      simp [ExecuteInput.cacheable, hkey] at hcache
  · cases hstep

theorem ChatInv.step_lookupFails {i : ℕ} (h : ChatInv s)
    (hstep : chatStep cfg gateway s (.lookupFails i) = some s') : ChatInv s' := by
  unfold chatStep at hstep
  dsimp only at hstep
  split at hstep
  · next hi => cases hstep; exact h.setPhase hi (by simp) (by simp) (by simp)
  · cases hstep

theorem ChatInv.step_hit {i : ℕ} {reply : CachedChatResponse} {source : ChatCacheSource} (h : ChatInv s)
    (hstep : chatStep cfg gateway s (.hit i reply source) = some s') : ChatInv s' := by
  unfold chatStep at hstep
  dsimp only at hstep
  split at hstep
  · next input conversationId hi =>
    split at hstep
    · cases hstep
      apply h.setPhase hi (by simp) (by simp)
      intro result hr
      cases hr
      exact ⟨rfl, rfl⟩
    · cases hstep
  · cases hstep

theorem ChatInv.step_miss {i : ℕ} (h : ChatInv s) (hown : JoinsOwn cfg gateway s (.miss i))
    (hstep : chatStep cfg gateway s (.miss i) = some s') : ChatInv s' := by
  unfold chatStep at hstep
  dsimp only at hstep
  split at hstep
  · next input conversationId hi => cases hstep; exact h.startMiss hi (by simp) (hown _ hi)
  · cases hstep

theorem ChatInv.step_ownSettles {i : ℕ} {outcome : Option MissOutcome} (h : ChatInv s)
    (hstep : chatStep cfg gateway s (.ownSettles i outcome) = some s') : ChatInv s' := by
  unfold chatStep at hstep
  dsimp only at hstep
  split at hstep
  · next input conversationId hi =>
    cases hstep
    apply h.setPhase hi (by simp) (settledPhase_joined _)
    intro result hr
    cases outcome with
    | none => cases hr
    | some m => cases hr; exact completeChat_carries input conversationId m
  · cases hstep

theorem ChatInv.step_settle {w : ℕ} {outcome : Option MissOutcome} (h : ChatInv s)
    (hstep : chatStep cfg gateway s (.settle w outcome) = some s') : ChatInv s' := by
  unfold chatStep at hstep
  dsimp only at hstep
  split at hstep
  · next closure hclosure =>
    obtain ⟨flight, hflight, rfl⟩ := Option.map_eq_some_iff.mp hstep
    exact h.settled hclosure hflight
  · cases hstep

theorem ChatInv.step_finalize {w : ℕ} (h : ChatInv s) (hstep : chatStep cfg gateway s (.finalize w) = some s') :
    ChatInv s' := by
  obtain ⟨flight, hflight, rfl⟩ := Option.map_eq_some_iff.mp hstep
  exact h.passOn hflight (.inl ⟨w, rfl⟩)

theorem ChatInv.step_deliver {w : ℕ} (h : ChatInv s) (hstep : chatStep cfg gateway s (.deliver w) = some s') :
    ChatInv s' := by
  obtain ⟨flight, hflight, rfl⟩ := Option.map_eq_some_iff.mp hstep
  exact h.passOn hflight (.inr ⟨w, rfl⟩)

theorem ChatInv.step_resume {i : ℕ} (h : ChatInv s) (hstep : chatStep cfg gateway s (.resume i) = some s') :
    ChatInv s' := by
  unfold chatStep at hstep
  dsimp only at hstep
  split at hstep
  · next input conversationId w hi =>
    split at hstep
    · next key result hw =>
      cases hstep
      apply h.setPhase hi (by simp) (settledPhase_joined _)
      intro r hr
      cases result with
      | none => cases hr
      | some result =>
        cases hr
        -- the work's closure has the ids of the outcome and those of the call
        obtain ⟨closure, hclosure, hcarries⟩ := h.outcome w _ _ hw rfl
        obtain ⟨closure', hclosure', hreq, hconv⟩ := h.joined _ (List.mem_of_getElem? hi) w rfl
        rw [hclosure] at hclosure'
        cases hclosure'
        exact ⟨hcarries.1.trans hreq, hcarries.2.trans hconv⟩
    · cases hstep
  · cases hstep

theorem chatStep_inv {a : ChatAction} (h : ChatInv s) (hown : JoinsOwn cfg gateway s a)
    (hstep : chatStep cfg gateway s a = some s') : ChatInv s' := by
  cases a with
  | call input uuid => exact h.step_call hstep
  | prepareFails i => exact h.step_prepareFails hstep
  | prepared i => exact h.step_prepared hstep
  | lookupFails i => exact h.step_lookupFails hstep
  | hit i reply source => exact h.step_hit hstep
  | miss i => exact h.step_miss hown hstep
  | ownSettles i outcome => exact h.step_ownSettles hstep
  | settle w outcome => exact h.step_settle hstep
  | finalize w => exact h.step_finalize hstep
  | deliver w => exact h.step_deliver hstep
  | resume i => exact h.step_resume hstep

end Actions

end Invariant

theorem responses_are_own (cfg : IdentityConfig) (gateway : GatewayModels) (acts : List ChatAction)
    (s : ChatSystem) (hown : Runs.Along (chatStep cfg gateway) (JoinsOwn cfg gateway) .initial acts)
    (hrun : Runs.run (chatStep cfg gateway) .initial acts = some s) : OwnIds s := by
  have hinv : ChatInv s :=
    Runs.run_invariant_along (fun _ _ _ h ho hs => chatStep_inv h ho hs) chatInv_initial hown hrun
  intro c hc result hr
  refine ⟨hinv.returned c hc result hr, ?_⟩
  rcases hinv.sent c hc with hthrew | hsent
  · rw [hthrew] at hr
    cases hr
  · exact hsent

/-- One question under two request ids, for the runs below. -/
def askInput (requestId : String) : ExecuteInput where
  request := ⟨"chat-default", [⟨.user, "hi", none, none⟩], 0, none⟩
  options := ⟨none, none, none, none, none, none, none, none, none, none, none, none⟩
  clientId := "Team-A"
  requestId := requestId
  gatewayKey := "gk-1"

def openGateway : GatewayModels := ⟨fun _ => some "openai-main", fun _ => some true⟩

/-- One payload is hashed below; `9f86` stands for its digest. -/
def plainIdentity : IdentityConfig := ⟨⟨"", none, .empty⟩, none, none, fun _ => "9f86"⟩

def helloOutcome : MissOutcome :=
  ⟨⟨"hello", none, [], some .stop, none, none, none⟩, "openai-main", none, [], "gw_1"⟩

def uuidOne : String := "00000000-0000-4000-8000-000000000001"

def uuidTwo : String := "00000000-0000-4000-8000-000000000002"

/-- The second call comes after the first has settled: each gets its own ids. -/
theorem responses_are_own_in_turn :
    ∃ s, Runs.run (chatStep plainIdentity openGateway) .initial
        [.call (askInput "req_1") uuidOne, .prepared 0, .miss 0, .settle 0 (some helloOutcome), .finalize 0,
          .deliver 0, .resume 0, .call (askInput "req_2") uuidTwo, .prepared 1, .miss 1,
          .settle 1 (some helloOutcome), .finalize 1, .deliver 1, .resume 1] = some s ∧ OwnIds s := by
  obtain ⟨s, hs⟩ : ∃ s, Runs.run (chatStep plainIdentity openGateway) .initial
      [.call (askInput "req_1") uuidOne, .prepared 0, .miss 0, .settle 0 (some helloOutcome), .finalize 0,
        .deliver 0, .resume 0, .call (askInput "req_2") uuidTwo, .prepared 1, .miss 1,
        .settle 1 (some helloOutcome), .finalize 1, .deliver 1, .resume 1] = some s := ⟨_, rfl⟩
  refine ⟨s, hs, responses_are_own _ _ _ s ?_ hs⟩
  have hfree : ∀ (s : ChatSystem) (i : ℕ) (c : ExecuteCall), s.calls[i]? = some c →
      s.flight.inFlight (c.input.key plainIdentity) = none →
      JoinsOwn plainIdentity openGateway s (.miss i) := by
    intro s i c hc hnone d hd _ w hw
    rw [hc] at hd
    cases hd
    rw [hnone] at hw
    cases hw
  refine ⟨trivial, trivial, hfree _ 0 _ rfl rfl, trivial, trivial, trivial, trivial, trivial, trivial,
    hfree _ 1 _ rfl rfl, trivial, trivial, trivial, trivial, trivial⟩

/-- Two equal questions in flight at once: the second call is answered with the request id
and the conversation id of the first. -/
theorem joined_call_gets_leader_ids :
    ¬ ∀ (cfg : IdentityConfig) (gateway : GatewayModels) (acts : List ChatAction) (s : ChatSystem),
      Runs.run (chatStep cfg gateway) .initial acts = some s → OwnIds s := by
  intro h
  have hown := h plainIdentity openGateway
    [.call (askInput "req_1") uuidOne, .call (askInput "req_2") uuidTwo, .prepared 0, .prepared 1, .miss 0,
      .miss 1, .settle 0 (some helloOutcome), .finalize 0, .deliver 0, .resume 1] _ rfl
  have hreq := (hown ⟨askInput "req_2", "conv_" ++ uuidTwo,
    .returned (completeChat (askInput "req_1") ("conv_" ++ uuidOne) helloOutcome)⟩
    (List.mem_of_getElem? (i := 1) rfl) _ rfl).1.1
  exact absurd hreq (by decide)

end AiGateway
