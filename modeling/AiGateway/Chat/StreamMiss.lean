import AiGateway.Chat.Resilience
import AiGateway.Chat.Response
import AiGateway.Lib.Run
import AiGateway.Lib.Table

/- `ChatService.executeStreamMiss`: a streamed answer under retries, a deadline for each
   attempt and a fallback alias. `streamOnce` emits every chunk of its attempt at once, while
   the executor decides from outside which attempt has succeeded; an attempt that has missed
   its deadline is abandoned but not stopped, and may go on emitting.

   A state is what can be seen between two turns of the event loop; a step is one event of
   one attempt, a deadline, the end of a backoff, or the next turn of `executeStreamMiss`.

   `stream_exact_iff`: in a run that returns, the events are one `meta`, deltas that make up
   the text of the successful attempt, and one final `done`, if and only if every attempt
   that failed or missed its deadline yielded only empty text and no attempt yielded anything
   after `done`. -/
namespace AiGateway

/-! ## Events -/

structure SseMeta where
  id : String
  provider : String
  model : String
  effectiveModelAlias : Option String
  requestId : String
  conversationId : String
  deriving DecidableEq

structure SseDone where
  usage : Option CachedUsage
  totalTokens : Option ℚ
  toolCalls : List GatewayToolCall
  finishReason : FinishReason
  systemFingerprint : Option String
  thinkingContent : Option String
  usageDetails : Option ProviderUsageDetails
  effectiveModelAlias : Option String
  warnings : List CachedChatWarning
  deriving DecidableEq

inductive SseEvent where
  | metaEvent (data : SseMeta)
  | delta (text : String)
  | done (data : SseDone)
  deriving DecidableEq

def buildStreamDoneEvent (f : StreamFinal) (warnings : List CachedChatWarning)
    (effectiveModelAlias : Option String) : SseDone where
  usage := f.usage
  totalTokens := f.usage.map fun u => u.inputTokens.value + u.outputTokens.value
  toolCalls := f.toolCalls
  finishReason := mapStopReasonToFinishReason f.stopReason f.toolCalls
  systemFingerprint := JsString.truthy f.systemFingerprint
  thinkingContent := JsString.truthy f.thinkingContent
  usageDetails := f.usageDetails
  effectiveModelAlias := JsString.truthy effectiveModelAlias
  warnings := warnings

/-! ## The run of one request -/

/-- The request, its resolved configuration, and what the registry knows of the two aliases. -/
structure StreamInput where
  options : ExecutionOptions
  requestId : String
  conversationId : String
  responseId : String
  providerName : Leg → String
  warnings : Leg → List CachedChatWarning

inductive AttemptStatus where
  | running              -- the executor waits for it
  | abandoned            -- it missed its deadline and goes on unheard
  | ended
  deriving DecidableEq, Repr

structure StreamAttempt where
  leg : Leg
  assembledText : String
  status : AttemptStatus
  deriving DecidableEq, Repr

inductive StreamControl where
  | start
  | launching (a : AttemptNo)                 -- `runOnce` is called next
  | waiting (a : AttemptNo) (id : ℕ)
  | backoff (a : AttemptNo) (delayMs : ℕ)
  | succeeded (leg : Leg) (id : ℕ) (f : StreamFinal)
  | doneEmitted (leg : Leg) (id : ℕ) (f : StreamFinal)
  | returned (id : ℕ)
  | failed (e : ThrownError)
  deriving DecidableEq

/-- `stored` is the response handed to `setCachedIfAllowed`. -/
structure StreamRun where
  control : StreamControl
  attempts : List StreamAttempt
  metaEmitted : Bool
  events : List SseEvent
  stored : Option ChatResponseData
  deriving DecidableEq

def StreamRun.initial : StreamRun := ⟨.start, [], false, [], none⟩

inductive StreamMissAction where
  | begin
  | launch
  | launchThrows (e : ThrownError)       -- before `meta`: the alias or `provider.stream` throws
  | chunk (id : ℕ) (text : String)
  | fail (id : ℕ) (e : ThrownError)
  | finish (id : ℕ) (f : StreamFinal)
  | timeout (id : ℕ)
  | wake
  | emitDone
  | store (error : Option ThrownError)   -- the cache write, which may reject
  deriving DecidableEq

def AfterError.control (a : AttemptNo) : AfterError → StreamControl
  | .backoff delayMs => .backoff a delayMs
  | .next b => .launching b
  | .fail e => .failed e

/-- The `meta` event of the first attempt that gets so far. -/
def StreamInput.metaData (i : StreamInput) (leg : Leg) : SseMeta where
  id := i.responseId
  provider := i.providerName leg
  model := i.options.primaryAlias
  effectiveModelAlias :=
    if i.options.legAlias leg = i.options.primaryAlias then none else some (i.options.legAlias leg)
  requestId := i.requestId
  conversationId := i.conversationId

namespace StreamRun

def setStatus (s : StreamRun) (id : ℕ) (t : StreamAttempt) (status : AttemptStatus) : StreamRun :=
  { s with attempts := s.attempts.set id { t with status := status } }

def emitMeta (i : StreamInput) (s : StreamRun) (leg : Leg) : List SseEvent :=
  if s.metaEmitted then s.events else s.events ++ [.metaEvent (i.metaData leg)]

end StreamRun

/-- The alias reported with a result that came from the fallback. -/
def StreamInput.effectiveAlias (i : StreamInput) : Leg → Option String
  | .primary => none
  | .fallback => i.options.fallbackAlias

def storedResponse (i : StreamInput) (leg : Leg) (text : String) (f : StreamFinal) : ChatResponseData :=
  buildChatResponse (f.toProviderResponse text) (i.providerName leg) i.options.primaryAlias i.requestId
    i.conversationId (i.effectiveAlias leg) (i.warnings leg) i.responseId

def streamMissStep (i : StreamInput) (s : StreamRun) : StreamMissAction → Option StreamRun
  | .begin =>
    match s.control, fallbackCycleError i.options with
    | .start, some e => some { s with control := .failed e }
    | .start, none => some { s with control := .launching ⟨.primary, 1, none⟩ }
    | _, _ => none
  | .launch =>
    match s.control with
    | .launching a =>
      some { s with
        control := .waiting a s.attempts.length
        attempts := s.attempts ++ [⟨a.leg, "", .running⟩]
        metaEmitted := true
        events := s.emitMeta i a.leg }
    | _ => none
  | .launchThrows e =>
    match s.control with
    | .launching a => some { s with control := (afterError i.options a e).control a }
    | _ => none
  | .chunk id text =>
    match s.attempts[id]? with
    | some t =>
      if t.status = .ended then none
      else some { s with
        attempts := s.attempts.set id { t with assembledText := t.assembledText ++ text }
        events := s.events ++ [.delta text] }
    | none => none
  | .fail id e =>
    match s.attempts[id]? with
    | some t =>
      match t.status, s.control with
      | .ended, _ => none
      | .abandoned, _ => some (s.setStatus id t .ended)
      | .running, .waiting a _ =>
        some { s.setStatus id t .ended with control := (afterError i.options a e).control a }
      | .running, _ => none
    | none => none
  | .finish id f =>
    match s.attempts[id]? with
    | some t =>
      match t.status, s.control with
      | .ended, _ => none
      | .abandoned, _ => some (s.setStatus id t .ended)
      | .running, .waiting a _ => some { s.setStatus id t .ended with control := .succeeded a.leg id f }
      | .running, _ => none
    | none => none
  | .timeout id =>
    match s.control, i.options.retry.timeoutMs, s.attempts[id]? with
    | .waiting a w, some ms, some t =>
      if w = id then
        some { s.setStatus id t .abandoned with
          control := (afterError i.options a (timeoutError ms)).control a }
      else none
    | _, _, _ => none
  | .wake =>
    match s.control with
    | .backoff a _ => some { s with control := .launching { a with n := a.n + 1 } }
    | _ => none
  | .emitDone =>
    match s.control with
    | .succeeded leg id f =>
      some { s with
        control := .doneEmitted leg id f
        events := s.events ++ [.done (buildStreamDoneEvent f (i.warnings leg) (i.effectiveAlias leg))] }
    | _ => none
  | .store error =>
    match s.control with
    | .doneEmitted leg id f =>
      -- no cache write after a fallback
      if leg = .fallback then some { s with control := .returned id }
      else
        let text := (s.attempts[id]?.map StreamAttempt.assembledText).getD ""
        some { s with
          stored := some (storedResponse i leg text f)
          control := match error with
            | none => .returned id
            | some e => .failed e }
    | _ => none

/-! ## Steps -/

/-- One step by the branch that it takes. The attempt that runs is the one waited for, so its
end moves the executor; the end of an abandoned one is not noticed. -/
inductive StreamMove (i : StreamInput) (s : StreamRun) : StreamMissAction → StreamRun → Prop where
  | refuse (e : ThrownError) (hc : s.control = .start) : StreamMove i s .begin { s with control := .failed e }
  | begin (hc : s.control = .start) :
      StreamMove i s .begin { s with control := .launching ⟨.primary, 1, none⟩ }
  | launch (b : AttemptNo) (hc : s.control = .launching b) :
      StreamMove i s .launch { s with
        control := .waiting b s.attempts.length
        attempts := s.attempts ++ [⟨b.leg, "", .running⟩]
        metaEmitted := true
        events := s.emitMeta i b.leg }
  | launchThrows (b : AttemptNo) (e : ThrownError) (hc : s.control = .launching b) :
      StreamMove i s (.launchThrows e) { s with control := (afterError i.options b e).control b }
  | chunk (id : ℕ) (text : String) (t : StreamAttempt) (ht : s.attempts[id]? = some t) (hst : t.status ≠ .ended) :
      StreamMove i s (.chunk id text) { s with
        attempts := s.attempts.set id { t with assembledText := t.assembledText ++ text }
        events := s.events ++ [.delta text] }
  | failUnheard (id : ℕ) (e : ThrownError) (t : StreamAttempt) (ht : s.attempts[id]? = some t)
      (hst : t.status = .abandoned) : StreamMove i s (.fail id e) (s.setStatus id t .ended)
  | fail (id : ℕ) (e : ThrownError) (t : StreamAttempt) (b : AttemptNo) (w : ℕ) (ht : s.attempts[id]? = some t)
      (hst : t.status = .running) (hc : s.control = .waiting b w) :
      StreamMove i s (.fail id e)
        { s.setStatus id t .ended with control := (afterError i.options b e).control b }
  | finishUnheard (id : ℕ) (f : StreamFinal) (t : StreamAttempt) (ht : s.attempts[id]? = some t)
      (hst : t.status = .abandoned) : StreamMove i s (.finish id f) (s.setStatus id t .ended)
  | finish (id : ℕ) (f : StreamFinal) (t : StreamAttempt) (b : AttemptNo) (w : ℕ) (ht : s.attempts[id]? = some t)
      (hst : t.status = .running) (hc : s.control = .waiting b w) :
      StreamMove i s (.finish id f) { s.setStatus id t .ended with control := .succeeded b.leg id f }
  | timeout (id : ℕ) (b : AttemptNo) (ms : ℕ) (t : StreamAttempt) (hc : s.control = .waiting b id)
      (ht : s.attempts[id]? = some t) :
      StreamMove i s (.timeout id) { s.setStatus id t .abandoned with
        control := (afterError i.options b (timeoutError ms)).control b }
  | wake (b : AttemptNo) (delayMs : ℕ) (hc : s.control = .backoff b delayMs) :
      StreamMove i s .wake { s with control := .launching { b with n := b.n + 1 } }
  | emitDone (leg : Leg) (id : ℕ) (f : StreamFinal) (hc : s.control = .succeeded leg id f) :
      StreamMove i s .emitDone { s with
        control := .doneEmitted leg id f
        events := s.events ++ [.done (buildStreamDoneEvent f (i.warnings leg) (i.effectiveAlias leg))] }
  | skipStore (error : Option ThrownError) (id : ℕ) (f : StreamFinal) (hc : s.control = .doneEmitted .fallback id f) :
      StreamMove i s (.store error) { s with control := .returned id }
  | store (id : ℕ) (f : StreamFinal) (hc : s.control = .doneEmitted .primary id f) :
      StreamMove i s (.store none) { s with
        stored := some (storedResponse i .primary ((s.attempts[id]?.map StreamAttempt.assembledText).getD "") f)
        control := .returned id }
  | storeFails (e : ThrownError) (id : ℕ) (f : StreamFinal) (hc : s.control = .doneEmitted .primary id f) :
      StreamMove i s (.store (some e)) { s with
        stored := some (storedResponse i .primary ((s.attempts[id]?.map StreamAttempt.assembledText).getD "") f)
        control := .failed e }

variable {i : StreamInput} {s s' : StreamRun} {h : List StreamMissAction}

theorem streamMissStep_move {a : StreamMissAction} (hstep : streamMissStep i s a = some s') :
    StreamMove i s a s' := by
  cases a with
  | begin =>
    unfold streamMissStep at hstep
    dsimp only at hstep
    split at hstep
    · next e hc _ => cases hstep; exact .refuse e hc
    · next hc _ => cases hstep; exact .begin hc
    · cases hstep
  | launch =>
    unfold streamMissStep at hstep
    dsimp only at hstep
    split at hstep
    · next b hc => cases hstep; exact .launch b hc
    · cases hstep
  | launchThrows e =>
    unfold streamMissStep at hstep
    dsimp only at hstep
    split at hstep
    · next b hc => cases hstep; exact .launchThrows b e hc
    · cases hstep
  -- An attempt that is over sends nothing; one whose time ran out may still do so.
  | chunk id text =>
    unfold streamMissStep at hstep
    dsimp only at hstep
    split at hstep
    · next t ht =>
      split at hstep
      · cases hstep
      · next hst => cases hstep; exact .chunk id text t ht hst
    · cases hstep
  -- The executor hears of the end of an attempt only while it waits for that attempt.
  | fail id e =>
    unfold streamMissStep at hstep
    dsimp only at hstep
    split at hstep
    · next t ht =>
      split at hstep
      · cases hstep
      · next hst => cases hstep; exact .failUnheard id e t ht hst
      · next b w hst hc => cases hstep; exact .fail id e t b w ht hst hc
      · cases hstep
    · cases hstep
  | finish id f =>
    unfold streamMissStep at hstep
    dsimp only at hstep
    split at hstep
    · next t ht =>
      split at hstep
      · cases hstep
      · next hst => cases hstep; exact .finishUnheard id f t ht hst
      · next b w hst hc => cases hstep; exact .finish id f t b w ht hst hc
      · cases hstep
    · cases hstep
  | timeout id =>
    unfold streamMissStep at hstep
    dsimp only at hstep
    split at hstep
    · next b w ms t hc _ ht =>
      split at hstep
      · next hid =>
        cases hstep
        subst hid
        exact .timeout w b ms t hc ht
      · cases hstep
    · cases hstep
  | wake =>
    unfold streamMissStep at hstep
    dsimp only at hstep
    split at hstep
    · next b delayMs hc => cases hstep; exact .wake b delayMs hc
    · cases hstep
  | emitDone =>
    unfold streamMissStep at hstep
    dsimp only at hstep
    split at hstep
    · next leg id f hc => cases hstep; exact .emitDone leg id f hc
    · cases hstep
  -- A reply of the fallback alias is not stored, whatever the cache would have answered.
  | store error =>
    unfold streamMissStep at hstep
    dsimp only at hstep
    split at hstep
    · next leg id f hc =>
      cases leg with
      | fallback => cases hstep; exact .skipStore error id f hc
      | primary =>
        cases hstep
        cases error with
        | none => exact .store id f hc
        | some e => exact .storeFails e id f hc
    · cases hstep

/-! ## Schedules -/

def StreamMissAction.chunkText? : StreamMissAction → Option String
  | .chunk _ text => some text
  | _ => none

def StreamMissAction.chunkTextOf? (id : ℕ) : StreamMissAction → Option String
  | .chunk j text => if j = id then some text else none
  | _ => none

/-- The chunks of all attempts, in the order in which they came. -/
def chunkTexts (h : List StreamMissAction) : List String := h.filterMap StreamMissAction.chunkText?

def chunkTextsOf (id : ℕ) (h : List StreamMissAction) : List String := h.filterMap (StreamMissAction.chunkTextOf? id)

/-- The attempt has failed or missed its deadline. -/
def Lost (h : List StreamMissAction) (id : ℕ) : Prop :=
  StreamMissAction.timeout id ∈ h ∨ ∃ e, StreamMissAction.fail id e ∈ h

/-- A chunk came after the `done` event. -/
def LateChunk (h : List StreamMissAction) : Prop :=
  ∃ pre post id text, h = pre ++ .emitDone :: post ∧ StreamMissAction.chunk id text ∈ post

/-- Attempts that do not succeed yield only empty text, and nothing comes after `done`. -/
def CleanSchedule (h : List StreamMissAction) : Prop :=
  (∀ id text, StreamMissAction.chunk id text ∈ h → Lost h id → text = "") ∧ ¬ LateChunk h

/-- One `meta`, the deltas of the successful attempt's text, which is also the text handed to
the cache write, and a final `done`. -/
def ExactStream (s : StreamRun) (id : ℕ) : Prop :=
  ∃ m ds d t, s.events = .metaEvent m :: (ds.map .delta ++ [.done d]) ∧ s.attempts[id]? = some t ∧
    joinText ds = t.assembledText ∧
    (t.leg = .primary → ∃ r, s.stored = some r ∧ r.text = t.assembledText)

theorem lost_snoc {h : List StreamMissAction} {a : StreamMissAction} {id : ℕ} :
    Lost (h ++ [a]) id ↔ Lost h id ∨ a = .timeout id ∨ ∃ e, a = .fail id e := by
  simp only [Lost, List.mem_append, List.mem_singleton]
  constructor
  · rintro ((h1 | h1) | ⟨e, h1 | h1⟩)
    · exact .inl (.inl h1)
    · exact .inr (.inl h1.symm)
    · exact .inl (.inr ⟨e, h1⟩)
    · exact .inr (.inr ⟨e, h1.symm⟩)
  · rintro ((h1 | ⟨e, h1⟩) | h1 | ⟨e, h1⟩)
    · exact .inl (.inl h1)
    · exact .inr ⟨e, .inl h1⟩
    · exact .inl (.inr h1.symm)
    · exact .inr ⟨e, .inr h1.symm⟩

theorem lateChunk_snoc {h : List StreamMissAction} {a : StreamMissAction} :
    LateChunk (h ++ [a]) ↔
      LateChunk h ∨ (StreamMissAction.emitDone ∈ h ∧ ∃ id text, a = .chunk id text) := by
  constructor
  · rintro ⟨pre, post, id, text, heq, hmem⟩
    rcases List.eq_nil_or_concat post with rfl | ⟨post', b, rfl⟩
    · cases hmem
    · rw [List.concat_eq_append] at heq hmem
      have hsplit : h ++ [a] = (pre ++ .emitDone :: post') ++ [b] := by simpa using heq
      obtain ⟨rfl, hb⟩ := List.append_inj' hsplit rfl
      cases hb
      rcases List.mem_append.mp hmem with hmem | hmem
      · exact .inl ⟨pre, post', id, text, rfl, hmem⟩
      · exact .inr ⟨by simp, id, text, (List.mem_singleton.mp hmem).symm⟩
  · rintro (⟨pre, post, id, text, rfl, hmem⟩ | ⟨hdone, id, text, rfl⟩)
    · exact ⟨pre, post ++ [a], id, text, by simp, List.mem_append_left _ hmem⟩
    · obtain ⟨pre, post, rfl⟩ := List.append_of_mem hdone
      exact ⟨pre, post ++ [.chunk id text], id, text, by simp, by simp⟩

theorem chunkTexts_snoc (h : List StreamMissAction) (a : StreamMissAction) :
    chunkTexts (h ++ [a]) = chunkTexts h ++ a.chunkText?.toList := by
  simp only [chunkTexts, List.filterMap_append, List.filterMap_cons, List.filterMap_nil]
  cases a.chunkText? <;> rfl

theorem chunkTextsOf_snoc (id : ℕ) (h : List StreamMissAction) (a : StreamMissAction) :
    chunkTextsOf id (h ++ [a]) = chunkTextsOf id h ++ (a.chunkTextOf? id).toList := by
  simp only [chunkTextsOf, List.filterMap_append, List.filterMap_cons, List.filterMap_nil]
  cases a.chunkTextOf? id <;> rfl

/-! ## The attempts -/

/-- The attempt whose result the executor has returned. -/
def StreamControl.winner : StreamControl → Option ℕ
  | .succeeded _ id _ | .doneEmitted _ id _ | .returned id => some id
  | _ => none

structure AttemptInv (h : List StreamMissAction) (s : StreamRun) : Prop where
  texts : ∀ id t, s.attempts[id]? = some t → t.assembledText = joinText (chunkTextsOf id h)
  known : ∀ id, (∃ text, StreamMissAction.chunk id text ∈ h) ∨ Lost h id → id < s.attempts.length
  running : ∀ id t, s.attempts[id]? = some t → t.status = .running →
    (∃ a, s.control = .waiting a id) ∧ ¬ Lost h id
  waiting : ∀ a id, s.control = .waiting a id → ∃ t, s.attempts[id]? = some t ∧ t.status = .running
  others : ∀ id t, s.attempts[id]? = some t → t.status ≠ .running → (∀ e, s.control ≠ .failed e) →
    Lost h id ∨ s.control.winner = some id
  winner : ∀ id, s.control.winner = some id →
    ∃ t, s.attempts[id]? = some t ∧ t.status = .ended ∧ ¬ Lost h id

theorem attemptInv_initial : AttemptInv [] .initial := by
  refine ⟨?_, ?_, ?_, ?_, ?_, ?_⟩ <;> simp [StreamRun.initial, Lost, StreamControl.winner]

/-- The chunks of an attempt after one more action that is no chunk. -/
theorem chunk_mem_snoc {a : StreamMissAction} (hchunk : ∀ id, a.chunkTextOf? id = none) {id : ℕ} {text : String}
    (hmem : StreamMissAction.chunk id text ∈ h ++ [a]) : StreamMissAction.chunk id text ∈ h := by
  rcases List.mem_append.mp hmem with hmem | hmem
  · exact hmem
  · have hno := hchunk id
    rw [← List.mem_singleton.mp hmem] at hno
    simp [StreamMissAction.chunkTextOf?] at hno

/-- A step of the control alone: nothing waits before or after it. -/
theorem AttemptInv.control {a : StreamMissAction} {control : StreamControl} (hinv : AttemptInv h s)
    (hattempts : s'.attempts = s.attempts) (hcontrol : s'.control = control)
    (hchunk : ∀ id, a.chunkTextOf? id = none) (hlost : ∀ id, ¬ (a = .timeout id ∨ ∃ e, a = .fail id e))
    (hold : ∀ b id, s.control ≠ .waiting b id) (hnew : ∀ b id, control ≠ .waiting b id)
    (hwinner : control.winner = s.control.winner ∨ ∃ e, control = .failed e)
    (hfailed : ∀ e, s.control = .failed e → control = .failed e) : AttemptInv (h ++ [a]) s' := by
  -- No attempt is touched, so that only what the control says of them is to be checked.
  have hlost' : ∀ id, Lost (h ++ [a]) id ↔ Lost h id := by
    intro id
    rw [lost_snoc]
    exact or_iff_left (hlost id)
  refine ⟨?_, ?_, ?_, ?_, ?_, ?_⟩
  · intro id t ht
    rw [hattempts] at ht
    rw [chunkTextsOf_snoc, hchunk, Option.toList_none, List.append_nil]
    exact hinv.texts id t ht
  · intro id hid
    rw [hattempts]
    apply hinv.known id
    rcases hid with ⟨text, hmem⟩ | hl
    · exact .inl ⟨text, chunk_mem_snoc hchunk hmem⟩
    · exact .inr ((hlost' id).mp hl)
  · intro id t ht hrun
    rw [hattempts] at ht
    obtain ⟨⟨b, hb⟩, -⟩ := hinv.running id t ht hrun
    exact absurd hb (hold b id)
  · intro b id hb
    rw [hcontrol] at hb
    exact absurd hb (hnew b id)
  · intro id t ht hrun hnf
    rw [hattempts] at ht
    rw [hcontrol] at hnf ⊢
    rw [hlost']
    rcases hwinner with hw | ⟨e, he⟩
    · rw [hw]
      exact hinv.others id t ht hrun (fun e he => hnf e (hfailed e he))
    · exact absurd he (hnf e)
  · intro id hid
    rw [hcontrol] at hid
    rcases hwinner with hw | ⟨e, he⟩
    · rw [hw] at hid
      rw [hattempts, hlost']
      exact hinv.winner id hid
    · rw [he] at hid
      cases hid

theorem AttemptInv.launch {b : AttemptNo} (hinv : AttemptInv h s) (hcontrol : s.control = .launching b)
    (hattempts : s'.attempts = s.attempts ++ [⟨b.leg, "", .running⟩])
    (hcontrol' : s'.control = .waiting b s.attempts.length) : AttemptInv (h ++ [.launch]) s' := by
  have hlost : ∀ id, Lost (h ++ [.launch]) id ↔ Lost h id := by
    intro id
    simp [lost_snoc]
  -- the new attempt has no chunks and is not lost, since its number was not given out yet
  have hunknown : ∀ id, (∃ text, StreamMissAction.chunk id text ∈ h) ∨ Lost h id → id ≠ s.attempts.length := by
    intro id hid heq
    have := hinv.known id hid
    omega
  refine ⟨?_, ?_, ?_, ?_, ?_, ?_⟩
  · intro id t ht
    rw [hattempts] at ht
    rw [chunkTextsOf_snoc]
    simp only [StreamMissAction.chunkTextOf?, Option.toList_none, List.append_nil]
    rcases Table.getElem?_snoc_cases ht with ⟨rfl, rfl⟩ | ht
    · have hnil : chunkTextsOf s.attempts.length h = [] := by
        rw [chunkTextsOf, List.filterMap_eq_nil_iff]
        intro a ha
        match a with
        | .chunk j text =>
          have hne := hunknown j (.inl ⟨text, ha⟩)
          simp [StreamMissAction.chunkTextOf?, hne]
        | .begin | .launch | .launchThrows _ | .fail _ _ | .finish _ _ | .timeout _ => rfl
        | .wake | .emitDone | .store _ => rfl
      rw [hnil]
      rfl
    · exact hinv.texts id t ht
  · intro id hid
    rw [hattempts, List.length_append]
    have : id < s.attempts.length := by
      apply hinv.known id
      rcases hid with ⟨text, hmem⟩ | hl
      · exact .inl ⟨text, chunk_mem_snoc (fun _ => rfl) hmem⟩
      · exact .inr ((hlost id).mp hl)
    omega
  · intro id t ht hrun
    rw [hattempts] at ht
    rw [hlost]
    rcases Table.getElem?_snoc_cases ht with ⟨rfl, -⟩ | ht
    · exact ⟨⟨b, hcontrol'⟩, fun hl => hunknown _ (.inr hl) rfl⟩
    · obtain ⟨⟨c, hc⟩, -⟩ := hinv.running id t ht hrun
      rw [hcontrol] at hc
      cases hc
  · intro c id hc
    rw [hcontrol'] at hc
    cases hc
    exact ⟨⟨b.leg, "", .running⟩, by rw [hattempts]; simp, rfl⟩
  · intro id t ht hrun _
    rw [hattempts] at ht
    rw [hlost]
    rcases Table.getElem?_snoc_cases ht with ⟨-, rfl⟩ | ht
    · exact absurd rfl hrun
    · rcases hinv.others id t ht hrun (by rw [hcontrol]; simp) with hl | hw
      · exact .inl hl
      · rw [hcontrol] at hw
        cases hw
  · intro id hid
    rw [hcontrol'] at hid
    cases hid

theorem AttemptInv.chunk {id : ℕ} {text : String} {t : StreamAttempt} (hinv : AttemptInv h s)
    (ht : s.attempts[id]? = some t) :
    AttemptInv (h ++ [.chunk id text])
      { s with
        attempts := s.attempts.set id { t with assembledText := t.assembledText ++ text }
        events := s.events ++ [.delta text] } := by
  have hlen : id < s.attempts.length := (List.getElem?_eq_some_iff.mp ht).1
  have hlost : ∀ j, Lost (h ++ [.chunk id text]) j ↔ Lost h j := by
    intro j
    simp [lost_snoc]
  -- only the text of the attempt changes
  have hstatus : ({ t with assembledText := t.assembledText ++ text } : StreamAttempt).status = t.status := rfl
  refine ⟨?_, ?_, ?_, ?_, ?_, ?_⟩
  · intro j u hu
    rw [chunkTextsOf_snoc, joinText_append]
    rcases Table.getElem?_set_cases hu with ⟨rfl, rfl⟩ | ⟨hne, hu⟩
    · simp [StreamMissAction.chunkTextOf?, joinText, hinv.texts id t ht]
    · simp [StreamMissAction.chunkTextOf?, joinText, hne, hinv.texts j u hu]
  · intro j hj
    rw [List.length_set]
    rcases hj with ⟨text', hmem⟩ | hl
    · rcases List.mem_append.mp hmem with hmem | hmem
      · exact hinv.known j (.inl ⟨text', hmem⟩)
      · cases List.mem_singleton.mp hmem
        exact hlen
    · exact hinv.known j (.inr ((hlost j).mp hl))
  · intro j u hu hrun
    obtain ⟨v, hv, hvu⟩ := Table.getElem?_of_set StreamAttempt.status ht hstatus hu
    rw [hlost]
    exact hinv.running j v hv (hvu.trans hrun)
  · intro b j hb
    obtain ⟨v, hv, hrun⟩ := hinv.waiting b j hb
    obtain ⟨u, hu, huv⟩ := Table.getElem?_set_of StreamAttempt.status ht hstatus hv
    exact ⟨u, hu, huv.trans hrun⟩
  · intro j u hu hrun hnf
    obtain ⟨v, hv, hvu⟩ := Table.getElem?_of_set StreamAttempt.status ht hstatus hu
    rw [hlost]
    exact hinv.others j v hv (by rw [hvu]; exact hrun) hnf
  · intro j hj
    obtain ⟨v, hv, hended, hl⟩ := hinv.winner j hj
    obtain ⟨u, hu, huv⟩ := Table.getElem?_set_of StreamAttempt.status ht hstatus hv
    exact ⟨u, hu, huv.trans hended, by rw [hlost]; exact hl⟩

section SetStatus
variable {id : ℕ} {t : StreamAttempt} {status : AttemptStatus} {a : StreamMissAction}

theorem lost_snoc_of_ne (hlost : ∀ j, j ≠ id → ¬ (a = .timeout j ∨ ∃ e, a = .fail j e)) {j : ℕ} (hj : j ≠ id) :
    Lost (h ++ [a]) j ↔ Lost h j := by
  rw [lost_snoc]
  exact or_iff_left (hlost j hj)

/-- A status says nothing about texts. -/
theorem AttemptInv.texts_setStatus (hinv : AttemptInv h s) (ht : s.attempts[id]? = some t)
    (hchunk : ∀ j, a.chunkTextOf? j = none) :
    ∀ j u, (s.setStatus id t status).attempts[j]? = some u → u.assembledText = joinText (chunkTextsOf j (h ++ [a])) := by
  intro j u hu
  rw [chunkTextsOf_snoc, hchunk, Option.toList_none, List.append_nil]
  rcases Table.getElem?_set_cases hu with ⟨rfl, rfl⟩ | ⟨-, hu⟩
  · exact hinv.texts id t ht
  · exact hinv.texts j u hu

theorem AttemptInv.known_setStatus (hinv : AttemptInv h s) (ht : s.attempts[id]? = some t)
    (hchunk : ∀ j, a.chunkTextOf? j = none) (hlost : ∀ j, j ≠ id → ¬ (a = .timeout j ∨ ∃ e, a = .fail j e)) :
    ∀ j, (∃ text, StreamMissAction.chunk j text ∈ h ++ [a]) ∨ Lost (h ++ [a]) j →
      j < (s.setStatus id t status).attempts.length := by
  intro j hj
  show j < (s.attempts.set id _).length
  rw [List.length_set]
  by_cases hid : j = id
  · rw [hid]
    exact (List.getElem?_eq_some_iff.mp ht).1
  · apply hinv.known j
    rcases hj with ⟨text, hmem⟩ | hl
    · exact .inl ⟨text, chunk_mem_snoc hchunk hmem⟩
    · exact .inr ((lost_snoc_of_ne hlost hid).mp hl)

/-- An attempt that was abandoned stops, and the executor does not hear of it. -/
theorem AttemptInv.unheard (hinv : AttemptInv h s) (ht : s.attempts[id]? = some t) (hold : t.status ≠ .running)
    (hstatus : status ≠ .running) (hchunk : ∀ j, a.chunkTextOf? j = none)
    (hlost : ∀ j, j ≠ id → ¬ (a = .timeout j ∨ ∃ e, a = .fail j e)) (hlose : s.control.winner ≠ some id) :
    AttemptInv (h ++ [a]) (s.setStatus id t status) := by
  refine ⟨hinv.texts_setStatus ht hchunk, hinv.known_setStatus ht hchunk hlost, ?_, ?_, ?_, ?_⟩
  · intro j u hu hrun
    rcases Table.getElem?_set_cases hu with ⟨-, rfl⟩ | ⟨hne, hu⟩
    · exact absurd hrun hstatus
    · rw [lost_snoc_of_ne hlost (Ne.symm hne)]
      exact hinv.running j u hu hrun
  · intro b j hb
    obtain ⟨v, hv, hrun⟩ := hinv.waiting b j hb
    -- The attempt that is waited for is running, this one is not.
    have hne : id ≠ j := by
      rintro rfl
      rw [ht] at hv
      cases hv
      exact hold hrun
    exact ⟨v, (List.getElem?_set_ne hne).trans hv, hrun⟩
  · intro j u hu hrun hnf
    have hbefore : ∃ v, s.attempts[j]? = some v ∧ v.status ≠ .running := by
      rcases Table.getElem?_set_cases hu with ⟨rfl, rfl⟩ | ⟨-, hu⟩
      · exact ⟨t, ht, hold⟩
      · exact ⟨u, hu, hrun⟩
    obtain ⟨v, hv, hvr⟩ := hbefore
    rcases hinv.others j v hv hvr hnf with hl | hw
    · exact .inl (lost_snoc.mpr (.inl hl))
    · exact .inr hw
  · intro j hj
    obtain ⟨v, hv, hended, hl⟩ := hinv.winner j hj
    have hne : id ≠ j := by
      rintro rfl
      exact hlose hj
    refine ⟨v, (List.getElem?_set_ne hne).trans hv, hended, ?_⟩
    rw [lost_snoc_of_ne hlost (Ne.symm hne)]
    exact hl

/-- The attempt that is waited for stops. `control` is what the executor does next; it waits
for nothing, and the attempt is lost or has won. -/
theorem AttemptInv.heard {control : StreamControl} (hinv : AttemptInv h s) (ht : s.attempts[id]? = some t)
    (hold : t.status = .running) (hstatus : status ≠ .running) (hchunk : ∀ j, a.chunkTextOf? j = none)
    (hlost : ∀ j, j ≠ id → ¬ (a = .timeout j ∨ ∃ e, a = .fail j e)) (hidle : ∀ b j, control ≠ .waiting b j)
    (hend : (Lost (h ++ [a]) id ∧ control.winner = none) ∨
      (¬ Lost (h ++ [a]) id ∧ status = .ended ∧ control.winner = some id)) :
    AttemptInv (h ++ [a]) { s.setStatus id t status with control := control } := by
  obtain ⟨⟨c, hc⟩, -⟩ := hinv.running id t ht hold
  refine ⟨hinv.texts_setStatus ht hchunk, hinv.known_setStatus ht hchunk hlost, ?_, ?_, ?_, ?_⟩
  · intro j u hu hrun
    rcases Table.getElem?_set_cases hu with ⟨-, rfl⟩ | ⟨hne, hu⟩
    · exact absurd hrun hstatus
    · -- two attempts that run at once would both be the one waited for
      obtain ⟨⟨b, hb⟩, -⟩ := hinv.running j u hu hrun
      rw [hc] at hb
      cases hb
      exact absurd rfl hne
  · intro b j hb
    exact absurd hb (hidle b j)
  · intro j u hu hrun _
    rcases Table.getElem?_set_cases hu with ⟨rfl, -⟩ | ⟨hne, hu⟩
    · rcases hend with ⟨hl, -⟩ | ⟨-, -, hw⟩
      · exact .inl hl
      · exact .inr hw
    · rcases hinv.others j u hu hrun (by rw [hc]; simp) with hl | hwin
      · exact .inl (lost_snoc.mpr (.inl hl))
      · rw [hc] at hwin
        cases hwin
  · intro j hj
    have hj : control.winner = some j := hj
    rcases hend with ⟨-, hnone⟩ | ⟨hnl, hst, hwin⟩
    · rw [hnone] at hj
      cases hj
    · rw [hwin] at hj
      cases hj
      exact ⟨_, List.getElem?_set_self (List.getElem?_eq_some_iff.mp ht).1, hst, hnl⟩

end SetStatus

theorem afterError_winner (o : ExecutionOptions) (a : AttemptNo) (e : ThrownError) :
    ((afterError o a e).control a).winner = none ∧
      ∀ b id, (afterError o a e).control a ≠ .waiting b id := by
  cases afterError o a e <;> simp [AfterError.control, StreamControl.winner]

/-- An attempt that still runs or is abandoned is not the winner. -/
theorem AttemptInv.not_winner {id : ℕ} {t : StreamAttempt} (hinv : AttemptInv h s)
    (ht : s.attempts[id]? = some t) (hstatus : t.status ≠ .ended) : s.control.winner ≠ some id := by
  intro hw
  obtain ⟨u, hu, hended, -⟩ := hinv.winner id hw
  rw [ht] at hu
  cases hu
  exact hstatus hended

theorem streamMissStep_attemptInv {a : StreamMissAction} (hinv : AttemptInv h s)
    (hstep : streamMissStep i s a = some s') : AttemptInv (h ++ [a]) s' := by
  cases streamMissStep_move hstep with
  | refuse e hc =>
    exact hinv.control rfl rfl (fun _ => rfl) (by simp) (by simp [hc]) (by simp) (.inr ⟨_, rfl⟩) (by simp [hc])
  | begin hc =>
    exact hinv.control rfl rfl (fun _ => rfl) (by simp) (by simp [hc]) (by simp) (.inl (by rw [hc]; rfl))
      (by simp [hc])
  | launch b hc => exact hinv.launch hc rfl rfl
  | launchThrows b e hc =>
    obtain ⟨hw, hnw⟩ := afterError_winner i.options b e
    exact hinv.control rfl rfl (fun _ => rfl) (by simp) (by simp [hc]) hnw (.inl (by rw [hw, hc]; rfl))
      (by simp [hc])
  | chunk id text t ht _ => exact hinv.chunk ht
  -- Its time had run out: the executor is at another attempt by now.
  | failUnheard id e t ht hst =>
    apply hinv.unheard ht (by rw [hst]; simp) (by simp) (fun _ => rfl)
    · intro j hj
      simp [Ne.symm hj]
    · exact hinv.not_winner ht (by rw [hst]; simp)
  | fail id e t b w ht hst hc =>
    obtain ⟨hw, hnw⟩ := afterError_winner i.options b e
    apply hinv.heard ht hst (by simp) (fun _ => rfl) _ hnw (.inl ⟨lost_snoc.mpr (.inr (.inr ⟨e, rfl⟩)), hw⟩)
    intro j hj
    simp [Ne.symm hj]
  | finishUnheard id f t ht hst =>
    apply hinv.unheard ht (by rw [hst]; simp) (by simp) (fun _ => rfl) (by simp)
    exact hinv.not_winner ht (by rw [hst]; simp)
  -- It was waited for, so that it was lost neither before nor now.
  | finish id f t b w ht hst hc =>
    have hnl : ¬ Lost (h ++ [.finish id f]) id := by
      simp only [lost_snoc, reduceCtorEq, exists_false, or_false]
      exact (hinv.running id t ht hst).2
    exact hinv.heard ht hst (by simp) (fun _ => rfl) (by simp) (by simp) (.inr ⟨hnl, rfl, rfl⟩)
  | timeout id b ms t hc ht =>
    obtain ⟨u, hu, hrun⟩ := hinv.waiting b id hc
    rw [ht] at hu
    cases hu
    obtain ⟨hw, hnw⟩ := afterError_winner i.options b (timeoutError ms)
    apply hinv.heard ht hrun (by simp) (fun _ => rfl) _ hnw (.inl ⟨lost_snoc.mpr (.inr (.inl rfl)), hw⟩)
    intro j hj
    simp [Ne.symm hj]
  | wake b delayMs hc =>
    exact hinv.control rfl rfl (fun _ => rfl) (by simp) (by simp [hc]) (by simp) (.inl (by rw [hc]; rfl))
      (by simp [hc])
  | emitDone leg id f hc =>
    exact hinv.control rfl rfl (fun _ => rfl) (by simp) (by simp [hc]) (by simp) (.inl (by rw [hc]; rfl))
      (by simp [hc])
  | skipStore error id f hc =>
    exact hinv.control rfl rfl (fun _ => rfl) (by simp) (by simp [hc]) (by simp) (.inl (by rw [hc]; rfl))
      (by simp [hc])
  | store id f hc =>
    exact hinv.control rfl rfl (fun _ => rfl) (by simp) (by simp [hc]) (by simp) (.inl (by rw [hc]; rfl))
      (by simp [hc])
  | storeFails e id f hc =>
    exact hinv.control rfl rfl (fun _ => rfl) (by simp) (by simp [hc]) (by simp) (.inr ⟨e, rfl⟩) (by simp [hc])

/-! ## The events -/

/-- The executor has not returned, or `done` is the next thing to emit. -/
def StreamControl.beforeDone : StreamControl → Bool
  | .start | .launching _ | .waiting _ _ | .backoff _ _ | .succeeded _ _ _ => true
  | .doneEmitted _ _ _ | .returned _ | .failed _ => false

def StreamControl.afterDone : StreamControl → Bool
  | .doneEmitted _ _ _ | .returned _ => true
  | _ => false

structure EventInv (h : List StreamMissAction) (s : StreamRun) : Prop where
  silent : s.metaEmitted = false → s.attempts = [] ∧ s.events = []
  before : StreamMissAction.emitDone ∉ h → s.metaEmitted = true →
    ∃ m, s.events = .metaEvent m :: (chunkTexts h).map .delta
  after : StreamMissAction.emitDone ∈ h → s.metaEmitted = true ∧ ∃ m ds d late,
    s.events = .metaEvent m :: (ds.map .delta ++ .done d :: late.map .delta) ∧
      chunkTexts h = ds ++ late ∧ (late = [] ↔ ¬ LateChunk h)
  done_no : s.control.beforeDone = true → StreamMissAction.emitDone ∉ h
  done_yes : s.control.afterDone = true → StreamMissAction.emitDone ∈ h
  no_chunks : s.metaEmitted = false → chunkTexts h = []

theorem eventInv_initial : EventInv [] .initial := by
  refine ⟨?_, ?_, ?_, ?_, ?_, ?_⟩ <;> simp [StreamRun.initial, chunkTexts, StreamControl.afterDone]

/-- A step that emits nothing. -/
theorem EventInv.quiet {a : StreamMissAction} (hinv : EventInv h s) (hevents : s'.events = s.events)
    (hmeta : s'.metaEmitted = s.metaEmitted) (hattempts : s.attempts = [] → s'.attempts = [])
    (hchunk : a.chunkText? = none) (hdone : a ≠ .emitDone)
    (hbefore : s'.control.beforeDone = true → s.control.beforeDone = true)
    (hafter : s'.control.afterDone = true → s.control.afterDone = true) : EventInv (h ++ [a]) s' := by
  have hmem : StreamMissAction.emitDone ∈ h ++ [a] ↔ StreamMissAction.emitDone ∈ h := by
    simp [hdone.symm]
  have hlate : LateChunk (h ++ [a]) ↔ LateChunk h := by
    rw [lateChunk_snoc]
    apply or_iff_left
    rintro ⟨-, id, text, rfl⟩
    cases hchunk
  have htexts : chunkTexts (h ++ [a]) = chunkTexts h := by
    rw [chunkTexts_snoc, hchunk, Option.toList_none, List.append_nil]
  refine ⟨?_, ?_, ?_, ?_, ?_, ?_⟩
  · intro hm
    obtain ⟨h1, h2⟩ := hinv.silent (hmeta ▸ hm)
    exact ⟨hattempts h1, hevents.trans h2⟩
  · rw [hmem, hmeta, htexts, hevents]
    exact hinv.before
  · rw [hmem, hmeta, htexts, hevents, hlate]
    exact hinv.after
  · intro hb
    rw [hmem]
    exact hinv.done_no (hbefore hb)
  · intro ha
    rw [hmem]
    exact hinv.done_yes (hafter ha)
  · rw [hmeta, htexts]
    exact hinv.no_chunks

theorem EventInv.chunk {id : ℕ} {text : String} {t u : StreamAttempt} (hinv : EventInv h s)
    (ht : s.attempts[id]? = some t) :
    EventInv (h ++ [.chunk id text])
      { s with attempts := s.attempts.set id u, events := s.events ++ [.delta text] } := by
  have hmeta : s.metaEmitted = true := by
    cases hm : s.metaEmitted with
    | true => rfl
    | false =>
      rw [(hinv.silent hm).1] at ht
      cases ht
  have hmem : StreamMissAction.emitDone ∈ h ++ [.chunk id text] ↔ StreamMissAction.emitDone ∈ h := by simp
  have htexts : chunkTexts (h ++ [.chunk id text]) = chunkTexts h ++ [text] := by
    rw [chunkTexts_snoc]
    rfl
  refine ⟨?_, ?_, ?_, ?_, ?_, ?_⟩
  · intro hm
    exact absurd (hmeta.symm.trans hm) (by simp)
  · rw [hmem, htexts]
    intro hno _
    obtain ⟨m, hm⟩ := hinv.before hno hmeta
    exact ⟨m, by simp [hm]⟩
  · rw [hmem, htexts]
    intro hyes
    obtain ⟨-, m, ds, d, late, hevents, hds, -⟩ := hinv.after hyes
    refine ⟨hmeta, m, ds, d, late ++ [text], by simp [hevents], by simp [hds], ?_⟩
    -- After the done event this is one more late chunk.
    have hlate : LateChunk (h ++ [.chunk id text]) := lateChunk_snoc.mpr (.inr ⟨hyes, id, text, rfl⟩)
    simp [hlate]
  · intro hb
    rw [hmem]
    exact hinv.done_no hb
  · intro ha
    rw [hmem]
    exact hinv.done_yes ha
  · intro hm
    exact absurd (hmeta.symm.trans hm) (by simp)

theorem EventInv.emitDone {leg : Leg} {id : ℕ} {f : StreamFinal} {d : SseDone} (hinv : EventInv h s)
    (hatt : AttemptInv h s) (hc : s.control = .succeeded leg id f) :
    EventInv (h ++ [.emitDone])
      { s with control := .doneEmitted leg id f, events := s.events ++ [.done d] } := by
  have hno : StreamMissAction.emitDone ∉ h := hinv.done_no (by rw [hc]; rfl)
  have hmeta : s.metaEmitted = true := by
    cases hm : s.metaEmitted with
    | true => rfl
    | false =>
      obtain ⟨t, ht, -⟩ := hatt.winner id (by rw [hc]; rfl)
      rw [(hinv.silent hm).1] at ht
      cases ht
  -- Chunks that are late come after this event, of which there was none.
  have hlate : ¬ LateChunk (h ++ [.emitDone]) := by
    rw [lateChunk_snoc]
    rintro (⟨pre, post, j, text, rfl, -⟩ | ⟨-, j, text, heq⟩)
    · exact hno (by simp)
    · cases heq
  refine ⟨?_, ?_, ?_, ?_, ?_, ?_⟩
  · intro hm
    exact absurd (hmeta.symm.trans hm) (by simp)
  · intro h'
    exact absurd (by simp) h'
  · intro _
    obtain ⟨m, hm⟩ := hinv.before hno hmeta
    refine ⟨hmeta, m, chunkTexts h, d, [], by simp [hm], ?_, by simp [hlate]⟩
    rw [chunkTexts_snoc]
    rfl
  · intro hb
    cases hb
  · intro _
    simp
  · intro hm
    exact absurd (hmeta.symm.trans hm) (by simp)

theorem EventInv.launch {b : AttemptNo} (hinv : EventInv h s) (hc : s.control = .launching b) :
    EventInv (h ++ [.launch])
      { s with
        control := .waiting b s.attempts.length
        attempts := s.attempts ++ [⟨b.leg, "", .running⟩]
        metaEmitted := true
        events := s.emitMeta i b.leg } := by
  have hno : StreamMissAction.emitDone ∉ h := hinv.done_no (by rw [hc]; rfl)
  have hmem : StreamMissAction.emitDone ∉ h ++ [.launch] := by simp [hno]
  have htexts : chunkTexts (h ++ [.launch]) = chunkTexts h := by
    rw [chunkTexts_snoc]
    simp [StreamMissAction.chunkText?]
  refine ⟨by simp, ?_, ?_, fun _ => hmem, ?_, by simp⟩
  · intro _ _
    rw [htexts]
    cases hm : s.metaEmitted with
    | true =>
      obtain ⟨m, hev⟩ := hinv.before hno hm
      exact ⟨m, by simp [StreamRun.emitMeta, hm, hev]⟩
    | false =>
      exact ⟨i.metaData b.leg, by
        simp [StreamRun.emitMeta, hm, (hinv.silent hm).2, hinv.no_chunks hm]⟩
  · intro hyes
    exact absurd hyes hmem
  · intro ha
    cases ha

theorem afterError_phase (o : ExecutionOptions) (a : AttemptNo) (e : ThrownError) :
    ((afterError o a e).control a).afterDone = false := by
  cases afterError o a e <;> rfl

theorem streamMissStep_eventInv {a : StreamMissAction} (hinv : EventInv h s) (hatt : AttemptInv h s)
    (hstep : streamMissStep i s a = some s') : EventInv (h ++ [a]) s' := by
  cases streamMissStep_move hstep with
  | launch b hc => exact hinv.launch hc
  | chunk id text t ht _ => exact hinv.chunk ht
  | emitDone leg id f hc => exact hinv.emitDone hatt hc
  -- The others tell the client nothing.
  | refuse e hc =>
    exact hinv.quiet rfl rfl id rfl (by simp) (by simp [hc, StreamControl.beforeDone])
      (by simp [StreamControl.afterDone])
  | begin hc =>
    exact hinv.quiet rfl rfl id rfl (by simp) (by simp [hc, StreamControl.beforeDone])
      (by simp [StreamControl.afterDone])
  | launchThrows b e hc =>
    exact hinv.quiet rfl rfl id rfl (by simp) (by simp [hc, StreamControl.beforeDone])
      (by simp [afterError_phase])
  | failUnheard id e t ht hst =>
    exact hinv.quiet rfl rfl (by simp [StreamRun.setStatus]) rfl (by simp) (fun hb => hb) (fun hb => hb)
  | fail id e t b w ht hst hc =>
    exact hinv.quiet rfl rfl (by simp [StreamRun.setStatus]) rfl (by simp)
      (by simp [hc, StreamControl.beforeDone]) (by simp [afterError_phase])
  | finishUnheard id f t ht hst =>
    exact hinv.quiet rfl rfl (by simp [StreamRun.setStatus]) rfl (by simp) (fun hb => hb) (fun hb => hb)
  | finish id f t b w ht hst hc =>
    exact hinv.quiet rfl rfl (by simp [StreamRun.setStatus]) rfl (by simp)
      (by simp [hc, StreamControl.beforeDone]) (by simp [StreamControl.afterDone])
  | timeout id b ms t hc ht =>
    exact hinv.quiet rfl rfl (by simp [StreamRun.setStatus]) rfl (by simp)
      (by simp [hc, StreamControl.beforeDone]) (by simp [afterError_phase])
  | wake b delayMs hc =>
    exact hinv.quiet rfl rfl id rfl (by simp) (by simp [hc, StreamControl.beforeDone])
      (by simp [StreamControl.afterDone])
  | skipStore error id f hc =>
    exact hinv.quiet rfl rfl (fun h => h) rfl (by simp) (by simp [StreamControl.beforeDone])
      (by simp [hc, StreamControl.afterDone])
  | store id f hc =>
    exact hinv.quiet rfl rfl (fun h => h) rfl (by simp) (by simp [StreamControl.beforeDone])
      (by simp [hc, StreamControl.afterDone])
  | storeFails e id f hc =>
    exact hinv.quiet rfl rfl (fun h => h) rfl (by simp) (by simp [StreamControl.beforeDone])
      (by simp [hc, StreamControl.afterDone])

/-! ## The cache write -/

/-- The leg of a result is the leg of its attempt, and a run that has returned from the
primary alias has handed the attempt's text to the cache write. -/
structure StoredInv (s : StreamRun) : Prop where
  waiting_leg : ∀ a id t, s.control = .waiting a id → s.attempts[id]? = some t → t.leg = a.leg
  result_leg : ∀ leg id f t, s.control = .succeeded leg id f ∨ s.control = .doneEmitted leg id f →
    s.attempts[id]? = some t → t.leg = leg
  stored : ∀ id t, s.control = .returned id → s.attempts[id]? = some t → t.leg = .primary →
    ∃ r, s.stored = some r ∧ r.text = t.assembledText

theorem storedInv_initial : StoredInv .initial := by
  refine ⟨?_, ?_, ?_⟩ <;> simp [StreamRun.initial]

/-- A step after which nothing is waited for and no result is there. -/
theorem StoredInv.of_control (hw : ∀ a id, s.control ≠ .waiting a id) (hwin : s.control.winner = none) :
    StoredInv s := by
  refine ⟨?_, ?_, ?_⟩
  · intro a id t hc
    exact absurd hc (hw a id)
  · intro leg id f t hc
    rcases hc with hc | hc <;> rw [hc] at hwin <;> cases hwin
  · intro id t hc
    rw [hc] at hwin
    cases hwin

theorem storedInv_afterError {o : ExecutionOptions} {a : AttemptNo} {e : ThrownError}
    (hc : s.control = (afterError o a e).control a) : StoredInv s := by
  obtain ⟨hw, hnw⟩ := afterError_winner o a e
  exact .of_control (by rw [hc]; exact hnw) (by rw [hc]; exact hw)

/-- A step that leaves the control alone and of every attempt the leg, and the text once it
has ended. -/
theorem StoredInv.frame (hinv : StoredInv s) (hatt : AttemptInv h s) (hcontrol : s'.control = s.control)
    (hstored : s'.stored = s.stored)
    (hattempts : ∀ (id : ℕ) (t' : StreamAttempt), s'.attempts[id]? = some t' →
      ∃ t : StreamAttempt, s.attempts[id]? = some t ∧ t.leg = t'.leg ∧
        (t.status = .ended → t.assembledText = t'.assembledText)) : StoredInv s' := by
  refine ⟨?_, ?_, ?_⟩
  · intro a id t' hc ht'
    obtain ⟨t, ht, hleg, -⟩ := hattempts id t' ht'
    rw [← hleg]
    exact hinv.waiting_leg a id t (hcontrol ▸ hc) ht
  · intro leg id f t' hc ht'
    obtain ⟨t, ht, hleg, -⟩ := hattempts id t' ht'
    rw [← hleg]
    exact hinv.result_leg leg id f t (by rw [← hcontrol]; exact hc) ht
  · intro id t' hc ht' hprimary
    obtain ⟨t, ht, hleg, htext⟩ := hattempts id t' ht'
    have hc' : s.control = .returned id := hcontrol ▸ hc
    obtain ⟨u, hu, hended, -⟩ := hatt.winner id (by rw [hc']; rfl)
    rw [ht] at hu
    cases hu
    obtain ⟨r, hr, hrt⟩ := hinv.stored id t hc' ht (hleg.trans hprimary)
    exact ⟨r, hstored.trans hr, hrt.trans (htext hended)⟩

theorem StoredInv.setStatus {id : ℕ} {t : StreamAttempt} {status : AttemptStatus} (hinv : StoredInv s)
    (hatt : AttemptInv h s) (ht : s.attempts[id]? = some t) : StoredInv (s.setStatus id t status) := by
  refine hinv.frame hatt ?_ ?_ ?_
  · rfl
  · rfl
  intro j u hu
  rcases Table.getElem?_set_cases hu with ⟨rfl, rfl⟩ | ⟨-, hu⟩
  · exact ⟨t, ht, rfl, fun _ => rfl⟩
  · exact ⟨u, hu, rfl, fun _ => rfl⟩

theorem streamMissStep_storedInv {a : StreamMissAction} (hinv : StoredInv s) (hatt : AttemptInv h s)
    (hstep : streamMissStep i s a = some s') : StoredInv s' := by
  cases streamMissStep_move hstep with
  | refuse e hc => exact .of_control (by simp) rfl
  | begin hc => exact .of_control (by simp) rfl
  | launchThrows b e hc => exact storedInv_afterError rfl
  | failUnheard id e t ht hst => exact hinv.setStatus hatt ht
  | fail id e t b w ht hst hc => exact storedInv_afterError rfl
  | finishUnheard id f t ht hst => exact hinv.setStatus hatt ht
  | timeout id b ms t hc ht => exact storedInv_afterError rfl
  | wake b delayMs hc => exact .of_control (by simp) rfl
  | storeFails e id f hc => exact .of_control (by simp) rfl
  | launch b hc =>
    refine ⟨?_, by simp, by simp⟩
    intro a id t hw ht
    cases hw
    rcases Table.getElem?_snoc_cases ht with ⟨-, rfl⟩ | ht
    · rfl
    · have := (List.getElem?_eq_some_iff.mp ht).1
      omega
  | chunk id text t ht hst =>
    refine hinv.frame hatt ?_ ?_ ?_
    · rfl
    · rfl
    intro j u hu
    rcases Table.getElem?_set_cases hu with ⟨rfl, rfl⟩ | ⟨-, hu⟩
    · exact ⟨t, ht, rfl, fun h => absurd h hst⟩
    · exact ⟨u, hu, rfl, fun _ => rfl⟩
  | finish id f t b w ht hst hc =>
    -- the attempt that runs is the one waited for
    obtain ⟨⟨c, hcw⟩, -⟩ := hatt.running id t ht hst
    rw [hc] at hcw
    cases hcw
    refine ⟨by simp, ?_, by simp⟩
    intro leg j g u hu hj
    rcases hu with hu | hu
    · cases hu
      rcases Table.getElem?_set_cases hj with ⟨-, rfl⟩ | ⟨hne, -⟩
      · exact hinv.waiting_leg b id t hc ht
      · exact absurd rfl hne
    · cases hu
  | emitDone leg id f hc =>
    refine ⟨by simp, ?_, by simp⟩
    intro leg' j g u hu hj
    rcases hu with hu | hu
    · cases hu
    · cases hu
      exact hinv.result_leg leg id f u (.inl hc) hj
  | skipStore error id f hc =>
    refine ⟨by simp, by simp, ?_⟩
    intro j u hj hu hprimary
    cases hj
    have hleg := hinv.result_leg .fallback id f u (.inr hc) hu
    rw [hprimary] at hleg
    cases hleg
  | store id f hc =>
    refine ⟨by simp, by simp, ?_⟩
    intro j u hj hu _
    cases hj
    exact ⟨_, rfl, by simp [storedResponse, buildChatResponse, StreamFinal.toProviderResponse, hu]⟩

/-- An attempt that has ended is left as it is. -/
theorem StreamMove.ended_kept {a : StreamMissAction} {id : ℕ} {t : StreamAttempt} (hmove : StreamMove i s a s')
    (ht : s.attempts[id]? = some t) (hended : t.status = .ended)
    (hwait : ∀ b w u, s.control = .waiting b w → s.attempts[w]? = some u → u.status ≠ .ended) :
    s'.attempts[id]? = some t := by
  -- overwriting another attempt does not touch it
  have hother : ∀ (j : ℕ) (u v : StreamAttempt), s.attempts[j]? = some u → u.status ≠ .ended →
      (s.attempts.set j v)[id]? = some t := by
    intro j u v hu hst
    have hne : j ≠ id := by
      intro heq
      subst heq
      rw [ht] at hu
      cases hu
      exact hst hended
    rw [List.getElem?_set_ne hne]
    exact ht
  cases hmove with
  | launch b hc =>
    show (s.attempts ++ [_])[id]? = some t
    rw [List.getElem?_append_left (List.getElem?_eq_some_iff.mp ht).1]
    exact ht
  | chunk j text u hu hst => exact hother j u _ hu hst
  | failUnheard j e u hu hst => exact hother j u _ hu (by rw [hst]; simp)
  | fail j e u b w hu hst hc => exact hother j u _ hu (by rw [hst]; simp)
  | finishUnheard j f u hu hst => exact hother j u _ hu (by rw [hst]; simp)
  | finish j f u b w hu hst hc => exact hother j u _ hu (by rw [hst]; simp)
  | timeout j b ms u hc hu => exact hother j u _ hu (hwait b j u hc hu)
  | _ => exact ht

/-- What is stored is the answer of one attempt on the primary alias. -/
structure ResultInv (i : StreamInput) (h : List StreamMissAction) (s : StreamRun) : Prop where
  result : ∀ leg id f, s.control = .succeeded leg id f ∨ s.control = .doneEmitted leg id f →
    StreamMissAction.finish id f ∈ h
  stored : ∀ r, s.stored = some r → ∃ id f t, StreamMissAction.finish id f ∈ h ∧
    s.attempts[id]? = some t ∧ t.status = .ended ∧ r = storedResponse i .primary t.assembledText f

theorem resultInv_initial : ResultInv i [] .initial := by
  refine ⟨?_, ?_⟩ <;> simp [StreamRun.initial]

theorem streamMissStep_resultInv {a : StreamMissAction} (hinv : ResultInv i h s) (hatt : AttemptInv h s)
    (hstep : streamMissStep i s a = some s') : ResultInv i (h ++ [a]) s' := by
  have hmove := streamMissStep_move hstep
  have hwait : ∀ b w u, s.control = .waiting b w → s.attempts[w]? = some u → u.status ≠ .ended := by
    intro b w u hc hu
    obtain ⟨v, hv, hrun⟩ := hatt.waiting b w hc
    rw [hu] at hv
    cases hv
    rw [hrun]
    simp
  -- what was stored before the step stays so
  have hold : ∀ r, s.stored = some r → ∃ id f t, StreamMissAction.finish id f ∈ h ++ [a] ∧
      s'.attempts[id]? = some t ∧ t.status = .ended ∧ r = storedResponse i .primary t.assembledText f := by
    intro r hr
    obtain ⟨id, f, t, hmem, ht, hended, hresponse⟩ := hinv.stored r hr
    exact ⟨id, f, t, List.mem_append_left _ hmem, hmove.ended_kept ht hended hwait, hended, hresponse⟩
  have hsame : s'.control = s.control → ∀ leg id f, s'.control = .succeeded leg id f ∨
      s'.control = .doneEmitted leg id f → StreamMissAction.finish id f ∈ h ++ [a] := by
    intro hc leg id f hres
    rw [hc] at hres
    exact List.mem_append_left _ (hinv.result leg id f hres)
  have hnone : s'.control.winner = none → ∀ leg id f, s'.control = .succeeded leg id f ∨
      s'.control = .doneEmitted leg id f → StreamMissAction.finish id f ∈ h ++ [a] := by
    intro hw leg id f hres
    rcases hres with hc | hc <;> rw [hc] at hw <;> cases hw
  -- the write takes the text of the attempt that has the result
  have hnew : ∀ (id : ℕ) (f : StreamFinal), s.control = .doneEmitted .primary id f →
      ∀ r, some (storedResponse i .primary ((s.attempts[id]?.map StreamAttempt.assembledText).getD "") f) = some r →
      ∃ id f t, StreamMissAction.finish id f ∈ h ++ [a] ∧ s.attempts[id]? = some t ∧ t.status = .ended ∧
        r = storedResponse i .primary t.assembledText f := by
    intro id f hc r hr
    obtain ⟨t, ht, hended, -⟩ := hatt.winner id (by rw [hc]; rfl)
    refine ⟨id, f, t, List.mem_append_left _ (hinv.result .primary id f (.inr hc)), ht, hended, ?_⟩
    rw [← Option.some.inj hr, ht]
    rfl
  cases hmove with
  | refuse e hc => exact ⟨hnone rfl, hold⟩
  | begin hc => exact ⟨hnone rfl, hold⟩
  | launch b hc => exact ⟨hnone rfl, hold⟩
  | launchThrows b e hc => exact ⟨hnone (afterError_winner i.options b e).1, hold⟩
  | chunk id text t ht hst => exact ⟨hsame rfl, hold⟩
  | failUnheard id e t ht hst => exact ⟨hsame rfl, hold⟩
  | fail id e t b w ht hst hc => exact ⟨hnone (afterError_winner i.options b e).1, hold⟩
  | finishUnheard id f t ht hst => exact ⟨hsame rfl, hold⟩
  | finish id f t b w ht hst hc =>
    refine ⟨?_, hold⟩
    intro leg j g hres
    rcases hres with hres | hres
    · cases hres
      simp
    · cases hres
  | timeout id b ms t hc ht => exact ⟨hnone (afterError_winner i.options b (timeoutError ms)).1, hold⟩
  | wake b delayMs hc => exact ⟨hnone rfl, hold⟩
  | emitDone leg id f hc =>
    refine ⟨?_, hold⟩
    intro leg' j g hres
    rcases hres with hres | hres
    · cases hres
    · cases hres
      exact List.mem_append_left _ (hinv.result leg id f (.inl hc))
  | skipStore error id f hc => exact ⟨by simp, hold⟩
  | store id f hc => exact ⟨by simp, hnew id f hc⟩
  | storeFails e id f hc => exact ⟨hnone rfl, hnew id f hc⟩

/-- What `executeStreamMiss` hands to the cache write is made of the chunks and the end of one
attempt on the primary alias. -/
theorem stored_of_run {acts : List StreamMissAction} (hrun : Runs.run (streamMissStep i) .initial acts = some s)
    {r : ChatResponseData} (hr : s.stored = some r) :
    ∃ id f, StreamMissAction.finish id f ∈ acts ∧
      r = storedResponse i .primary (joinText (chunkTextsOf id acts)) f := by
  have hinv : AttemptInv acts s ∧ ResultInv i acts s := by
    refine Runs.run_history (I := fun h s => AttemptInv h s ∧ ResultInv i h s) ?_
      ⟨attemptInv_initial, resultInv_initial⟩ hrun
    intro h s a s' hinv hstep
    exact ⟨streamMissStep_attemptInv hinv.1 hstep, streamMissStep_resultInv hinv.2 hinv.1 hstep⟩
  obtain ⟨id, f, t, hmem, ht, -, hresponse⟩ := hinv.2.stored r hr
  refine ⟨id, f, hmem, ?_⟩
  rw [← hinv.1.texts id t ht]
  exact hresponse

/-! ## A fallback stores nothing -/

/-- `executeStreamMiss` is over. -/
def StreamControl.settled : StreamControl → Bool
  | .returned _ | .failed _ => true
  | _ => false

/-- On the way out with the result of the fallback alias, or out. -/
def StreamControl.leaving : StreamControl → Bool
  | .succeeded .fallback _ _ | .doneEmitted .fallback _ _ | .returned _ => true
  | _ => false

/-- A step stores nothing, or it is the last turn after a result of the primary alias. -/
theorem streamMissStep_stored {a : StreamMissAction} (hstep : streamMissStep i s a = some s') :
    (s'.stored = s.stored ∧ (s'.control = s.control ∨ s.control.settled = false)) ∨
      (s'.control.settled = true ∧ ∃ id f, s.control = .doneEmitted .primary id f) := by
  cases streamMissStep_move hstep with
  | refuse e hc => exact .inl ⟨rfl, .inr (by rw [hc]; rfl)⟩
  | begin hc => exact .inl ⟨rfl, .inr (by rw [hc]; rfl)⟩
  | launch b hc => exact .inl ⟨rfl, .inr (by rw [hc]; rfl)⟩
  | launchThrows b e hc => exact .inl ⟨rfl, .inr (by rw [hc]; rfl)⟩
  | chunk id text t ht hst => exact .inl ⟨rfl, .inl rfl⟩
  | failUnheard id e t ht hst => exact .inl ⟨rfl, .inl rfl⟩
  | fail id e t b w ht hst hc => exact .inl ⟨rfl, .inr (by rw [hc]; rfl)⟩
  | finishUnheard id f t ht hst => exact .inl ⟨rfl, .inl rfl⟩
  | finish id f t b w ht hst hc => exact .inl ⟨rfl, .inr (by rw [hc]; rfl)⟩
  | timeout id b ms t hc ht => exact .inl ⟨rfl, .inr (by rw [hc]; rfl)⟩
  | wake b delayMs hc => exact .inl ⟨rfl, .inr (by rw [hc]; rfl)⟩
  | emitDone leg id f hc => exact .inl ⟨rfl, .inr (by rw [hc]; rfl)⟩
  | skipStore error id f hc => exact .inl ⟨rfl, .inr (by rw [hc]; rfl)⟩
  | store id f hc => exact .inr ⟨rfl, id, f, hc⟩
  | storeFails e id f hc => exact .inr ⟨rfl, id, f, hc⟩

theorem stored_settled {acts : List StreamMissAction} (hrun : Runs.run (streamMissStep i) .initial acts = some s)
    (hopen : s.control.settled = false) : s.stored = none := by
  have hinv : s.stored = none ∨ s.control.settled = true := by
    refine @Runs.run_invariant _ _ _ _ _ (fun s => s.stored = none ∨ s.control.settled = true) ?_ acts (.inl rfl) hrun
    intro s a s' hinv hstep
    rcases streamMissStep_stored hstep with ⟨hsame, hmove⟩ | ⟨hsettled, -⟩
    · rw [hsame]
      rcases hinv with hnone | hsettled
      · exact .inl hnone
      · rcases hmove with hcontrol | hopen
        · exact .inr (hcontrol ▸ hsettled)
        · rw [hsettled] at hopen
          cases hopen
    · exact .inr hsettled
  rcases hinv with hnone | hsettled
  · exact hnone
  · rw [hopen] at hsettled
    cases hsettled

theorem streamMissStep_leaving {a : StreamMissAction} (hleaving : s.control.leaving = true)
    (hstep : streamMissStep i s a = some s') : s'.control.leaving = true ∧ s'.stored = s.stored := by
  cases streamMissStep_move hstep with
  | chunk id text t ht hst => exact ⟨hleaving, rfl⟩
  | failUnheard id e t ht hst => exact ⟨hleaving, rfl⟩
  | finishUnheard id f t ht hst => exact ⟨hleaving, rfl⟩
  | emitDone leg id f hc =>
    rw [hc] at hleaving
    cases leg with
    | primary => cases hleaving
    | fallback => exact ⟨rfl, rfl⟩
  | skipStore error id f hc => exact ⟨rfl, rfl⟩
  | refuse e hc => rw [hc] at hleaving; cases hleaving
  | begin hc => rw [hc] at hleaving; cases hleaving
  | launch b hc => rw [hc] at hleaving; cases hleaving
  | launchThrows b e hc => rw [hc] at hleaving; cases hleaving
  | fail id e t b w ht hst hc => rw [hc] at hleaving; cases hleaving
  | finish id f t b w ht hst hc => rw [hc] at hleaving; cases hleaving
  | timeout id b ms t hc ht => rw [hc] at hleaving; cases hleaving
  | wake b delayMs hc => rw [hc] at hleaving; cases hleaving
  | store id f hc => rw [hc] at hleaving; cases hleaving
  | storeFails e id f hc => rw [hc] at hleaving; cases hleaving

/-- Once the fallback alias has succeeded, nothing is handed to the cache write. -/
theorem stored_none_of_fallback {acts rest : List StreamMissAction} {id : ℕ} {f : StreamFinal}
    (hrun : Runs.run (streamMissStep i) .initial acts = some s) (hc : s.control = .succeeded .fallback id f)
    (hrest : Runs.run (streamMissStep i) s rest = some s') : s'.stored = none := by
  have hnone : s.stored = none := stored_settled hrun (by rw [hc]; rfl)
  have hinv : s'.control.leaving = true ∧ s'.stored = none := by
    refine @Runs.run_invariant _ _ _ _ _ (fun s => s.control.leaving = true ∧ s.stored = none) ?_ rest
      ⟨by rw [hc]; rfl, hnone⟩ hrest
    intro s a s' hinv hstep
    obtain ⟨hleaving, hstored⟩ := streamMissStep_leaving hinv.1 hstep
    exact ⟨hleaving, hstored.trans hinv.2⟩
  exact hinv.2

/-! ## When the stream is exact -/

/-- The text of the chunks that are not of the attempt, by its length. -/
def foreignLength (id : ℕ) : List StreamMissAction → ℕ
  | [] => 0
  | .chunk j text :: h => (if j = id then 0 else text.length) + foreignLength id h
  | _ :: h => foreignLength id h

theorem length_joinText_chunks (id : ℕ) (h : List StreamMissAction) :
    (joinText (chunkTexts h)).length = (joinText (chunkTextsOf id h)).length + foreignLength id h := by
  induction h with
  | nil => rfl
  | cons a h ih =>
    cases a with
    | chunk j text =>
      by_cases hj : j = id
      · simp [chunkTexts, chunkTextsOf, StreamMissAction.chunkText?, StreamMissAction.chunkTextOf?, hj, joinText,
          foreignLength]
        simp only [chunkTexts, chunkTextsOf] at ih
        omega
      · simp [chunkTexts, chunkTextsOf, StreamMissAction.chunkText?, StreamMissAction.chunkTextOf?, hj, joinText,
          foreignLength]
        simp only [chunkTexts, chunkTextsOf] at ih
        omega
    | _ => exact ih

theorem foreignLength_eq_zero {id : ℕ} {h : List StreamMissAction} :
    foreignLength id h = 0 ↔ ∀ j text, StreamMissAction.chunk j text ∈ h → j ≠ id → text = "" := by
  induction h with
  | nil => simp [foreignLength]
  | cons a h ih =>
    cases a with
    | chunk j text =>
      simp only [foreignLength, Nat.add_eq_zero_iff, ih]
      constructor
      · rintro ⟨h1, h2⟩ k u hmem hk
        rcases List.mem_cons.mp hmem with heq | hmem
        · cases heq
          rw [if_neg hk] at h1
          exact String.length_eq_zero_iff.mp h1
        · exact h2 k u hmem hk
      · intro hall
        refine ⟨?_, fun k u hmem => hall k u (List.mem_cons_of_mem _ hmem)⟩
        split
        · rfl
        · next hj =>
          rw [hall j text List.mem_cons_self hj]
          rfl
    | _ => simpa [foreignLength] using ih

/-- Empty foreign chunks add nothing to the text. -/
theorem joinText_chunks_of_foreign {id : ℕ} {h : List StreamMissAction}
    (hall : ∀ j text, StreamMissAction.chunk j text ∈ h → j ≠ id → text = "") :
    joinText (chunkTexts h) = joinText (chunkTextsOf id h) := by
  induction h with
  | nil => rfl
  | cons a h ih =>
    have ih := ih fun j text hmem => hall j text (List.mem_cons_of_mem _ hmem)
    simp only [chunkTexts, chunkTextsOf] at ih
    cases a with
    | chunk j text =>
      by_cases hj : j = id
      · simp [chunkTexts, chunkTextsOf, StreamMissAction.chunkText?, StreamMissAction.chunkTextOf?, hj, joinText, ih]
      · have hempty := hall j text List.mem_cons_self hj
        simp [chunkTexts, chunkTextsOf, StreamMissAction.chunkText?, StreamMissAction.chunkTextOf?, hj, joinText, ih,
          hempty]
    | _ => exact ih

/-- In a run that has returned, the lost attempts are all but the successful one. -/
theorem AttemptInv.lost_iff {id : ℕ} (hinv : AttemptInv h s) (hc : s.control = .returned id) {j : ℕ}
    (hj : j < s.attempts.length) : Lost h j ↔ j ≠ id := by
  obtain ⟨t, ht, -, hnl⟩ := hinv.winner id (by rw [hc]; rfl)
  constructor
  · rintro hl rfl
    exact hnl hl
  · intro hne
    have hu := List.getElem?_eq_getElem hj
    have hrun : (s.attempts[j]).status ≠ .running := by
      intro hr
      obtain ⟨⟨a, ha⟩, -⟩ := hinv.running j _ hu hr
      rw [hc] at ha
      cases ha
    rcases hinv.others j _ hu hrun (by rw [hc]; simp) with hl | hw
    · exact hl
    · rw [hc] at hw
      exact absurd (Option.some.inj hw).symm hne

/-- `ds` and `late` are determined by the events around the one `done`. -/
theorem events_split {m m' : SseMeta} {ds ds' late : List String} {d d' : SseDone}
    (heq : SseEvent.metaEvent m :: (ds.map .delta ++ .done d :: late.map .delta) =
      .metaEvent m' :: (ds'.map .delta ++ [.done d'])) : ds = ds' ∧ late = [] := by
  have htail := (List.cons.inj heq).2
  clear heq
  induction ds generalizing ds' with
  | nil =>
    cases ds' with
    | nil =>
      simp only [List.map_nil, List.nil_append, List.cons.injEq, List.map_eq_nil_iff] at htail
      exact ⟨rfl, htail.2⟩
    | cons x xs => simp at htail
  | cons x xs ih =>
    cases ds' with
    | nil => simp at htail
    | cons y ys =>
      simp only [List.map_cons, List.cons_append, List.cons.injEq, SseEvent.delta.injEq] at htail
      obtain ⟨h1, h2⟩ := ih htail.2
      exact ⟨by rw [htail.1, h1], h2⟩

theorem stream_exact_iff (i : StreamInput) (acts : List StreamMissAction) (s : StreamRun) (id : ℕ)
    (hrun : Runs.run (streamMissStep i) .initial acts = some s) (hreturned : s.control = .returned id) :
    ExactStream s id ↔ CleanSchedule acts := by
  have hinv : AttemptInv acts s ∧ EventInv acts s ∧ StoredInv s := by
    refine Runs.run_history (I := fun h s => AttemptInv h s ∧ EventInv h s ∧ StoredInv s) ?_
      ⟨attemptInv_initial, eventInv_initial, storedInv_initial⟩ hrun
    rintro h s a s' ⟨h1, h2, h3⟩ hstep
    exact ⟨streamMissStep_attemptInv h1 hstep, streamMissStep_eventInv h2 h1 hstep,
      streamMissStep_storedInv h3 h1 hstep⟩
  obtain ⟨hatt, hev, hst⟩ := hinv
  obtain ⟨-, m, ds, d, late, hevents, htexts, hlate⟩ := hev.after (hev.done_yes (by rw [hreturned]; rfl))
  obtain ⟨t, ht, -, -⟩ := hatt.winner id (by rw [hreturned]; rfl)
  have htext := hatt.texts id t ht
  -- the chunks of lost attempts are the chunks of the other attempts
  have hforeign : (∀ j text, StreamMissAction.chunk j text ∈ acts → Lost acts j → text = "") ↔
      ∀ j text, StreamMissAction.chunk j text ∈ acts → j ≠ id → text = "" := by
    constructor
    · intro hall j text hmem hne
      exact hall j text hmem ((hatt.lost_iff hreturned (hatt.known j (.inl ⟨text, hmem⟩))).mpr hne)
    · intro hall j text hmem hl
      exact hall j text hmem ((hatt.lost_iff hreturned (hatt.known j (.inr hl))).mp hl)
  constructor
  · rintro ⟨m', ds', d', t', hevents', ht', hjoin, -⟩
    rw [hevents] at hevents'
    obtain ⟨rfl, hnil⟩ := events_split hevents'
    refine ⟨?_, hlate.mp hnil⟩
    rw [hforeign, ← foreignLength_eq_zero]
    rw [ht] at ht'
    cases ht'
    rw [hnil, List.append_nil] at htexts
    have hlen := length_joinText_chunks id acts
    rw [htexts, hjoin, htext] at hlen
    omega
  · rintro ⟨hclean, hnolate⟩
    have hnil := hlate.mpr hnolate
    rw [hnil, List.append_nil] at htexts
    refine ⟨m, ds, d, t, by rw [hevents, hnil]; rfl, ht, ?_, ?_⟩
    · rw [← htexts, joinText_chunks_of_foreign (hforeign.mp hclean), htext]
    · exact hst.stored id t hreturned ht

/-- A request without fallback under the default policy, for the runs below. -/
def plainStream : StreamInput where
  options := ⟨"chat-default", none, defaultRetryPolicy⟩
  requestId := "req_1"
  conversationId := "conv_1"
  responseId := "gw_1"
  providerName := fun _ => "openai-main"
  warnings := fun _ => []

def emptyFinal : StreamFinal := ⟨none, [], none, none, none, none⟩

def unavailable : ThrownError := .http 503 (some "PROVIDER_UNAVAILABLE") "Service Unavailable" none

/-- The first attempt fails before its first chunk; the stream is that of the second. -/
theorem stream_exact_after_early_failure :
    ∃ s, Runs.run (streamMissStep plainStream) .initial
        [.begin, .launch, .fail 0 unavailable, .wake, .launch, .chunk 1 "he", .chunk 1 "llo",
          .finish 1 emptyFinal, .emitDone, .store none] = some s ∧ ExactStream s 1 := by
  obtain ⟨s, hs⟩ : ∃ s, Runs.run (streamMissStep plainStream) .initial
      [.begin, .launch, .fail 0 unavailable, .wake, .launch, .chunk 1 "he", .chunk 1 "llo",
        .finish 1 emptyFinal, .emitDone, .store none] = some s := ⟨_, rfl⟩
  have hreturned : s.control = .returned 1 := by
    cases hs
    rfl
  refine ⟨s, hs, (stream_exact_iff plainStream _ s 1 hs hreturned).mpr ⟨?_, ?_⟩⟩
  · intro id text hmem hl
    simp [Lost] at hmem hl
    omega
  · rintro ⟨pre, post, id, text, heq, hmem⟩
    -- nothing but the store comes after `done`
    have hpost : post = [.store none] := by
      have hsplit : [StreamMissAction.begin, .launch, .fail 0 unavailable, .wake, .launch, .chunk 1 "he",
          .chunk 1 "llo", .finish 1 emptyFinal] ++ .emitDone :: [.store none] = pre ++ .emitDone :: post := heq
      rcases List.append_eq_append_iff.mp hsplit with ⟨c, hc1, hc2⟩ | ⟨c, hc1, hc2⟩
      · cases c with
        | nil => simpa using (List.cons.inj hc2).2.symm
        | cons x xs =>
          have := congrArg List.length hc2
          simp at hc2
          obtain ⟨-, hrest⟩ := hc2
          cases xs with
          | nil => simp at hrest
          | cons y ys => simp at hrest
      · have hno : StreamMissAction.emitDone ∉ c := by
          intro hmem
          have : StreamMissAction.emitDone ∈ pre ++ c := List.mem_append_right _ hmem
          rw [← hc1] at this
          simp at this
        cases c with
        | nil => simpa using (List.cons.inj hc2).2
        | cons x xs =>
          simp only [List.cons_append, List.cons.injEq] at hc2
          exact absurd (hc2.1 ▸ List.mem_cons_self) hno
    rw [hpost] at hmem
    simp at hmem

/-- The first attempt yields `a` and then fails: its delta stays in the stream. -/
theorem failed_attempt_leaves_text :
    ¬ ∀ (i : StreamInput) (acts : List StreamMissAction) (s : StreamRun) (id : ℕ),
      Runs.run (streamMissStep i) .initial acts = some s → s.control = .returned id → ExactStream s id := by
  intro hall
  obtain ⟨m, ds, d, t, hevents, ht, hjoin, -⟩ := hall plainStream
    [.begin, .launch, .chunk 0 "a", .fail 0 unavailable, .wake, .launch, .chunk 1 "b",
      .finish 1 emptyFinal, .emitDone, .store none] _ 1 rfl rfl
  have hsplit : SseEvent.metaEvent (plainStream.metaData .primary) ::
      (["a", "b"].map .delta ++ .done (buildStreamDoneEvent emptyFinal [] none) :: ([] : List String).map .delta) =
      .metaEvent m :: (ds.map .delta ++ [.done d]) := hevents
  have hds : ds = ["a", "b"] := (events_split hsplit).1.symm
  rw [hds] at hjoin
  cases ht
  exact absurd hjoin (by decide)

end AiGateway
