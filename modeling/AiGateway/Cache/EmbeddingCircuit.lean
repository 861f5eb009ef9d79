import AiGateway.Cache.SemanticCache
import AiGateway.Lib.Run
import AiGateway.Lib.Table

/- `EmbeddingCircuitBreaker` under any number of concurrent lookups and stores. What a request
   does to the breaker is read off the calls of `SemanticCache.lookup` and `storeReply`: it asks
   `shouldSkipEmbed`, and once it is admitted it records how its embedding ended
   (`circuitCalls_shape`). A step of the system is the question of a request, the record of an
   embedding, or the passing of time.

   * `circuit_never_wedges`: the flag of the trial stands only while an embedding is in flight,
     and the breaker skips exactly when it is open and cooling down or on trial.
   * `single_trial`: while the circuit stays open, at most one embedding admitted since is in
     flight, as long as no embedding from before fails next to it. `two_trials` is a run in
     which one does: any failure clears the flag, also one that is not the trial's. -/
namespace AiGateway

/-! ## The breaker -/

structure CircuitConfig where
  openAfter : ℕ
  cooldownMs : ℕ
  openAfter_pos : 1 ≤ openAfter

theorem defaultOpenAfter_pos : 1 ≤ 3 := by decide

/-- `EMBEDDING_CIRCUIT_OPEN_AFTER` and `EMBEDDING_CIRCUIT_COOLDOWN_MS`. -/
def defaultCircuit : CircuitConfig := ⟨3, 30000, defaultOpenAfter_pos⟩

structure EmbeddingCircuit where
  failures : ℕ
  openedAtMs : ℕ
  trialInFlight : Bool
  deriving DecidableEq, Repr

namespace EmbeddingCircuit

def initial : EmbeddingCircuit := ⟨0, 0, false⟩

/-- The answer at the time `nowMs`, and the breaker after it. -/
def shouldSkipEmbed (cfg : CircuitConfig) (nowMs : ℕ) (c : EmbeddingCircuit) : Bool × EmbeddingCircuit :=
  if c.failures < cfg.openAfter then (false, c)
  -- `Date.now() - openedAtMs >= cooldownMs`
  else if ¬ c.openedAtMs + cfg.cooldownMs ≤ nowMs then (true, c)
  else if c.trialInFlight then (true, c)
  else (false, { c with trialInFlight := true })

def recordEmbedFailure (cfg : CircuitConfig) (nowMs : ℕ) (c : EmbeddingCircuit) : EmbeddingCircuit where
  failures := c.failures + 1
  openedAtMs := if cfg.openAfter ≤ c.failures + 1 then nowMs else c.openedAtMs
  trialInFlight := false

def recordEmbedSuccess : EmbeddingCircuit := ⟨0, 0, false⟩

end EmbeddingCircuit

/-! ## What a request does to it -/

inductive CircuitCall where
  | shouldSkipEmbed (skip : Bool)
  | recordEmbedSuccess
  | recordEmbedFailure
  deriving DecidableEq, Repr

def BackendCall.circuit : BackendCall → Option CircuitCall
  | .shouldSkipEmbed skip => some (.shouldSkipEmbed skip)
  | .recordEmbedSuccess => some .recordEmbedSuccess
  | .recordEmbedFailure => some .recordEmbedFailure
  | _ => none

/-- A lookup or a store, with what it will be told by everything but the breaker. -/
inductive SemanticRequest (ε : Type) where
  | lookup (cfg : SemanticCache.Config) (identity : ChatCacheIdentity) (w : SemanticCache.LookupWorld ε)
  | store (cfg : SemanticCache.Config) (identity : ChatCacheIdentity) (reply : CachedChatResponse)
      (embedState : SemanticCache.EmbedState) (w : SemanticCache.StoreWorld ε)

/-- The calls of the request on the breaker when it answers `skip`. -/
def SemanticRequest.circuitCalls {ε : Type} (skip : Bool) : SemanticRequest ε → List CircuitCall
  | .lookup cfg identity w =>
    (SemanticCache.lookup cfg identity { w with skipEmbed := skip }).calls.filterMap BackendCall.circuit
  | .store cfg identity reply embedState w =>
    (SemanticCache.storeReply cfg identity reply embedState { w with skipEmbed := skip }).calls.filterMap
      BackendCall.circuit

/-- No call at all, a question that is answered with skip, or an admission and one record. -/
inductive CircuitShape (skip : Bool) : List CircuitCall → Prop where
  | none : CircuitShape skip []
  | skipped (hskip : skip = true) : CircuitShape skip [.shouldSkipEmbed true]
  | succeeded (hskip : skip = false) : CircuitShape skip [.shouldSkipEmbed false, .recordEmbedSuccess]
  | failed (hskip : skip = false) : CircuitShape skip [.shouldSkipEmbed false, .recordEmbedFailure]

section Shape
variable {ε : Type} {cfg : SemanticCache.Config} {identity : ChatCacheIdentity}

theorem SemanticCache.LookupPath.shape {w : LookupWorld ε} {m : Logged BackendCall ε LookupResult}
    (h : LookupPath cfg identity w m) : CircuitShape w.skipEmbed (m.calls.filterMap BackendCall.circuit) := by
  cases h with
  | gated hentry => exact .none
  | rejected i e hentry htext => exact .none
  | hashHit i reply hentry htext => exact .none
  | skipped i hentry htext hskip => exact .skipped hskip
  | embedFailed i e hentry htext hskip hembed => exact .failed hskip
  | searched i vector reply hentry htext hskip hembed => exact .succeeded hskip

theorem SemanticCache.StorePath.shape {reply : CachedChatResponse} {embedState : EmbedState} {w : StoreWorld ε}
    {calls : List BackendCall} (h : StorePath cfg identity reply embedState w calls) :
    CircuitShape w.skipEmbed (calls.filterMap BackendCall.circuit) := by
  cases h with
  | gated hentry => exact .none
  | reused i vector hentry hstate => exact .none
  | tried i hentry hstate htried => exact .none
  | skipped i hentry hstate hfresh hskip => exact .skipped hskip
  | embedFailed i e hentry hstate hfresh hskip hembed => exact .failed hskip
  | embedded i vector hentry hstate hfresh hskip hembed => exact .succeeded hskip

end Shape

theorem circuitCalls_shape {ε : Type} (skip : Bool) (r : SemanticRequest ε) :
    CircuitShape skip (r.circuitCalls skip) := by
  cases r with
  | lookup cfg identity w => exact (SemanticCache.lookup_spec { w with skipEmbed := skip }).shape
  | store cfg identity reply embedState w =>
    exact (SemanticCache.storeReply_spec reply embedState { w with skipEmbed := skip }).1.shape

/-! ## The system -/

/-- `pending` has, for each request that has asked, what it has still to record. -/
structure CircuitSystem where
  circuit : EmbeddingCircuit
  nowMs : ℕ
  pending : List (List CircuitCall)

def CircuitSystem.initial (nowMs : ℕ) : CircuitSystem := ⟨.initial, nowMs, []⟩

inductive CircuitAction (ε : Type) where
  | request (r : SemanticRequest ε)   -- up to its question, or past it
  | succeed (i : ℕ)                   -- the embedding of request `i` resolves
  | fail (i : ℕ)
  | tick (ms : ℕ)

namespace CircuitSystem

/-- The answer that a request would get now. -/
def skips (cfg : CircuitConfig) (s : CircuitSystem) : Bool := (s.circuit.shouldSkipEmbed cfg s.nowMs).1

/-- Request `i` was admitted and has not recorded how its embedding ended. -/
def inFlight (s : CircuitSystem) (i : ℕ) : Bool := s.pending[i]?.any fun calls => !calls.isEmpty

end CircuitSystem

def circuitStep {ε : Type} (cfg : CircuitConfig) (s : CircuitSystem) : CircuitAction ε → Option CircuitSystem
  | .request r =>
    match r.circuitCalls (s.skips cfg) with
    | .shouldSkipEmbed _ :: rest =>
      some { s with
        circuit := (s.circuit.shouldSkipEmbed cfg s.nowMs).2
        pending := s.pending ++ [rest] }
    | _ => some s
  | .succeed i =>
    match s.pending[i]? with
    | some (.recordEmbedSuccess :: rest) =>
      some { s with circuit := EmbeddingCircuit.recordEmbedSuccess, pending := s.pending.set i rest }
    | _ => none
  | .fail i =>
    match s.pending[i]? with
    | some (.recordEmbedFailure :: rest) =>
      some { s with circuit := s.circuit.recordEmbedFailure cfg s.nowMs, pending := s.pending.set i rest }
    | _ => none
  | .tick ms => some { s with nowMs := s.nowMs + ms }

/-! ## One step -/

section Step
variable {ε : Type} {cfg : CircuitConfig} {s s' : CircuitSystem}

theorem skips_eq_false_iff : s.skips cfg = false ↔
    s.circuit.failures < cfg.openAfter ∨
      s.circuit.openedAtMs + cfg.cooldownMs ≤ s.nowMs ∧ s.circuit.trialInFlight = false := by
  unfold CircuitSystem.skips EmbeddingCircuit.shouldSkipEmbed
  by_cases hopen : s.circuit.failures < cfg.openAfter
  · simp [hopen]
  · by_cases hcool : s.circuit.openedAtMs + cfg.cooldownMs ≤ s.nowMs
    · cases htrial : s.circuit.trialInFlight <;> simp [hopen, hcool]
    · simp [hopen, hcool]

/-- A closed breaker is left alone by the question, and so is one that skips. -/
theorem shouldSkipEmbed_snd : (s.circuit.shouldSkipEmbed cfg s.nowMs).2 =
    if s.skips cfg = false ∧ cfg.openAfter ≤ s.circuit.failures then { s.circuit with trialInFlight := true }
    else s.circuit := by
  unfold CircuitSystem.skips EmbeddingCircuit.shouldSkipEmbed
  by_cases hopen : s.circuit.failures < cfg.openAfter
  · have hnot : ¬ cfg.openAfter ≤ s.circuit.failures := by omega
    simp [hopen, hnot]
  · have hle : cfg.openAfter ≤ s.circuit.failures := by omega
    by_cases hcool : s.circuit.openedAtMs + cfg.cooldownMs ≤ s.nowMs
    · cases htrial : s.circuit.trialInFlight <;> simp [hopen, hcool, hle]
    · simp [hopen, hcool]

/-- One step by what it does. -/
inductive CircuitMove (cfg : CircuitConfig) (s : CircuitSystem) : CircuitAction ε → CircuitSystem → Prop where
  | quiet (r : SemanticRequest ε) : CircuitMove cfg s (.request r) s
  | skip (r : SemanticRequest ε) (hskip : s.skips cfg = true) :
      CircuitMove cfg s (.request r) { s with pending := s.pending ++ [[]] }
  | admitted (r : SemanticRequest ε) (record : CircuitCall) (hskip : s.skips cfg = false) :
      CircuitMove cfg s (.request r) { s with
        circuit := (s.circuit.shouldSkipEmbed cfg s.nowMs).2
        pending := s.pending ++ [[record]] }
  | succeed (i : ℕ) (rest : List CircuitCall) (hi : s.pending[i]? = some (.recordEmbedSuccess :: rest)) :
      CircuitMove cfg s (.succeed i)
        { s with circuit := EmbeddingCircuit.recordEmbedSuccess, pending := s.pending.set i rest }
  | fail (i : ℕ) (rest : List CircuitCall) (hi : s.pending[i]? = some (.recordEmbedFailure :: rest)) :
      CircuitMove cfg s (.fail i)
        { s with circuit := s.circuit.recordEmbedFailure cfg s.nowMs, pending := s.pending.set i rest }
  | tick (ms : ℕ) : CircuitMove cfg s (.tick ms) { s with nowMs := s.nowMs + ms }

theorem circuitStep_move {a : CircuitAction ε} (hstep : circuitStep cfg s a = some s') : CircuitMove cfg s a s' := by
  cases a with
  | request r =>
    have hshape := circuitCalls_shape (s.skips cfg) r
    simp only [circuitStep] at hstep
    generalize r.circuitCalls (s.skips cfg) = calls at hshape hstep
    cases hshape with
    | none => cases hstep; exact .quiet r
    -- A skip changes nothing: only the first call after the cool-down takes the trial.
    | skipped hskip =>
      have hsame : (s.circuit.shouldSkipEmbed cfg s.nowMs).2 = s.circuit := by
        rw [shouldSkipEmbed_snd, hskip]
        simp
      cases hstep
      rw [hsame]
      exact .skip r hskip
    | succeeded hskip => cases hstep; exact .admitted r _ hskip
    | failed hskip => cases hstep; exact .admitted r _ hskip
  | succeed i =>
    simp only [circuitStep] at hstep
    split at hstep
    · next rest hi => cases hstep; exact .succeed i rest hi
    · cases hstep
  | fail i =>
    simp only [circuitStep] at hstep
    split at hstep
    · next rest hi => cases hstep; exact .fail i rest hi
    · cases hstep
  | tick ms => cases hstep; exact .tick ms

theorem inFlight_iff {i : ℕ} : s.inFlight i = true ↔ ∃ call rest, s.pending[i]? = some (call :: rest) := by
  unfold CircuitSystem.inFlight
  cases s.pending[i]? with
  | none => simp
  | some calls =>
    cases calls with
    | nil => simp
    | cons call rest => simp

/-- The flights after a request has joined: those from before, and its own if it has one. -/
theorem inFlight_joined {circuit : EmbeddingCircuit} {nowMs : ℕ} {rest : List CircuitCall} {i : ℕ}
    (h : (⟨circuit, nowMs, s.pending ++ [rest]⟩ : CircuitSystem).inFlight i = true) :
    (i < s.pending.length ∧ s.inFlight i = true) ∨ (i = s.pending.length ∧ rest ≠ []) := by
  obtain ⟨call, more, hi⟩ := inFlight_iff.mp h
  rcases Table.getElem?_snoc_cases hi with ⟨hlen, hown⟩ | hi
  · refine .inr ⟨hlen, ?_⟩
    rw [← hown]
    exact List.cons_ne_nil call more
  · exact .inl ⟨(List.getElem?_eq_some_iff.mp hi).1, inFlight_iff.mpr ⟨call, more, hi⟩⟩

/-- The flights after request `i` has recorded its end. -/
theorem inFlight_recorded {circuit : EmbeddingCircuit} {nowMs : ℕ} {rest : List CircuitCall} {i j : ℕ}
    (h : (⟨circuit, nowMs, s.pending.set i rest⟩ : CircuitSystem).inFlight j = true) :
    (j ≠ i ∧ s.inFlight j = true) ∨ (j = i ∧ rest ≠ []) := by
  obtain ⟨call, more, hj⟩ := inFlight_iff.mp h
  rcases Table.getElem?_set_cases hj with ⟨hij, hown⟩ | ⟨hij, hj⟩
  · refine .inr ⟨hij.symm, ?_⟩
    rw [← hown]
    exact List.cons_ne_nil call more
  · exact .inl ⟨Ne.symm hij, inFlight_iff.mpr ⟨call, more, hj⟩⟩

end Step

/-! ## Never wedged -/

/-- What the records so far amount to: failures since the last success, and when the last
failure was recorded. -/
structure CircuitHistory where
  nowMs : ℕ
  failures : ℕ
  lastFailureMs : Option ℕ

def CircuitHistory.record {ε : Type} (h : CircuitHistory) : CircuitAction ε → CircuitHistory
  | .request _ => h
  | .succeed _ => { h with failures := 0 }
  | .fail _ => { h with failures := h.failures + 1, lastFailureMs := some h.nowMs }
  | .tick ms => { h with nowMs := h.nowMs + ms }

def circuitHistory {ε : Type} (nowMs : ℕ) (acts : List (CircuitAction ε)) : CircuitHistory :=
  acts.foldl CircuitHistory.record ⟨nowMs, 0, none⟩

/-- The breaker says what the records amount to, and its flag has an embedding behind it. -/
structure CircuitInv (cfg : CircuitConfig) (h : CircuitHistory) (s : CircuitSystem) : Prop where
  now : h.nowMs = s.nowMs
  failures : h.failures = s.circuit.failures
  opened : cfg.openAfter ≤ s.circuit.failures → h.lastFailureMs = some s.circuit.openedAtMs
  trial : s.circuit.trialInFlight = true → ∃ i, s.inFlight i = true

section Invariant
variable {ε : Type} {cfg : CircuitConfig} {h : CircuitHistory} {s s' : CircuitSystem}

theorem circuitInv_initial (nowMs : ℕ) : CircuitInv cfg ⟨nowMs, 0, none⟩ (.initial nowMs) := by
  refine ⟨rfl, rfl, ?_, ?_⟩
  · intro hopen
    have hpos := cfg.openAfter_pos
    simp only [CircuitSystem.initial, EmbeddingCircuit.initial] at hopen
    omega
  · intro htrial
    cases htrial

/-- Requests in flight stay so when another joins. -/
theorem inFlight_append {circuit : EmbeddingCircuit} {nowMs : ℕ} {rest : List CircuitCall} {i : ℕ}
    (hi : s.inFlight i = true) : (⟨circuit, nowMs, s.pending ++ [rest]⟩ : CircuitSystem).inFlight i = true := by
  obtain ⟨call, more, hcalls⟩ := inFlight_iff.mp hi
  refine inFlight_iff.mpr ⟨call, more, ?_⟩
  rw [List.getElem?_append_left (List.getElem?_eq_some_iff.mp hcalls).1]
  exact hcalls

theorem circuitStep_inv {a : CircuitAction ε} (hinv : CircuitInv cfg h s) (hstep : circuitStep cfg s a = some s') :
    CircuitInv cfg (h.record a) s' := by
  cases circuitStep_move hstep with
  | quiet r => exact hinv
  | skip r hskip =>
    refine ⟨hinv.now, hinv.failures, hinv.opened, ?_⟩
    intro htrial
    obtain ⟨i, hi⟩ := hinv.trial htrial
    exact ⟨i, inFlight_append hi⟩
  | admitted r record hskip =>
    have hkept : (s.circuit.shouldSkipEmbed cfg s.nowMs).2.failures = s.circuit.failures ∧
        (s.circuit.shouldSkipEmbed cfg s.nowMs).2.openedAtMs = s.circuit.openedAtMs := by
      rw [shouldSkipEmbed_snd]
      split <;> exact ⟨rfl, rfl⟩
    refine ⟨hinv.now, hinv.failures.trans hkept.1.symm, ?_, ?_⟩
    · intro hopen
      rw [hkept.1] at hopen
      rw [hkept.2]
      exact hinv.opened hopen
    · -- the request itself is in flight, whether it is the trial or not
      intro _
      refine ⟨s.pending.length, inFlight_iff.mpr ⟨record, [], ?_⟩⟩
      rw [List.getElem?_append_right (Nat.le_refl _), Nat.sub_self]
      rfl
  | succeed i rest hi =>
    refine ⟨hinv.now, rfl, ?_, ?_⟩
    · intro hopen
      have hpos := cfg.openAfter_pos
      simp only [EmbeddingCircuit.recordEmbedSuccess] at hopen
      omega
    · intro htrial
      cases htrial
  | fail i rest hi =>
    refine ⟨hinv.now, congrArg (· + 1) hinv.failures, ?_, ?_⟩
    · intro hopen
      have hnow : (s.circuit.recordEmbedFailure cfg s.nowMs).openedAtMs = s.nowMs := if_pos hopen
      rw [hnow, ← hinv.now]
      rfl
    · intro htrial
      cases htrial
  | tick ms =>
    refine ⟨congrArg (· + ms) hinv.now, hinv.failures, hinv.opened, ?_⟩
    intro htrial
    obtain ⟨i, hi⟩ := hinv.trial htrial
    exact ⟨i, hi⟩

theorem circuitInv_of_run {nowMs : ℕ} {acts : List (CircuitAction ε)}
    (hrun : Runs.run (circuitStep cfg) (.initial nowMs) acts = some s) :
    CircuitInv cfg (circuitHistory nowMs acts) s := by
  refine @Runs.run_history _ _ _ _ _ (fun acts s => CircuitInv cfg (circuitHistory nowMs acts) s) ?_ acts
    (circuitInv_initial nowMs) hrun
  intro acts s a s' hinv hstep
  have hnext : circuitHistory nowMs (acts ++ [a]) = (circuitHistory nowMs acts).record a := by
    rw [circuitHistory, List.foldl_append]
    rfl
  rw [hnext]
  exact circuitStep_inv hinv hstep

/-- A request that joins in flight was not told to skip. -/
theorem skips_of_admitted {r : SemanticRequest ε} (hstep : circuitStep cfg s (.request r) = some s')
    (hflight : s'.inFlight s.pending.length = true) : s.skips cfg = false := by
  cases circuitStep_move hstep with
  | quiet =>
    obtain ⟨call, rest, hi⟩ := inFlight_iff.mp hflight
    have hbound := (List.getElem?_eq_some_iff.mp hi).1
    omega
  | skip _ hskip =>
    rcases inFlight_joined hflight with ⟨hlt, -⟩ | ⟨-, hne⟩
    · omega
    · exact absurd rfl hne
  | admitted _ record hskip => exact hskip

end Invariant

theorem circuit_never_wedges {ε : Type} (cfg : CircuitConfig) (nowMs : ℕ) (acts : List (CircuitAction ε))
    (s : CircuitSystem) (hrun : Runs.run (circuitStep cfg) (.initial nowMs) acts = some s) :
    (s.circuit.trialInFlight = true → ∃ i, s.inFlight i = true) ∧
      ((∀ i, s.inFlight i = false) → s.circuit.openedAtMs + cfg.cooldownMs ≤ s.nowMs → s.skips cfg = false) ∧
      ((circuitHistory nowMs acts).failures < cfg.openAfter → s.skips cfg = false) ∧
      ∀ (r : SemanticRequest ε) s', circuitStep cfg s (.request r) = some s' →
        s'.inFlight s.pending.length = true → cfg.openAfter ≤ (circuitHistory nowMs acts).failures →
        ∃ t, (circuitHistory nowMs acts).lastFailureMs = some t ∧ t + cfg.cooldownMs ≤ s.nowMs := by
  have hinv := circuitInv_of_run hrun
  refine ⟨hinv.trial, ?_, ?_, ?_⟩
  · intro hidle hcool
    have hnot : s.circuit.trialInFlight ≠ true := by
      intro htrial
      obtain ⟨i, hi⟩ := hinv.trial htrial
      rw [hidle i] at hi
      cases hi
    exact skips_eq_false_iff.mpr (.inr ⟨hcool, Bool.eq_false_iff.mpr hnot⟩)
  · intro hfew
    rw [hinv.failures] at hfew
    exact skips_eq_false_iff.mpr (.inl hfew)
  · intro r s' hstep hflight hopen
    rw [hinv.failures] at hopen
    refine ⟨s.circuit.openedAtMs, hinv.opened hopen, ?_⟩
    rcases skips_eq_false_iff.mp (skips_of_admitted hstep hflight) with hclosed | ⟨hcool, -⟩
    · omega
    · exact hcool

/-- A lookup whose embedding fails. -/
def outageLookup : SemanticRequest String :=
  .lookup ⟨true, ⟨⟨"", none, .empty⟩, none, none, fun text => text⟩, "embed-3", 9 / 10, 3, 60⟩
    ⟨"chat-default", "Team-A", [⟨.user, "hi", none, none⟩],
      ⟨none, none, none, none, none, none, none, none, none, none, none, none⟩⟩
    ⟨.ok none, false, .error "embed down", .ok []⟩

theorem circuit_never_wedges_outage :
    ∃ s, Runs.run (circuitStep defaultCircuit) (.initial 1000)
        [.request outageLookup, .fail 0, .request outageLookup, .fail 1, .request outageLookup, .fail 2] = some s ∧
      s.skips defaultCircuit = true ∧ (s.circuit.trialInFlight = true → ∃ i, s.inFlight i = true) := by
  obtain ⟨s, hs⟩ : ∃ s, Runs.run (circuitStep defaultCircuit) (.initial 1000)
      [.request outageLookup, .fail 0, .request outageLookup, .fail 1, .request outageLookup, .fail 2] = some s :=
    ⟨_, rfl⟩
  refine ⟨s, hs, ?_, (circuit_never_wedges defaultCircuit 1000 _ s hs).1⟩
  cases hs
  rfl

/-! ## One trial at a time -/

/-- Of the requests from `n` on, at most one is in flight. -/
def CircuitSystem.AtMostOneSince (n : ℕ) (s : CircuitSystem) : Prop :=
  ∀ i j, n ≤ i → n ≤ j → s.inFlight i = true → s.inFlight j = true → i = j

/-- No request before `n` records a failure while one from `n` on is in flight. -/
def CircuitAction.SparesTrial {ε : Type} (n : ℕ) (s : CircuitSystem) : CircuitAction ε → Prop
  | .fail i => i < n → ∀ j, n ≤ j → s.inFlight j = false
  | _ => True

/-- The circuit is open, and of the requests from `n` on at most one is in flight, which the
flag knows of. -/
structure TrialInv (cfg : CircuitConfig) (n : ℕ) (s : CircuitSystem) : Prop where
  opened : cfg.openAfter ≤ s.circuit.failures
  le : n ≤ s.pending.length
  short : ∀ i calls, n ≤ i → s.pending[i]? = some calls → calls.length ≤ 1
  flagged : ∀ i, n ≤ i → s.inFlight i = true → s.circuit.trialInFlight = true
  single : s.AtMostOneSince n

section Trial
variable {ε : Type} {cfg : CircuitConfig} {n : ℕ} {s s' : CircuitSystem}

theorem trialInv_start (hopen : cfg.openAfter ≤ s.circuit.failures) : TrialInv cfg s.pending.length s := by
  have hnone : ∀ i, s.pending.length ≤ i → s.pending[i]? = none := fun i hi => List.getElem?_eq_none hi
  have hidle : ∀ i, s.pending.length ≤ i → s.inFlight i ≠ true := by
    intro i hi hflight
    obtain ⟨call, rest, hcalls⟩ := inFlight_iff.mp hflight
    rw [hnone i hi] at hcalls
    cases hcalls
  refine ⟨hopen, Nat.le_refl _, ?_, ?_, ?_⟩
  · intro i calls hi hcalls
    rw [hnone i hi] at hcalls
    cases hcalls
  · intro i hi hflight
    exact absurd hflight (hidle i hi)
  · intro i j hi _ hflight _
    exact absurd hflight (hidle i hi)

/-- What request `i` leaves after its one record. -/
theorem TrialInv.rest_nil {i : ℕ} {call : CircuitCall} {rest : List CircuitCall} (hinv : TrialInv cfg n s)
    (hn : n ≤ i) (hi : s.pending[i]? = some (call :: rest)) : rest = [] := by
  have hshort := hinv.short i _ hn hi
  rw [List.length_cons] at hshort
  exact List.eq_nil_of_length_eq_zero (by omega)

/-- A request joins with at most one record to make. -/
theorem short_append {calls : List CircuitCall} (hinv : TrialInv cfg n s) (hcalls : calls.length ≤ 1) :
    ∀ i rest, n ≤ i → (s.pending ++ [calls])[i]? = some rest → rest.length ≤ 1 := by
  intro i rest hn hi
  rcases Table.getElem?_snoc_cases hi with ⟨-, rfl⟩ | hi
  · exact hcalls
  · exact hinv.short i rest hn hi

theorem TrialInv.skip (hinv : TrialInv cfg n s) : TrialInv cfg n { s with pending := s.pending ++ [[]] } := by
  have hold : ∀ i, (⟨s.circuit, s.nowMs, s.pending ++ [[]]⟩ : CircuitSystem).inFlight i = true →
      s.inFlight i = true := by
    intro i hi
    rcases inFlight_joined hi with ⟨-, hi⟩ | ⟨-, hne⟩
    · exact hi
    · exact absurd rfl hne
  have hle := hinv.le
  refine ⟨hinv.opened, ?_, short_append hinv (Nat.zero_le 1), ?_, ?_⟩
  · rw [List.length_append]
    omega
  · intro i hn hi
    exact hinv.flagged i hn (hold i hi)
  · intro i j hni hnj hi hj
    exact hinv.single i j hni hnj (hold i hi) (hold j hj)

/-- The breaker is open, so a request is admitted only while the flag is down, that is, while
nothing from `n` on is in flight. -/
theorem TrialInv.idle_of_admitted (hinv : TrialInv cfg n s) (hskip : s.skips cfg = false) :
    ∀ i, n ≤ i → s.inFlight i ≠ true := by
  have hflag : s.circuit.trialInFlight = false := by
    rcases skips_eq_false_iff.mp hskip with hclosed | ⟨-, hflag⟩
    · have := hinv.opened
      omega
    · exact hflag
  intro i hn hi
  have := hinv.flagged i hn hi
  rw [hflag] at this
  cases this

theorem TrialInv.admitted {record : CircuitCall} (hinv : TrialInv cfg n s) (hskip : s.skips cfg = false) :
    TrialInv cfg n { s with
      circuit := (s.circuit.shouldSkipEmbed cfg s.nowMs).2
      pending := s.pending ++ [[record]] } := by
  have hcircuit : (s.circuit.shouldSkipEmbed cfg s.nowMs).2 = { s.circuit with trialInFlight := true } := by
    rw [shouldSkipEmbed_snd, if_pos ⟨hskip, hinv.opened⟩]
  rw [hcircuit]
  have hnew : ∀ i, n ≤ i → (⟨{ s.circuit with trialInFlight := true }, s.nowMs,
      s.pending ++ [[record]]⟩ : CircuitSystem).inFlight i = true → i = s.pending.length := by
    intro i hn hi
    rcases inFlight_joined hi with ⟨-, hi⟩ | ⟨hlen, -⟩
    · exact absurd hi (hinv.idle_of_admitted hskip i hn)
    · exact hlen
  have hle := hinv.le
  refine ⟨hinv.opened, ?_, short_append hinv (Nat.le_refl 1), fun _ _ _ => rfl, ?_⟩
  · rw [List.length_append]
    omega
  · intro i j hni hnj hi hj
    rw [hnew i hni hi, hnew j hnj hj]

/-- After a failure nothing from `n` on is in flight: either the trial itself has ended, or a
failure from before has met no trial. -/
theorem TrialInv.idle_of_failed {i : ℕ} {rest : List CircuitCall} (hinv : TrialInv cfg n s)
    (hspare : i < n → ∀ j, n ≤ j → s.inFlight j = false)
    (hi : s.pending[i]? = some (.recordEmbedFailure :: rest)) : ∀ j, n ≤ j →
      (⟨s.circuit.recordEmbedFailure cfg s.nowMs, s.nowMs, s.pending.set i rest⟩ : CircuitSystem).inFlight j ≠ true := by
  have hflight : s.inFlight i = true := inFlight_iff.mpr ⟨_, rest, hi⟩
  intro j hn hj
  rcases inFlight_recorded hj with ⟨hji, hj⟩ | ⟨hji, hne⟩
  · by_cases hbefore : i < n
    · have := hspare hbefore j hn
      rw [hj] at this
      cases this
    · exact hji (hinv.single j i hn (by omega) hj hflight)
  · exact hne (hinv.rest_nil (hji ▸ hn) hi)

theorem TrialInv.failed {i : ℕ} {rest : List CircuitCall} (hinv : TrialInv cfg n s)
    (hspare : i < n → ∀ j, n ≤ j → s.inFlight j = false)
    (hi : s.pending[i]? = some (.recordEmbedFailure :: rest)) :
    TrialInv cfg n { s with
      circuit := s.circuit.recordEmbedFailure cfg s.nowMs
      pending := s.pending.set i rest } := by
  have hidle := hinv.idle_of_failed hspare hi
  refine ⟨?_, ?_, ?_, ?_, ?_⟩
  · have := hinv.opened
    show cfg.openAfter ≤ s.circuit.failures + 1
    omega
  · rw [List.length_set]
    exact hinv.le
  · intro j calls hn hj
    rcases Table.getElem?_set_cases hj with ⟨rfl, rfl⟩ | ⟨-, hj⟩
    · rw [hinv.rest_nil hn hi]
      exact Nat.zero_le 1
    · exact hinv.short j calls hn hj
  · intro j hn hj
    exact absurd hj (hidle j hn)
  · intro j k hn _ hj _
    exact absurd hj (hidle j hn)

theorem circuitStep_trialInv {a : CircuitAction ε} (hinv : TrialInv cfg n s) (hno : ∀ i, a ≠ .succeed i)
    (hspare : a.SparesTrial n s) (hstep : circuitStep cfg s a = some s') : TrialInv cfg n s' := by
  cases circuitStep_move hstep with
  | quiet r => exact hinv
  | skip r hskip => exact hinv.skip
  | admitted r record hskip => exact hinv.admitted hskip
  | succeed i rest hi => exact absurd rfl (hno i)
  | fail i rest hi => exact hinv.failed hspare hi
  | tick ms => exact ⟨hinv.opened, hinv.le, hinv.short, hinv.flagged, hinv.single⟩

end Trial

theorem single_trial {ε : Type} (cfg : CircuitConfig) (s₀ s : CircuitSystem) (acts : List (CircuitAction ε))
    (hopen : cfg.openAfter ≤ s₀.circuit.failures) (hrun : Runs.run (circuitStep cfg) s₀ acts = some s)
    (hno : ∀ i, CircuitAction.succeed i ∉ acts)
    (hspare : Runs.Along (circuitStep cfg) (CircuitAction.SparesTrial s₀.pending.length) s₀ acts) :
    s.AtMostOneSince s₀.pending.length := by
  have hfails : Runs.Along (circuitStep cfg) (fun _ a => ∀ i, a ≠ CircuitAction.succeed i) s₀ acts := by
    apply Runs.along_of_mem
    rintro _ a ha i rfl
    exact hno i ha
  have hinv : TrialInv cfg s₀.pending.length s := by
    refine Runs.run_invariant_along ?_ (trialInv_start hopen) (hfails.and hspare) hrun
    intro s a s' hinv hgood hstep
    exact circuitStep_trialInv hinv hgood.1 hgood.2 hstep
  exact hinv.single

/-- Four embeddings are out and three of them fail. -/
def openedNextToOne : List (CircuitAction String) :=
  [.request outageLookup, .request outageLookup, .request outageLookup, .request outageLookup,
    .fail 0, .fail 1, .fail 2]

/-- The trial fails, and after another cooldown there is a second one. -/
theorem single_trial_then_another :
    ∃ s₀ s, Runs.run (circuitStep defaultCircuit) (.initial 1000) openedNextToOne = some s₀ ∧
      Runs.run (circuitStep defaultCircuit) s₀
        [.tick 30000, .request outageLookup, .request outageLookup, .fail 4, .tick 30000,
          .request outageLookup] = some s ∧
      s.inFlight 6 = true ∧ s.AtMostOneSince s₀.pending.length := by
  obtain ⟨s₀, hs₀⟩ : ∃ s₀, Runs.run (circuitStep defaultCircuit) (.initial 1000) openedNextToOne = some s₀ :=
    ⟨_, rfl⟩
  have hcircuit : s₀.circuit = ⟨3, 1000, false⟩ ∧ s₀.pending.length = 4 := by
    cases hs₀
    exact ⟨rfl, rfl⟩
  obtain ⟨s, hs⟩ : ∃ s, Runs.run (circuitStep defaultCircuit) s₀
      [.tick 30000, .request outageLookup, .request outageLookup, .fail 4, .tick 30000,
        .request outageLookup] = some s := by
    cases hs₀
    exact ⟨_, rfl⟩
  refine ⟨s₀, s, hs₀, hs, ?_, ?_⟩
  · cases hs₀
    cases hs
    rfl
  · refine single_trial defaultCircuit s₀ s _ (by rw [hcircuit.1]; decide) hs (by simp) ?_
    apply Runs.along_of_mem
    intro u a ha
    rw [hcircuit.2]
    simp only [List.mem_cons, List.not_mem_nil, or_false] at ha
    rcases ha with rfl | rfl | rfl | rfl | rfl | rfl
    · trivial
    · trivial
    · trivial
    -- Request 4 is the trial of this very phase, none of those that came before.
    · intro hbefore
      omega
    · trivial
    · trivial

/-- The fourth fails while the trial is out, which clears the flag, and after another cooldown
a second trial joins the first. -/
theorem two_trials :
    ¬ ∀ (cfg : CircuitConfig) (nowMs : ℕ) (pre acts : List (CircuitAction String)) (i : ℕ)
        (s₁ s₀ s : CircuitSystem),
      Runs.run (circuitStep cfg) (.initial nowMs) pre = some s₁ → s₁.circuit.failures < cfg.openAfter →
      circuitStep cfg s₁ (.fail i : CircuitAction String) = some s₀ → cfg.openAfter ≤ s₀.circuit.failures →
      Runs.run (circuitStep cfg) s₀ acts = some s → (∀ j, CircuitAction.succeed j ∉ acts) →
      s.AtMostOneSince s₀.pending.length := by
  intro hclaim
  have hone := hclaim defaultCircuit 1000
    [.request outageLookup, .request outageLookup, .request outageLookup, .request outageLookup, .fail 0, .fail 1]
    [.tick 30000, .request outageLookup, .fail 3, .tick 30000, .request outageLookup] 2 _ _ _
    rfl (by decide) rfl (by decide) rfl (by simp)
  have heq : 4 = 5 := hone 4 5 (by decide) (by decide) rfl rfl
  omega

end AiGateway
