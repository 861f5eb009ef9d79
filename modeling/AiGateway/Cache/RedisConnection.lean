import AiGateway.Lib.Run
import AiGateway.Lib.Monitor

/- `RedisConnectionService` over every interleaving of its calls, of the answers of Redis and of
   the shutdown. A call runs to its first `await`; what comes after an `await` is pending until
   the client answers, and the answers come in any order. The status of the client changes at
   any time, as ioredis changes it.

   `connection_lawful` reads the log of a run: one attempt at a time and none within 2 s of a
   failed one, one client at a time and each released once, a client that ioredis is still
   working on is never replaced, nobody is handed a client that was released, and once the
   shutdown has begun nothing is opened again and nothing is left open. -/
namespace AiGateway

/-- The values of `Redis.status` of ioredis. -/
inductive RedisStatus where
  | wait
  | connecting
  | connect
  | ready
  | reconnecting
  | close
  | ended
  deriving DecidableEq, Repr

/-- A client, by the number of clients constructed before it. -/
structure RedisClient where
  id : ℕ
  status : RedisStatus
  deriving DecidableEq, Repr

namespace RedisConnection

/-- `RECONNECT_COOLDOWN_MS`. -/
def reconnectCooldownMs : ℕ := 2000

/-- What an `await` still has to run. -/
inductive Continuation where
  | connecting  -- `establishConnection` at `await this.client.connect()`
  | pinging     -- `establishConnection` at `await this.client.ping()`
  | settling    -- the `finally` of `ensureConnected`
  | quitting    -- `onModuleDestroy` at `await this.client.quit()`
  deriving DecidableEq, Repr

def Continuation.ofAttempt : Continuation → Bool
  | .quitting => false
  | _ => true

inductive Event where
  | attempted (now : ℕ)
  | created (client : ℕ)
  | connected
  | failed (now : ℕ)
  | settled
  | replaced (client : ℕ) (status : RedisStatus)  -- `disposeClient` before a new client
  | discarded (client : ℕ)                        -- `disposeClient` after a failure
  | quit (client : ℕ)
  | closing
  | destroyRejected                               -- `this.client` was `null` after the `await`
  | handed (client : ℕ)                           -- `getClient` returned it
  | saidReady                                     -- `isReady` returned `true`
  deriving DecidableEq, Repr

/-- How the synchronous start of `establishConnection` ends. -/
inductive Construction where
  | configMissing           -- `getAppConfigOrThrow` threw
  | throws (failedAt : ℕ)   -- `new Redis` threw, the `catch` read the clock
  | constructed
  deriving DecidableEq, Repr

/-- The fields of the service, what is pending, and the log. -/
structure World where
  client : Option RedisClient
  connectInFlight : Bool
  nextRetryAtMs : ℕ
  closed : Bool
  constructions : ℕ
  pending : List Continuation
  log : List Event
  deriving DecidableEq, Repr

def World.initial : World := ⟨none, false, 0, false, 0, [], []⟩

namespace World

def record (s : World) (e : Event) : World := { s with log := s.log ++ [e] }

def await (s : World) (k : Continuation) : World := { s with pending := s.pending ++ [k] }

/-- `disposeClient`, with the event it is logged as. -/
def disposeClient (s : World) (event : RedisClient → Event) : World :=
  match s.client with
  | none => s
  | some c => { s.record (event c) with client := none }

/-- The `catch` of `establishConnection`. -/
def connectionFailed (s : World) (now : ℕ) : World :=
  let s := (s.disposeClient fun c => .discarded c.id).record (.failed now)
  { s with nextRetryAtMs := now + reconnectCooldownMs }.await .settling

/-- `establishConnection` up to its first `await`. -/
def establishConnection (s : World) : Construction → World
  | .configMissing => s.await .settling
  | .throws failedAt => (s.disposeClient fun c => .replaced c.id c.status).connectionFailed failedAt
  | .constructed =>
    let s := (s.disposeClient fun c => .replaced c.id c.status).record (.created s.constructions)
    -- `lazyConnect`: `connect()` takes the status from `wait` to `connecting` at once
    { s with client := some ⟨s.constructions, .connecting⟩, constructions := s.constructions + 1 }.await
      .connecting

def ensureConnected (required : Bool) (s : World) (now : ℕ) (construction : Construction) : World :=
  if s.closed || !required then s
  else if s.client.any (·.status = .ready) then s
  else if s.client.any (fun c => c.status = .connecting || c.status = .reconnecting || c.status = .wait) then s
  else if s.connectInFlight then s
  else if now < s.nextRetryAtMs then s
  else { (s.record (.attempted now)).establishConnection construction with connectInFlight := true }

/-- The client returned, if any, is in the log. -/
def getClient (required : Bool) (s : World) (now : ℕ) (construction : Construction) : World :=
  if s.closed || !required then s
  else match s.client with
    | some c => s.record (.handed c.id)
    | none => s.ensureConnected required now construction

def isReady (required : Bool) (s : World) (now : ℕ) (construction : Construction) : World :=
  if s.closed || !required then s
  else if s.client.any (·.status = .ready) then s.record .saidReady
  else if s.client.isNone then s.ensureConnected required now construction
  else s

/-- `onModuleDestroy` up to its `await`. -/
def onModuleDestroy (s : World) : World :=
  let s := { s.record .closing with closed := true }
  if s.client.isNone then s else s.await .quitting

/-- What follows an `await`, which was answered (`answered`) or threw. -/
def resume (s : World) (k : Continuation) (answered : Bool) (now : ℕ) : World :=
  match k with
  -- `this.client.ping()` on `null` throws into the same `catch`
  | .connecting => if answered && s.client.isSome then s.await .pinging else s.connectionFailed now
  | .pinging =>
    if answered then { s.record .connected with nextRetryAtMs := 0 }.await .settling
    else s.connectionFailed now
  | .settling => { s.record .settled with connectInFlight := false }
  -- `disconnect()` of the `catch` included: the `finally` releases the client either way
  | .quitting =>
    match s.client with
    | some c => { s.record (.quit c.id) with client := none }
    | none => s.record .destroyRejected

end World

inductive Action where
  | ensureConnected (now : ℕ) (construction : Construction)  -- `onModuleInit`
  | getClient (now : ℕ) (construction : Construction)
  | isReady (now : ℕ) (construction : Construction)          -- and `ping`
  | onModuleDestroy                                          -- and `onApplicationShutdown`
  | resume (k : Continuation) (answered : Bool) (now : ℕ)
  | statusChanged (status : RedisStatus)
  deriving DecidableEq, Repr

open World in
def step (required : Bool) (s : World) : Action → Option World
  | .ensureConnected now construction => some (s.ensureConnected required now construction)
  | .getClient now construction => some (s.getClient required now construction)
  | .isReady now construction => some (s.isReady required now construction)
  | .onModuleDestroy => some s.onModuleDestroy
  | .resume k answered now =>
    if k ∈ s.pending then some ({ s with pending := s.pending.erase k }.resume k answered now) else none
  | .statusChanged status => some { s with client := s.client.map fun c => { c with status } }

/-! What a reader of the log knows, and what may come next. -/

/-- Shutting down, an attempt not yet settled, the last failure unless one succeeded since, the
clients not yet released, every client so far. -/
structure Seen where
  closed : Bool
  attempting : Bool
  lastFailure : Option ℕ
  live : List ℕ
  known : List ℕ
  deriving DecidableEq, Repr

def Seen.after (v : Seen) : Event → Seen
  | .attempted _ => { v with attempting := true }
  | .settled => { v with attempting := false }
  | .created c => { v with live := v.live ++ [c], known := v.known ++ [c] }
  | .connected => { v with lastFailure := none }
  | .failed now => { v with lastFailure := some now }
  | .replaced c _ | .discarded c | .quit c => { v with live := v.live.erase c }
  | .closing => { v with closed := true }
  | .destroyRejected | .handed _ | .saidReady => v

/-- The statuses of a client that is left to ioredis: it is ready, or ioredis is still trying by
itself. `connect`, between the two, is not among them. -/
def RedisOwned (status : RedisStatus) : Prop :=
  status = .ready ∨ status = .connecting ∨ status = .reconnecting ∨ status = .wait

def Lawful (required : Bool) (v : Seen) : Event → Prop
  | .attempted now => required = true ∧ v.closed = false ∧ v.attempting = false ∧
      ∀ failedAt, v.lastFailure = some failedAt → failedAt + reconnectCooldownMs ≤ now
  | .created c => v.closed = false ∧ v.attempting = true ∧ v.live = [] ∧ c ∉ v.known
  | .connected | .failed _ | .settled => v.attempting = true
  | .replaced c status => v.closed = false ∧ v.attempting = true ∧ v.live = [c] ∧ ¬RedisOwned status
  | .discarded c => v.attempting = true ∧ v.live = [c]
  | .quit c => v.closed = true ∧ v.live = [c]
  | .handed c => v.closed = false ∧ v.live = [c]
  | .saidReady => v.closed = false ∧ v.live ≠ []
  | .closing => True
  | .destroyRejected => v.closed = true ∧ v.live = []

def monitor (required : Bool) : Monitor Seen Event where
  start := ⟨false, false, none, [], []⟩
  after := Seen.after
  allows := Lawful required

/-! The service knows of itself what the log says of it. -/

/-- What the fields hold of what was seen, between any two continuations. -/
structure Tracks (required : Bool) (s : World) (v : Seen) : Prop where
  accepted : (monitor required).Accepts s.log
  seen : (monitor required).seen s.log = v
  closed : v.closed = s.closed
  cooldown : ∀ failedAt, v.lastFailure = some failedAt → s.nextRetryAtMs = failedAt + reconnectCooldownMs
  live : v.live = (s.client.map (·.id)).toList
  known : ∀ c ∈ v.known, c < s.constructions

/-- Between two calls the pending continuations account for the attempt in flight, a `quit` is
pending only in a shutdown, and a shutdown leaves the client only while one is. -/
structure AtRest (s : World) (v : Seen) : Prop where
  attempting : v.attempting = s.connectInFlight
  waiting : s.pending.countP Continuation.ofAttempt = s.connectInFlight.toNat
  quitting : .quitting ∈ s.pending → s.closed = true
  shutting : s.closed = true → s.client = none ∨ .quitting ∈ s.pending

section Steps
variable {required : Bool} {s s' : World} {v : Seen}

theorem tracks_initial : Tracks required .initial ⟨false, false, none, [], []⟩ where
  accepted := Monitor.accepts_nil _
  seen := rfl
  closed := rfl
  cooldown := fun _ h => nomatch h
  live := rfl
  known := fun _ h => nomatch h

/-- One lawful event, and the fields as it leaves them. -/
theorem Tracks.event {e : Event} (h : Tracks required s v) (he : Lawful required v e)
    (hlog : s'.log = s.log ++ [e]) (hclosed : (v.after e).closed = s'.closed)
    (hcooldown : ∀ failedAt, (v.after e).lastFailure = some failedAt →
      s'.nextRetryAtMs = failedAt + reconnectCooldownMs)
    (hlive : (v.after e).live = (s'.client.map (·.id)).toList)
    (hknown : ∀ c ∈ (v.after e).known, c < s'.constructions) : Tracks required s' (v.after e) := by
  have hallowed : (monitor required).allows ((monitor required).seen s.log) e := by
    rw [h.seen]
    exact he
  refine ⟨?_, ?_, hclosed, hcooldown, hlive, hknown⟩
  · rw [hlog]
    exact Monitor.accepts_concat h.accepted hallowed
  · rw [hlog, Monitor.seen_concat, h.seen]
    rfl

/-- An event that changes nothing of what the fields hold. -/
theorem Tracks.record {e : Event} (h : Tracks required s v) (he : Lawful required v e)
    (hclosed : (v.after e).closed = v.closed) (hfailure : (v.after e).lastFailure = v.lastFailure)
    (hlive : (v.after e).live = v.live) (hknown : (v.after e).known = v.known) :
    Tracks required (s.record e) (v.after e) := by
  refine h.event he rfl (hclosed.trans h.closed) ?_ (hlive.trans h.live) ?_
  · rw [hfailure]
    exact h.cooldown
  · rw [hknown]
    exact h.known

/-- What the log is not read for. -/
theorem Tracks.frame (h : Tracks required s v) (hlog : s'.log = s.log) (hclosed : s'.closed = s.closed)
    (hretry : s'.nextRetryAtMs = s.nextRetryAtMs)
    (hclient : s'.client.map (·.id) = s.client.map (·.id)) (hconstr : s'.constructions = s.constructions) :
    Tracks required s' v := by
  refine ⟨by rw [hlog]; exact h.accepted, by rw [hlog]; exact h.seen, by rw [hclosed]; exact h.closed, ?_,
    by rw [hclient]; exact h.live, by rw [hconstr]; exact h.known⟩
  rw [hretry]
  exact h.cooldown

theorem Tracks.live_some {c : RedisClient} (h : Tracks required s v) (hc : s.client = some c) :
    v.live = [c.id] := by
  rw [h.live, hc]
  rfl

theorem Tracks.live_none (h : Tracks required s v) (hc : s.client = none) : v.live = [] := by
  rw [h.live, hc]
  rfl

/-! `disposeClient` leaves no client, and the rest of the state. -/

@[simp] theorem client_disposeClient (s : World) (event : RedisClient → Event) :
    (s.disposeClient event).client = none := by
  cases hc : s.client <;> simp [World.disposeClient, hc]

@[simp] theorem closed_disposeClient (s : World) (event : RedisClient → Event) :
    (s.disposeClient event).closed = s.closed := by
  cases hc : s.client <;> simp [World.disposeClient, hc, World.record]

@[simp] theorem constructions_disposeClient (s : World) (event : RedisClient → Event) :
    (s.disposeClient event).constructions = s.constructions := by
  cases hc : s.client <;> simp [World.disposeClient, hc, World.record]

@[simp] theorem pending_disposeClient (s : World) (event : RedisClient → Event) :
    (s.disposeClient event).pending = s.pending := by
  cases hc : s.client <;> simp [World.disposeClient, hc, World.record]

@[simp] theorem connectInFlight_disposeClient (s : World) (event : RedisClient → Event) :
    (s.disposeClient event).connectInFlight = s.connectInFlight := by
  cases hc : s.client <;> simp [World.disposeClient, hc, World.record]

theorem Tracks.disposeClient {e : RedisClient → Event} (h : Tracks required s v)
    (hafter : ∀ c, v.after (e c) = { v with live := v.live.erase c.id })
    (hlawful : ∀ c, s.client = some c → Lawful required v (e c)) :
    Tracks required (s.disposeClient e) { v with live := [] } := by
  cases hc : s.client with
  | none =>
    have hv : ({ v with live := [] } : Seen) = v := by rw [← h.live_none hc]
    rw [hv, World.disposeClient, hc]
    exact h
  | some c =>
    have herase : v.live.erase c.id = [] := by
      rw [h.live_some hc]
      simp
    have hv : v.after (e c) = { v with live := [] } := by rw [hafter, herase]
    rw [World.disposeClient, hc, ← hv]
    refine h.event (hlawful c hc) rfl ?_ ?_ ?_ ?_ <;> rw [hv]
    · exact h.closed
    · exact h.cooldown
    · rfl
    · exact h.known

/-! The rest of the state under the two ends of an attempt. -/

theorem connectionFailed_eq (s : World) (now : ℕ) : s.connectionFailed now =
    { s with
      client := none
      nextRetryAtMs := now + reconnectCooldownMs
      pending := s.pending ++ [.settling]
      log := (s.disposeClient fun c => .discarded c.id).log ++ [.failed now] } := by
  cases hc : s.client <;> simp [World.connectionFailed, World.disposeClient, World.record, World.await, hc]

theorem constructed_eq (s : World) : s.establishConnection .constructed =
    { s with
      client := some ⟨s.constructions, .connecting⟩
      constructions := s.constructions + 1
      pending := s.pending ++ [.connecting]
      log := (s.disposeClient fun c => .replaced c.id c.status).log ++ [.created s.constructions] } := by
  cases hc : s.client <;> simp [World.establishConnection, World.disposeClient, World.record, World.await, hc]

/-- After a failed attempt no client is left, and the cooldown runs from the failure. -/
theorem Tracks.connectionFailed (h : Tracks required s v) (hatt : v.attempting = true) (now : ℕ) :
    Tracks required (s.connectionFailed now) { v with live := [], lastFailure := some now } := by
  have hdispose := h.disposeClient (e := fun c => .discarded c.id) (fun _ => rfl)
    fun c hc => ⟨hatt, h.live_some hc⟩
  rw [connectionFailed_eq]
  refine hdispose.event (e := .failed now) hatt rfl h.closed ?_ rfl h.known
  intro failedAt hfailed
  cases hfailed
  rfl

/-- The synchronous start of an attempt. -/
theorem Tracks.establishConnection (h : Tracks required s v) (hatt : v.attempting = true)
    (hopen : s.closed = false) (howned : ∀ c, s.client = some c → ¬RedisOwned c.status)
    (construction : Construction) :
    ∃ v', Tracks required (s.establishConnection construction) v' ∧ v'.attempting = true := by
  have hdispose := h.disposeClient (e := fun c => .replaced c.id c.status) (fun _ => rfl)
    fun c hc => ⟨h.closed.trans hopen, hatt, h.live_some hc, howned c hc⟩
  cases construction with
  | configMissing => exact ⟨v, h.frame rfl rfl rfl rfl rfl, hatt⟩
  | throws failedAt => exact ⟨_, hdispose.connectionFailed hatt failedAt, hatt⟩
  | constructed =>
    have hfresh : s.constructions ∉ v.known := by
      intro hmem
      have := h.known _ hmem
      omega
    rw [constructed_eq]
    refine ⟨_, hdispose.event (e := .created s.constructions) ⟨h.closed.trans hopen, hatt, rfl, hfresh⟩
      rfl h.closed h.cooldown rfl ?_, hatt⟩
    intro c hc
    rcases List.mem_append.mp hc with hknown | hnew
    · have := h.known c hknown
      simp only
      omega
    · rw [List.mem_singleton.mp hnew]
      exact Nat.lt_succ_self _

/-- What an attempt's synchronous start leaves pending, whatever it came to. -/
theorem waiting_establishConnection (s : World) (construction : Construction) :
    (s.establishConnection construction).pending.countP Continuation.ofAttempt =
      s.pending.countP Continuation.ofAttempt + 1 := by
  cases construction <;>
    simp [World.establishConnection, World.await, World.connectionFailed, World.record, Continuation.ofAttempt]

theorem quitting_establishConnection (s : World) (construction : Construction) :
    .quitting ∈ (s.establishConnection construction).pending ↔ .quitting ∈ s.pending := by
  cases construction <;> simp [World.establishConnection, World.await, World.connectionFailed, World.record]

theorem closed_establishConnection (s : World) (construction : Construction) :
    (s.establishConnection construction).closed = s.closed := by
  cases construction <;> simp [World.establishConnection, World.await, World.connectionFailed, World.record]

/-! The whole invariant, kept by every call and every continuation. -/

def Invariant (required : Bool) (s : World) : Prop := ∃ v, Tracks required s v ∧ AtRest s v

theorem ensureConnected_kept (h : Invariant required s) (now : ℕ) (construction : Construction) :
    Invariant required (s.ensureConnected required now construction) := by
  unfold World.ensureConnected
  split_ifs with hoff hready howned hflight hcooldown
  iterate 5 exact h
  obtain ⟨v, htracks, hrest⟩ := h
  simp only [Bool.or_eq_true, not_or, Bool.not_eq_true, Bool.not_eq_true', Bool.not_eq_false] at hoff
  have hattempt : Lawful required v (.attempted now) := by
    refine ⟨hoff.2, htracks.closed.trans hoff.1, hrest.attempting.trans (by simpa using hflight), ?_⟩
    intro failedAt hfailed
    have := htracks.cooldown failedAt hfailed
    omega
  have hattempted := htracks.record hattempt rfl rfl rfl rfl
  -- the client that would be replaced passed neither test on its status
  have hgiven : ∀ c, (s.record (.attempted now)).client = some c → ¬RedisOwned c.status := by
    intro c hc
    have hc' : s.client = some c := hc
    simp only [hc', Option.any_some, decide_eq_true_eq, Bool.or_eq_true] at hready howned
    rintro (h | h | h | h) <;> simp [h] at hready howned
  obtain ⟨v', htracks', hatt⟩ := hattempted.establishConnection rfl hoff.1 hgiven construction
  refine ⟨v', htracks'.frame rfl rfl rfl rfl rfl, hatt, ?_, ?_, ?_⟩
  · have hcount := hrest.waiting
    have hidle : s.connectInFlight = false := by simpa using hflight
    rw [hidle] at hcount
    calc (((s.record (.attempted now)).establishConnection construction).pending.countP
          Continuation.ofAttempt)
        = s.pending.countP Continuation.ofAttempt + 1 := waiting_establishConnection _ construction
      _ = 1 := by rw [hcount]; rfl
  · intro hquit
    have hbefore := hrest.quitting ((quitting_establishConnection (s.record (.attempted now)) construction).mp hquit)
    simp [hoff.1] at hbefore
  · intro hclosed
    have hopen : ((s.record (.attempted now)).establishConnection construction).closed = false :=
      (closed_establishConnection _ construction).trans hoff.1
    simp [hopen] at hclosed

theorem record_kept {e : Event} (hafter : ∀ v : Seen, v.after e = v)
    (he : ∀ v, Tracks required s v → Lawful required v e) (h : Invariant required s) :
    Invariant required (s.record e) := by
  obtain ⟨v, htracks, hrest⟩ := h
  refine ⟨v, ?_, hrest.attempting, hrest.waiting, hrest.quitting, hrest.shutting⟩
  have hrecord := htracks.record (he v htracks) ?_ ?_ ?_ ?_
  · rwa [hafter] at hrecord
  all_goals rw [hafter]

theorem getClient_kept (h : Invariant required s) (now : ℕ) (construction : Construction) :
    Invariant required (s.getClient required now construction) := by
  unfold World.getClient
  split_ifs with hoff
  · exact h
  · simp only [Bool.or_eq_true, not_or, Bool.not_eq_true] at hoff
    cases hc : s.client with
    | none => exact ensureConnected_kept h now construction
    | some c => exact record_kept (fun _ => rfl) (fun v hv => ⟨hv.closed.trans hoff.1, hv.live_some hc⟩) h

theorem isReady_kept (h : Invariant required s) (now : ℕ) (construction : Construction) :
    Invariant required (s.isReady required now construction) := by
  unfold World.isReady
  split_ifs with hoff hready hnone
  · exact h
  · simp only [Bool.or_eq_true, not_or, Bool.not_eq_true] at hoff
    obtain ⟨c, hc, -⟩ := (Option.any_eq_true _ _).mp hready
    refine record_kept (fun _ => rfl) (fun v hv => ⟨hv.closed.trans hoff.1, ?_⟩) h
    rw [hv.live_some hc]
    exact List.cons_ne_nil _ _
  · exact ensureConnected_kept h now construction
  · exact h

theorem onModuleDestroy_kept (h : Invariant required s) : Invariant required s.onModuleDestroy := by
  obtain ⟨v, htracks, hrest⟩ := h
  have hclosing : Tracks required { s.record .closing with closed := true } (v.after .closing) :=
    htracks.event trivial rfl rfl htracks.cooldown htracks.live htracks.known
  cases hc : s.client with
  | none =>
    have hstep : s.onModuleDestroy = { s.record .closing with closed := true } := by
      simp [World.onModuleDestroy, World.record, hc]
    rw [hstep]
    exact ⟨_, hclosing, hrest.attempting, hrest.waiting, fun _ => rfl, fun _ => .inl hc⟩
  | some c =>
    have hstep : s.onModuleDestroy = { s.record .closing with closed := true }.await .quitting := by
      simp [World.onModuleDestroy, World.record, hc]
    have hwaiting : (s.pending ++ [Continuation.quitting]).countP Continuation.ofAttempt = s.connectInFlight.toNat := by
      rw [List.countP_append, hrest.waiting]
      rfl
    rw [hstep]
    refine ⟨_, hclosing.frame rfl rfl rfl rfl rfl, hrest.attempting, hwaiting, fun _ => rfl, fun _ => .inr ?_⟩
    exact List.mem_append_right _ (List.mem_singleton_self _)

/-- The continuation is taken off before it runs. -/
theorem countP_taken {k : Continuation} (hk : k ∈ s.pending) :
    (s.pending.erase k).countP Continuation.ofAttempt + k.ofAttempt.toNat =
      s.pending.countP Continuation.ofAttempt := by
  have hperm := List.perm_cons_erase hk
  rw [hperm.countP_eq, List.countP_cons]
  cases k <;> rfl

/-- A continuation of an attempt runs while the attempt is in flight, and is its only one. -/
theorem AtRest.of_attempt {k : Continuation} (h : AtRest s v) (hk : k ∈ s.pending)
    (hof : k.ofAttempt = true) :
    s.connectInFlight = true ∧ v.attempting = true ∧
      (s.pending.erase k).countP Continuation.ofAttempt = 0 := by
  have htaken := countP_taken hk
  rw [h.waiting, hof] at htaken
  have hflight : s.connectInFlight = true := by
    by_contra hidle
    rw [Bool.not_eq_true] at hidle
    rw [hidle] at htaken
    simp at htaken
  refine ⟨hflight, h.attempting.trans hflight, ?_⟩
  rw [hflight] at htaken
  simpa using htaken

/-- One continuation of an attempt leaves another. -/
theorem AtRest.handover {k k' : Continuation} {v' : Seen} (h : AtRest s v) (hk : k ∈ s.pending)
    (hof : k.ofAttempt = true) (hof' : k'.ofAttempt = true)
    (hpending : s'.pending = s.pending.erase k ++ [k']) (hflight : s'.connectInFlight = s.connectInFlight)
    (hclosed : s'.closed = s.closed) (hclient : s'.client = none ∨ s'.client = s.client)
    (hv : v'.attempting = v.attempting) : AtRest s' v' := by
  obtain ⟨hbusy, -, hnone⟩ := h.of_attempt hk hof
  -- neither continuation is the `quit`
  have hquitting : .quitting ∈ s'.pending ↔ .quitting ∈ s.pending := by
    have hne : ∀ k : Continuation, k.ofAttempt = true → .quitting ≠ k := by
      rintro _ h rfl
      simp [Continuation.ofAttempt] at h
    rw [hpending, List.mem_append, List.mem_erase_of_ne (hne k hof), List.mem_singleton]
    exact or_iff_left (hne k' hof')
  refine ⟨hv.trans (h.attempting.trans hflight.symm), ?_, ?_, ?_⟩
  · rw [hpending, hflight, hbusy, List.countP_append, hnone]
    simp [hof']
  · rw [hquitting, hclosed]
    exact h.quitting
  · intro hshut
    rw [hquitting]
    rcases hclient with hclient | hclient
    · exact .inl hclient
    · rw [hclient]
      exact h.shutting (hclosed.symm.trans hshut)

/-- The same for the end of a failed attempt. -/
theorem AtRest.failed {k : Continuation} {v' : Seen} {now : ℕ} (h : AtRest s v) (hk : k ∈ s.pending)
    (hof : k.ofAttempt = true) (hv : v'.attempting = v.attempting) :
    AtRest ({ s with pending := s.pending.erase k }.connectionFailed now) v' := by
  rw [connectionFailed_eq]
  exact h.handover hk hof rfl rfl rfl rfl (.inl rfl) hv

theorem resume_kept {k : Continuation} (h : Invariant required s) (hk : k ∈ s.pending)
    (answered : Bool) (now : ℕ) :
    Invariant required ({ s with pending := s.pending.erase k }.resume k answered now) := by
  obtain ⟨v, htracks, hrest⟩ := h
  have htaken : Tracks required { s with pending := s.pending.erase k } v := htracks.frame rfl rfl rfl rfl rfl
  -- The continuation is taken off before it runs, so that the attempt is its own.
  cases k with
  | connecting =>
    have hatt := (hrest.of_attempt hk rfl).2.1
    simp only [World.resume]
    split_ifs
    · exact ⟨v, htaken.frame rfl rfl rfl rfl rfl, hrest.handover hk rfl rfl rfl rfl rfl (.inr rfl) rfl⟩
    · exact ⟨_, htaken.connectionFailed hatt now, hrest.failed hk rfl rfl⟩
  | pinging =>
    have hatt := (hrest.of_attempt hk rfl).2.1
    simp only [World.resume]
    split_ifs
    · refine ⟨_, htaken.event (e := .connected) hatt rfl htracks.closed ?_ htracks.live htracks.known,
        hrest.handover hk rfl rfl rfl rfl rfl (.inr rfl) rfl⟩
      intro failedAt hfailed
      cases hfailed
    · exact ⟨_, htaken.connectionFailed hatt now, hrest.failed hk rfl rfl⟩
  | settling =>
    obtain ⟨-, hatt, hnone⟩ := hrest.of_attempt hk rfl
    refine ⟨_, htaken.event (e := .settled) hatt rfl htracks.closed htracks.cooldown htracks.live
      htracks.known, rfl, hnone, fun hquit => hrest.quitting (List.mem_of_mem_erase hquit), fun hshut => ?_⟩
    exact (hrest.shutting hshut).imp_right (List.mem_erase_of_ne (by decide)).mpr
  | quitting =>
    -- After the QUIT of a shutdown the client may be gone already.
    have hclosed := hrest.quitting hk
    have hwaiting := (countP_taken hk).trans hrest.waiting
    obtain hc | ⟨c, hc⟩ := Option.eq_none_or_eq_some s.client
    · have hstep : { s with pending := s.pending.erase .quitting }.resume .quitting answered now =
          { s with pending := s.pending.erase .quitting }.record .destroyRejected := by
        simp [World.resume, hc]
      rw [hstep]
      exact ⟨_, htaken.record (e := .destroyRejected) ⟨htracks.closed.trans hclosed, htracks.live_none hc⟩
        rfl rfl rfl rfl, hrest.attempting, hwaiting, fun _ => hclosed, fun _ => .inl hc⟩
    · have hstep : { s with pending := s.pending.erase .quitting }.resume .quitting answered now =
          { s with client := none, pending := s.pending.erase .quitting, log := s.log ++ [.quit c.id] } := by
        simp [World.resume, hc, World.record]
      have herase : v.live.erase c.id = [] := by
        rw [htracks.live_some hc]
        simp
      rw [hstep]
      exact ⟨_, htaken.event (e := .quit c.id) ⟨htracks.closed.trans hclosed, htracks.live_some hc⟩ rfl
        htracks.closed htracks.cooldown herase htracks.known, hrest.attempting, hwaiting,
        fun _ => hclosed, fun _ => .inl rfl⟩

theorem step_kept {a : Action} (h : Invariant required s) (hstep : step required s a = some s') :
    Invariant required s' := by
  cases a with
  | ensureConnected now construction =>
    cases hstep
    exact ensureConnected_kept h now construction
  | getClient now construction =>
    cases hstep
    exact getClient_kept h now construction
  | isReady now construction =>
    cases hstep
    exact isReady_kept h now construction
  | onModuleDestroy =>
    cases hstep
    exact onModuleDestroy_kept h
  | resume k answered now =>
    obtain ⟨hk, hs'⟩ : k ∈ s.pending ∧ _ := by simpa [step] using hstep
    rw [← hs']
    exact resume_kept h hk answered now
  | statusChanged status =>
    cases hstep
    obtain ⟨v, htracks, hrest⟩ := h
    refine ⟨v, htracks.frame rfl rfl rfl ?_ rfl, hrest.attempting, hrest.waiting, hrest.quitting, fun hshut => ?_⟩
    · simp [Function.comp_def]
    · simpa using hrest.shutting hshut

end Steps

theorem invariant_initial (required : Bool) : Invariant required .initial :=
  ⟨_, tracks_initial, rfl, rfl, (nomatch ·), (nomatch ·)⟩

end RedisConnection

open RedisConnection in
/-- Whatever is called and answered in whatever order: every event of the log is lawful where it
stands. At most one client is open, and once nothing is pending no attempt is, and after a
shutdown no client either. -/
theorem connection_lawful (required : Bool) (actions : List Action) (s : World)
    (hrun : Runs.run (step required) .initial actions = some s) :
    (monitor required).Accepts s.log ∧
      ((monitor required).seen s.log).live = (s.client.map (·.id)).toList ∧
      (s.pending = [] → ((monitor required).seen s.log).attempting = false ∧
        (((monitor required).seen s.log).closed = true → ((monitor required).seen s.log).live = [])) := by
  obtain ⟨v, htracks, hrest⟩ : Invariant required s :=
    Runs.run_invariant (fun _ _ _ h hstep => step_kept h hstep) (invariant_initial required) hrun
  rw [htracks.seen]
  refine ⟨htracks.accepted, htracks.live, fun hidle => ?_⟩
  have hwaiting := hrest.waiting
  have hshutting := hrest.shutting
  rw [hidle] at hwaiting hshutting
  constructor
  · rw [hrest.attempting]
    simpa using hwaiting.symm
  · intro hclosed
    have hnone := (hshutting (htracks.closed.symm.trans hclosed)).resolve_right List.not_mem_nil
    exact htracks.live_none hnone

open RedisConnection in
/-- A first connect that fails, a second one after the cooldown that succeeds, and a shutdown. -/
theorem connection_lawful_second :
    (monitor true).Accepts [.attempted 0, .created 0, .discarded 0, .failed 500, .settled,
      .attempted 2500, .created 1, .connected, .settled, .closing, .quit 1] :=
  (connection_lawful true
    [.ensureConnected 0 .constructed, .resume .connecting false 500, .resume .settling true 500,
      .isReady 2000 .constructed, .getClient 2500 .constructed, .resume .connecting true 2510,
      .resume .pinging true 2520, .resume .settling true 2520, .onModuleDestroy,
      .resume .quitting true 3000] _ rfl).1

end AiGateway
