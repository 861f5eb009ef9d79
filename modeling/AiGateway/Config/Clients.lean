import AiGateway.Lib.JsString

/- The clients of a gateway configuration and the gateway keys they authenticate with:
   the `clients` record of `GatewayConfigSchema`, its resolution against the environment
   (`buildGatewayKeyRuntime`) and the lookup that names a client for the cache and the metrics
   (`resolveClientIdFromKey`). -/
namespace AiGateway

abbrev GatewayKey := String
abbrev ClientId := String

/-- `GATEWAY_CLIENT_TYPES`. -/
inductive GatewayClientType where
  | webapp | ide | cli | service | backend | automation
  deriving DecidableEq, Repr

/-- `Number.MAX_SAFE_INTEGER`; the schema's `int()` takes no integer beyond it. -/
def maxSafeInteger : Nat := 9007199254740991

/-- `z.number().int().min(1)`. -/
def isPositiveInt (n : Nat) : Bool := 1 ≤ n && n ≤ maxSafeInteger

/-- `clients.<id>.rateLimit`. -/
structure ClientRateLimit where
  rps : Nat
  burst : Nat
  maxConcurrentStreams : Nat
  deriving DecidableEq, Repr

def ClientRateLimit.accepted (r : ClientRateLimit) : Bool :=
  isPositiveInt r.rps && isPositiveInt r.burst && isPositiveInt r.maxConcurrentStreams

/-- One row of `clients` in `gateway.config.yaml`. -/
structure GatewayClientConfig where
  name : String
  type : GatewayClientType
  gatewayKeyRef : String
  rateLimit : Option ClientRateLimit := none
  deriving DecidableEq, Repr

/-- `REDIS_SEARCH_TAG_ID_FORBIDDEN`: the TAG special characters, the hyphen left out. -/
def redisSearchTagIdForbidden : List Char := ",.<>\x7b\x7d[]\"':;!@#$%^&*()+=~|/\\ ".toList

def isRedisSearchTagSafeId (value : String) : Bool :=
  value.length > 0 && value.toList.all fun c => !redisSearchTagIdForbidden.contains c

/-- What `GatewayConfigSchema` asks of `clients`: the record's keys are TAG-safe ids, a
row has a nonempty name and key reference. Nothing is asked of the names beyond that: they
need be neither TAG-safe nor distinct. The record's keys are distinct, as object keys. -/
def clientsAccepted (clients : List (String × GatewayClientConfig)) : Bool :=
  (clients.all fun (id, row) => isRedisSearchTagSafeId id && row.name ≠ "" && row.gatewayKeyRef ≠ "" &&
    row.rateLimit.all ClientRateLimit.accepted) && decide (clients.map Prod.fst).Nodup

/-- A client with its key read from the environment. -/
structure ResolvedGatewayClient where
  instanceId : String
  name : String
  type : GatewayClientType
  gatewayKeyRef : String
  gatewayKey : GatewayKey
  rateLimit : Option ClientRateLimit
  deriving DecidableEq, Repr

/-- `buildGatewayKeyRuntime`, the `clients` part: `env` is `process.env`. -/
def resolveClients (clients : List (String × GatewayClientConfig)) (env : String → Option String) :
    List ResolvedGatewayClient :=
  clients.map fun (id, row) =>
    { instanceId := id, name := row.name, type := row.type, gatewayKeyRef := row.gatewayKeyRef,
      gatewayKey := JsString.trim ((env row.gatewayKeyRef).getD ""), rateLimit := row.rateLimit }

def unknownClient : ClientId := "unknown"

/-- The client id of a request is the `name` of the first client with its key, and
`unknown` when there is none or the name is empty. -/
def resolveClientIdFromKey (gatewayKey : GatewayKey) (clients : List ResolvedGatewayClient) : ClientId :=
  match clients.find? (fun client => client.gatewayKey = gatewayKey) with
  | some client => if client.name = "" then unknownClient else client.name
  | none => unknownClient

/-- With distinct keys, the key of a client resolves to that client's name. -/
theorem resolveClientIdFromKey_of_mem {clients : List ResolvedGatewayClient} {a : ResolvedGatewayClient}
    (hkeys : (clients.map ResolvedGatewayClient.gatewayKey).Nodup) (ha : a ∈ clients) (hname : a.name ≠ "") :
    resolveClientIdFromKey a.gatewayKey clients = a.name := by
  have hfind : clients.find? (fun client => client.gatewayKey = a.gatewayKey) = some a := by
    induction clients with
    | nil => cases ha
    | cons c clients ih =>
      rw [List.map_cons, List.nodup_cons] at hkeys
      rcases List.mem_cons.mp ha with rfl | ha
      · simp
      · -- the first client has another key
        have hne : c.gatewayKey ≠ a.gatewayKey := by
          intro heq
          exact hkeys.1 (heq ▸ List.mem_map_of_mem ha)
        rw [List.find?_cons_of_neg (by simpa using hne)]
        exact ih hkeys.2 ha
  simp [resolveClientIdFromKey, hfind, hname]

theorem name_ne_of_accepted {clients : List (String × GatewayClientConfig)} {env : String → Option String}
    {a : ResolvedGatewayClient} (h : clientsAccepted clients = true) (ha : a ∈ resolveClients clients env) :
    a.name ≠ "" := by
  obtain ⟨⟨id, row⟩, hrow, rfl⟩ := List.mem_map.mp ha
  simp only [clientsAccepted, Bool.and_eq_true] at h
  have hchecks := List.all_eq_true.mp h.1 (id, row) hrow
  simp only [Bool.and_eq_true] at hchecks
  simpa using hchecks.1.1.2

end AiGateway
