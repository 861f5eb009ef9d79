import AiGateway.Cli.ManagedConfig
import AiGateway.Cli.EnvUndo
import AiGateway.Lib.FileTree

/- `applyAddProvider` and `applyAddClient` when they fail. Both change the configuration in
   memory, then `.env`, and then call `persistConfig`; only that last call is inside the `try`
   whose `catch` takes the entries out of the configuration again and removes the variables.
   What fails before it leaves the entry in memory, and the removal of a variable that was there
   before does not bring its value back. Here every file operation may throw; a write that throws
   leaves the file as it was or with what has reached it by then.

   * `add_atomic_iff`: a call that fails changes nothing exactly when it is turned away at once,
     or reaches `persistConfig` and every variable it sets was not there.
   * `failed_client_deletes_key`: a client that is refused takes the key of another with it. -/
namespace AiGateway.Cli.Adding

open FileTree (WriteEnd)

/-- The configuration in memory, `gateway.config.yaml` and `.env`. -/
structure World (γ : Type) where
  config : CliConfig
  yaml : Option γ
  env : EnvText

inductive AddError where
  | refused (e : CliError)
  | file                     -- a file operation threw
  deriving DecidableEq

/-- How the file operations of one call end; the calls of `setVar` and of `removeVar` are counted
from 0. -/
structure FileEnds (γ : Type) where
  promptThrows : String → Bool         -- `generateModelPrompt` for an alias
  setVar : ℕ → WriteEnd EnvText
  backupThrows : Bool
  writeYaml : WriteEnd γ
  removeVar : ℕ → WriteEnd EnvText

/-- No file operation throws. -/
def workingFiles : FileEnds CliConfig := ⟨fun _ => false, fun _ => .done, false, .done, fun _ => .done⟩

/-! ## Patches of `.env`, one after the other -/

/-- The text left, and whether every patch was written. -/
def runPatches (ends : ℕ → WriteEnd EnvText) : List EnvPatch → EnvText → EnvText × Bool
  | [], env => (env, true)
  | patch :: patches, env =>
    match ends 0 with
    | .done => runPatches (fun n => ends (n + 1)) patches (patch.apply env)
    | .thrown left => (left.getD env, false)

/-- The patches that are written before the first that throws. -/
def completed (ends : ℕ → WriteEnd EnvText) : List EnvPatch → List EnvPatch
  | [] => []
  | patch :: patches =>
    match ends 0 with
    | .done => patch :: completed (fun n => ends (n + 1)) patches
    | .thrown _ => []

/-- What the first that throws leaves of the file. -/
def leftBehind (ends : ℕ → WriteEnd EnvText) : List EnvPatch → Option (Option EnvText)
  | [] => none
  | _ :: patches =>
    match ends 0 with
    | .done => leftBehind (fun n => ends (n + 1)) patches
    | .thrown left => some left

/-! ## The operations -/

section Operations
variable {γ : Type}
variable (secrets : GatewayConfig → EnvText → Option String)
variable (modelRow : Option ProviderType → String → String → GatewayModelConfig)
variable (render : CliConfig → γ)       -- what `writeYaml` writes of a configuration
variable (ends : FileEnds γ)

/-- `persistConfig`: the backup copies the file, so it throws when there is none. -/
def persist (world : World γ) (allowMissingProviderSecrets : Bool) : World γ × Option AddError :=
  match persistConfig secrets ⟨world.config, world.env⟩ false allowMissingProviderSecrets with
  | .error e => (world, some (.refused e))
  | .ok persisted =>
    if ends.backupThrows || world.yaml.isNone then (world, some .file)
    else match ends.writeYaml with
      | .done => ({ world with yaml := some (render persisted.config) }, none)
      | .thrown left => ({ world with yaml := left <|> world.yaml }, some .file)

/-- The loop over the models: `applyAddModel` enters the row before it writes the prompt. -/
def addModels (providerInstance : String) : List (String × String) → GatewayConfig → GatewayConfig × Option AddError
  | [], gateway => (gateway, none)
  | (modelAlias, modelId) :: rest, gateway =>
    match applyAddModel modelRow gateway providerInstance modelAlias modelId with
    | .error e => (gateway, some (.refused e))
    | .ok gateway =>
      if ends.promptThrows modelAlias then (gateway, some .file) else addModels providerInstance rest gateway

/-- The `setVar` calls, `persistConfig`, and its `catch`; `restored` is the configuration after
the deletions of the `catch`. -/
def commit (world : World γ) (patches cleanup : List EnvPatch) (restored : CliConfig)
    (allowMissingProviderSecrets : Bool) : World γ × Option AddError :=
  match runPatches ends.setVar patches world.env with
  | (env, false) => ({ world with env := env }, some .file)
  | (env, true) =>
    match persist secrets render ends { world with env := env } allowMissingProviderSecrets with
    | (world, none) => (world, none)
    | (world, some e) =>
      match runPatches ends.removeVar cleanup world.env with
      | (env, true) => ({ world with config := restored, env := env }, some e)
      | (env, false) => ({ world with config := restored, env := env }, some .file)

def applyAddProvider (world : World γ) (input : AddProviderInput) : World γ × Option AddError :=
  let gateway := world.config.gateway
  match property gateway.providers input.id with
  | .missing =>
    if !hasModelsForInstance gateway input.id && input.models.isEmpty then
      (world, some (.refused (.modelRequired input.id)))
    else
      match addModels modelRow ends input.id input.models
          { gateway with providers := gateway.providers.set input.id input.row } with
      | (gateway, some e) => ({ world with config := { world.config with gateway := gateway } }, some e)
      | (gateway, none) =>
        let restored : GatewayConfig :=
          ⟨gateway.providers.erase input.id, gateway.models.eraseAll (input.models.map Prod.fst)⟩
        commit secrets render ends { world with config := { world.config with gateway := gateway } } input.patches
          input.cleanup { world.config with gateway := restored } (hasPendingSecrets input)
  | _ => (world, some (.refused (.instanceExists input.id)))

def applyAddClient (world : World γ) (input : AddClientInput) : World γ × Option AddError :=
  match property world.config.clients input.id with
  | .missing =>
    let clients := world.config.clients.set input.id input.row
    commit secrets render ends { world with config := { world.config with clients := clients } } input.patches
      [.remove input.gatewayKeyRef] { world.config with clients := clients.erase input.id } false
  | _ => (world, some (.refused (.clientExists input.id)))

inductive Addition where
  | provider (input : AddProviderInput)
  | client (input : AddClientInput)

def Addition.apply (world : World γ) : Addition → World γ × Option AddError
  | .provider input => applyAddProvider secrets modelRow render ends world input
  | .client input => applyAddClient secrets render ends world input

end Operations

/-! ## What a failure leaves, and when that is nothing -/

/-- The configuration in memory, the file and every variable are as before. -/
def Unchanged {γ : Type} (before after : World γ) : Prop :=
  after.config = before.config ∧ after.yaml = before.yaml ∧ SameVariables after.env before.env

namespace Addition

/-- The `setVar` calls. -/
def patches : Addition → List EnvPatch
  | .provider input => input.patches
  | .client input => input.patches

/-- The `removeVar` calls of the `catch`. -/
def cleanup : Addition → List EnvPatch
  | .provider input => input.cleanup
  | .client input => [.remove input.gatewayKeyRef]

def allowMissingProviderSecrets : Addition → Bool
  | .provider input => hasPendingSecrets input
  | .client _ => false

/-- The call throws before it changes anything. -/
def TurnedAway (config : CliConfig) : Addition → Prop
  | .provider input => property config.gateway.providers input.id ≠ .missing ∨
      (hasModelsForInstance config.gateway input.id = false ∧ input.models = [])
  | .client input => property config.clients input.id ≠ .missing

/-- Every alias of the input is new, no two are alike, and their prompts are written. -/
def Entered (promptThrows : String → Bool) (config : CliConfig) : Addition → Prop
  | .provider input => (input.models.map Prod.fst).Nodup ∧
      ∀ m ∈ input.models, property config.gateway.models m.1 = .missing ∧ promptThrows m.1 = false
  | .client _ => True

/-- The configuration with the new entry. -/
def added (modelRow : Option ProviderType → String → String → GatewayModelConfig) (config : CliConfig) :
    Addition → CliConfig
  | .provider input => { config with
      gateway :=
        ⟨config.gateway.providers.set input.id input.row,
          input.models.foldl (fun models m => models.set m.1 (modelRow (some input.type) input.id m.2))
            config.gateway.models⟩ }
  | .client input => { config with clients := config.clients.set input.id input.row }

end Addition

/-- A write of `gateway.config.yaml` that is reached leaves the file as it was. -/
def YamlKept {γ : Type} (secrets : GatewayConfig → EnvText → Option String) (ends : FileEnds γ) (world : World γ)
    (allowMissingProviderSecrets : Bool) : Prop :=
  Fallible.Succeeds (persistConfig secrets ⟨world.config, world.env⟩ false allowMissingProviderSecrets) →
    ends.backupThrows = false → world.yaml ≠ none → ends.writeYaml.Harmless world.yaml

/-- The removals bring back what the patches changed, unless one that threw has left a text with
the same values. The names of a provider are derived, that of a client may be any text. -/
def Addition.EnvKept (ends : ℕ → WriteEnd EnvText) (env : EnvText) : Addition → Prop
  | .provider input =>
    match leftBehind ends input.cleanup with
    | some (some left) => SameVariables left env
    | some none | none => KeepsVariables (input.patches ++ completed ends input.cleanup) env
  | .client input =>
    match leftBehind ends [.remove input.gatewayKeyRef] with
    | some (some left) => SameVariables left env
    | some none => SetOnly input.gatewayKeyRef input.gatewayKey.toList env
    | none => SetAndRemoved input.gatewayKeyRef input.gatewayKey.toList env

/-- The call gets as far as `persistConfig`, and its `catch` undoes everything. -/
structure Addition.RolledBack {γ : Type} (secrets : GatewayConfig → EnvText → Option String)
    (modelRow : Option ProviderType → String → String → GatewayModelConfig) (ends : FileEnds γ) (world : World γ)
    (addition : Addition) : Prop where
  entered : addition.Entered ends.promptThrows world.config
  set : leftBehind ends.setVar addition.patches = none
  yaml : YamlKept secrets ends
    ⟨addition.added modelRow world.config, world.yaml, EnvPatch.applyAll addition.patches world.env⟩
    addition.allowMissingProviderSecrets
  env : addition.EnvKept ends.removeVar world.env

/-! ## Patches -/

section Patches
variable {ends : ℕ → WriteEnd EnvText} {patches cleanup : List EnvPatch} {env : EnvText}

theorem runPatches_eq : runPatches ends patches env = match leftBehind ends patches with
    | none => (EnvPatch.applyAll patches env, true)
    | some left => (left.getD (EnvPatch.applyAll (completed ends patches) env), false) := by
  induction patches generalizing ends env with
  | nil => rfl
  | cons patch patches ih =>
    cases hend : ends 0 with
    | done =>
      simp only [runPatches, leftBehind, completed, hend]
      rw [ih]
      rfl
    | thrown left =>
      simp only [runPatches, leftBehind, completed, hend]
      rfl

theorem completed_eq (h : leftBehind ends patches = none) : completed ends patches = patches := by
  induction patches generalizing ends with
  | nil => rfl
  | cons patch patches ih =>
    cases hend : ends 0 with
    | done =>
      simp only [leftBehind, hend] at h
      simp only [completed, hend, ih h]
    | thrown left =>
      simp only [leftBehind, hend] at h
      cases h

theorem completed_subset {patch : EnvPatch} (h : patch ∈ completed ends patches) : patch ∈ patches := by
  induction patches generalizing ends with
  | nil => cases h
  | cons first patches ih =>
    cases hend : ends 0 with
    | done =>
      simp only [completed, hend] at h
      obtain rfl | h := List.mem_cons.mp h
      · exact List.mem_cons_self
      · exact List.mem_cons_of_mem _ (ih h)
    | thrown left =>
      simp only [completed, hend] at h
      cases h

end Patches

/-! ## `persistConfig` and its `catch` -/

section Commit
variable {γ : Type} {secrets : GatewayConfig → EnvText → Option String} {render : CliConfig → γ} {ends : FileEnds γ}
variable {world : World γ} {patches cleanup : List EnvPatch} {restored : CliConfig} {allow : Bool}

/-- A `persistConfig` that fails has written nothing but what a throwing write leaves. -/
theorem persist_failed (h : (persist secrets render ends world allow).2 ≠ none) :
    (persist secrets render ends world allow).1.config = world.config ∧
      (persist secrets render ends world allow).1.env = world.env ∧
      ((persist secrets render ends world allow).1.yaml = world.yaml ↔ YamlKept secrets ends world allow) := by
  unfold persist at h ⊢
  unfold YamlKept
  cases hpersist : persistConfig secrets ⟨world.config, world.env⟩ false allow with
  | error e => exact ⟨rfl, rfl, iff_of_true rfl fun hs => absurd hs (Fallible.not_succeeds_error e)⟩
  | ok persisted =>
    simp only [hpersist] at h ⊢
    by_cases hbackup : (ends.backupThrows || world.yaml.isNone) = true
    · -- the write is not reached
      rw [if_pos hbackup]
      refine ⟨rfl, rfl, iff_of_true rfl ?_⟩
      intro _ hthrows hyaml
      rw [hthrows, Bool.false_or, Option.isNone_iff_eq_none] at hbackup
      exact absurd hbackup hyaml
    · rw [if_neg hbackup] at h ⊢
      have hreached : ends.backupThrows = false ∧ world.yaml ≠ none := by
        simpa [not_or] using hbackup
      cases hend : ends.writeYaml with
      | done =>
        rw [hend] at h
        exact absurd rfl h
      | thrown left =>
        refine ⟨rfl, rfl, ?_⟩
        have hsucceeds : Fallible.Succeeds (Except.ok persisted : Except CliError CliState) := Fallible.succeeds_ok _
        cases left with
        | none => exact iff_of_true rfl fun _ _ _ => trivial
        | some content =>
          show some content = world.yaml ↔ _
          constructor
          · exact fun hsame _ _ _ => hsame.symm
          · exact fun hkept => (hkept hsucceeds hreached.1 hreached.2).symm

/-- A `persistConfig` that ends leaves the configuration in memory and `.env` as they are. -/
theorem persist_succeeds {world' : World γ} (h : persist secrets render ends world allow = (world', none)) :
    world'.config = world.config ∧ world'.env = world.env := by
  unfold persist at h
  split at h
  · cases h
  · split at h
    · cases h
    · split at h
      · cases h
        exact ⟨rfl, rfl⟩
      · cases h

/-- A commit that ends has made its patches, and keeps the configuration it was given. -/
theorem commit_succeeds {world' : World γ}
    (h : commit secrets render ends world patches cleanup restored allow = (world', none)) :
    world'.config = world.config ∧ world'.env = EnvPatch.applyAll patches world.env := by
  unfold commit at h
  rw [runPatches_eq] at h
  cases hset : leftBehind ends.setVar patches with
  | some left => simp [hset] at h
  | none =>
    simp only [hset] at h
    split at h
    · next persisted hpersist =>
      cases h
      exact persist_succeeds hpersist
    · split at h <;> cases h

/-- A `setVar` that throws leaves the new entry in memory. -/
theorem commit_unset {left : Option EnvText} (h : leftBehind ends.setVar patches = some left) :
    (commit secrets render ends world patches cleanup restored allow).1.config = world.config := by
  unfold commit
  rw [runPatches_eq, h]

/-- Past the `setVar` calls a failure restores the configuration, and the removals are made. -/
theorem commit_failed (hset : leftBehind ends.setVar patches = none)
    (h : (commit secrets render ends world patches cleanup restored allow).2 ≠ none) :
    (commit secrets render ends world patches cleanup restored allow).1.config = restored ∧
      ((commit secrets render ends world patches cleanup restored allow).1.yaml = world.yaml ↔
        YamlKept secrets ends { world with env := EnvPatch.applyAll patches world.env } allow) ∧
      (commit secrets render ends world patches cleanup restored allow).1.env =
        (runPatches ends.removeVar cleanup (EnvPatch.applyAll patches world.env)).1 := by
  have hrun : runPatches ends.setVar patches world.env = (EnvPatch.applyAll patches world.env, true) := by
    rw [runPatches_eq, hset]
  unfold commit at h ⊢
  simp only [hrun] at h ⊢
  -- The clean-up works on what the persisting leaves, which is the same variables.
  cases hpersist : persist secrets render ends { world with env := EnvPatch.applyAll patches world.env } allow with
  | mk after error =>
    cases error with
    | none =>
      rw [hpersist] at h
      exact absurd rfl h
    | some e =>
      have hfailed : (persist secrets render ends
          { world with env := EnvPatch.applyAll patches world.env } allow).2 ≠ none := by
        rw [hpersist]
        exact Option.some_ne_none e
      obtain ⟨-, henv, hyaml⟩ := persist_failed hfailed
      rw [hpersist] at henv hyaml
      simp only at henv hyaml ⊢
      rw [henv]
      cases hremoved : runPatches ends.removeVar cleanup (EnvPatch.applyAll patches world.env) with
      | mk env written => cases written <;> exact ⟨rfl, hyaml, rfl⟩

end Commit

/-! ## The models of a new provider -/

section Models
variable {γ : Type} {modelRow : Option ProviderType → String → String → GatewayModelConfig} {ends : FileEnds γ}
variable {id : String} {row : ProviderRow} {models : List (String × String)} {gateway : GatewayConfig}

/-- The loop ends when every alias is new and every prompt is written; then all rows are there. -/
theorem addModels_entered (hrow : property gateway.providers id = .own row) :
    ((addModels modelRow ends id models gateway).2 = none ↔
      (models.map Prod.fst).Nodup ∧
        ∀ m ∈ models, property gateway.models m.1 = .missing ∧ ends.promptThrows m.1 = false) ∧
    ((addModels modelRow ends id models gateway).2 = none →
      (addModels modelRow ends id models gateway).1 = { gateway with
        models := models.foldl (fun models m => models.set m.1 (modelRow (some row.type) id m.2)) gateway.models }) := by
  induction models generalizing gateway with
  | nil => simp [addModels]
  | cons m models ih =>
    obtain ⟨modelAlias, modelId⟩ := m
    cases hproperty : property gateway.models modelAlias with
    | own _ => simp [addModels, applyAddModel, hrow, hproperty]
    | inherited => simp [addModels, applyAddModel, hrow, hproperty]
    | missing =>
      cases hprompt : ends.promptThrows modelAlias with
      | true => simp [addModels, applyAddModel, hrow, hproperty, hprompt]
      | false =>
        have hnext : addModels modelRow ends id ((modelAlias, modelId) :: models) gateway =
            addModels modelRow ends id models { gateway with
              models := gateway.models.set modelAlias (modelRow (some row.type) id modelId) } := by
          simp [addModels, applyAddModel, hrow, hproperty, hprompt]
        have hstep := @ih { gateway with
          models := gateway.models.set modelAlias (modelRow (some row.type) id modelId) } hrow
        rw [hnext]
        refine ⟨?_, hstep.2⟩
        -- new in the configuration with the first row: new before it, and not the first alias
        rw [hstep.1]
        simp only [property_set_missing, List.map_cons, List.nodup_cons, List.forall_mem_cons, hproperty, hprompt,
          and_self, true_and]
        constructor
        · rintro ⟨hnodup, hall⟩
          refine ⟨⟨?_, hnodup⟩, fun m hm => ⟨(hall m hm).1.2, (hall m hm).2⟩⟩
          intro hmem
          obtain ⟨m, hm, hsame⟩ := List.mem_map.mp hmem
          exact (hall m hm).1.1 hsame
        · rintro ⟨⟨hnew, hnodup⟩, hall⟩
          refine ⟨hnodup, fun m hm => ⟨⟨?_, (hall m hm).1⟩, (hall m hm).2⟩⟩
          intro hsame
          exact hnew (List.mem_map.mpr ⟨m, hm, hsame⟩)

/-- The loop leaves the providers alone, whatever happens. -/
theorem addModels_providers : (addModels modelRow ends id models gateway).1.providers = gateway.providers := by
  induction models generalizing gateway with
  | nil => rfl
  | cons m models ih =>
    obtain ⟨modelAlias, modelId⟩ := m
    unfold addModels
    cases hadd : applyAddModel modelRow gateway id modelAlias modelId with
    | error e => rfl
    | ok next =>
      have hproviders := applyAddModel_ok hadd
      dsimp only
      split
      · exact hproviders
      · rw [ih, hproviders]

/-- New rows go to the end. -/
theorem added_entries {value : String → GatewayModelConfig} {object : JsMap String GatewayModelConfig}
    (hnodup : (models.map Prod.fst).Nodup) (hnew : ∀ m ∈ models, property object m.1 = .missing) :
    (models.foldl (fun models m => models.set m.1 (value m.2)) object).entries =
      object.entries ++ models.map fun m => (m.1, value m.2) := by
  induction models generalizing object with
  | nil => simp
  | cons m models ih =>
    rw [List.map_cons, List.nodup_cons] at hnodup
    have hrest : ∀ n ∈ models, property (object.set m.1 (value m.2)) n.1 = .missing := by
      intro n hn
      refine property_set_missing.mpr ⟨?_, hnew n (List.mem_cons_of_mem m hn)⟩
      intro hsame
      exact hnodup.1 (List.mem_map.mpr ⟨n, hn, hsame⟩)
    rw [List.foldl_cons, ih hnodup.2 hrest, JsMap.set_of_get?_none _ (get?_of_missing (hnew m List.mem_cons_self))]
    simp

/-- Deleting the instance and its aliases gives back the configuration they were added to. -/
theorem restored_gateway {base : GatewayConfig} (hget : base.providers.get? id = none)
    (hnodup : (models.map Prod.fst).Nodup) (hnew : ∀ m ∈ models, property base.models m.1 = .missing)
    {value : String → GatewayModelConfig} (hproviders : gateway.providers = base.providers.set id row)
    (hmodels : gateway.models = models.foldl (fun models m => models.set m.1 (value m.2)) base.models) :
    (⟨gateway.providers.erase id, gateway.models.eraseAll (models.map Prod.fst)⟩ : GatewayConfig) = base := by
  have herased : gateway.providers.erase id = base.providers := by
    rw [hproviders]
    exact JsMap.erase_set _ hget
  have hfreed : gateway.models.eraseAll (models.map Prod.fst) = base.models := by
    rw [hmodels]
    exact JsMap.eraseAll_of_added (added_entries hnodup hnew) (by simp [Function.comp_def])
  rw [herased, hfreed]

/-- What the loop makes of the configuration, and what the deletions of the `catch` make of that. -/
structure Entering (modelRow : Option ProviderType → String → String → GatewayModelConfig)
    (ends : FileEnds γ) (base : GatewayConfig) (id : String) (row : ProviderRow) (models : List (String × String))
    (result : GatewayConfig × Option AddError) : Prop where
  ends_iff : result.2 = none ↔ (models.map Prod.fst).Nodup ∧
    ∀ m ∈ models, property base.models m.1 = .missing ∧ ends.promptThrows m.1 = false
  changed : result.1 ≠ base
  added : result.2 = none → result.1 = ⟨base.providers.set id row,
    models.foldl (fun models m => models.set m.1 (modelRow (some row.type) id m.2)) base.models⟩
  restored : result.2 = none →
    (⟨result.1.providers.erase id, result.1.models.eraseAll (models.map Prod.fst)⟩ : GatewayConfig) = base

theorem addModels_entering {base : GatewayConfig} (hget : base.providers.get? id = none) :
    Entering modelRow ends base id row models
      (addModels modelRow ends id models { base with providers := base.providers.set id row }) := by
  have hself : (base.providers.set id row).get? id = some row := JsMap.get?_set_self _ _ _
  have hrow : property (base.providers.set id row) id = .own row := property_of_get? hself
  obtain ⟨hends, hrows⟩ := @addModels_entered γ modelRow ends id row models
    { base with providers := base.providers.set id row } hrow
  have hproviders := @addModels_providers γ modelRow ends id models
    { base with providers := base.providers.set id row }
  refine ⟨hends, ?_, hrows, ?_⟩
  · intro heq
    rw [heq] at hproviders
    dsimp only at hproviders
    rw [← hproviders, hget] at hself
    cases hself
  · intro hnone
    have hentered := hends.mp hnone
    exact restored_gateway hget hentered.1 (fun m hm => (hentered.2 m hm).1) hproviders
      (congrArg GatewayConfig.models (hrows hnone))

end Models

/-! ## A call that fails -/

section Fails
variable {γ : Type} {secrets : GatewayConfig → EnvText → Option String}
  {modelRow : Option ProviderType → String → String → GatewayModelConfig} {render : CliConfig → γ} {ends : FileEnds γ}
  {world : World γ}

/-- The values that are set are of one line; the names are names of variables for a provider. -/
def Addition.Plain : Addition → Prop
  | .provider input => ∀ patch ∈ input.patches, IsEnvName patch.key ∧ ∀ v ∈ patch.value, SingleLine v
  | .client input => SingleLine input.gatewayKey.toList

/-- A removal is of a variable that was set. -/
theorem mem_cleanup {input : AddProviderInput} {patch : EnvPatch} (h : patch ∈ input.cleanup) :
    patch.value = none ∧ ∃ set ∈ input.patches, set.key = patch.key := by
  obtain rfl | h := List.mem_cons.mp h
  · exact ⟨rfl, _, List.mem_cons_self, rfl⟩
  · obtain ⟨ref, href, rfl⟩ := List.mem_map.mp h
    exact ⟨rfl, _, List.mem_cons_of_mem _ (List.mem_map.mpr ⟨ref, href, rfl⟩), rfl⟩

theorem provider_plain {input : AddProviderInput} (hplain : (Addition.provider input).Plain) :
    ∀ patch ∈ input.patches ++ completed ends.removeVar input.cleanup,
      IsEnvName patch.key ∧ ∀ v ∈ patch.value, SingleLine v := by
  intro patch hpatch
  obtain hpatch | hpatch := List.mem_append.mp hpatch
  · exact hplain patch hpatch
  · obtain ⟨hvalue, set, hset, hkey⟩ := mem_cleanup (completed_subset hpatch)
    refine ⟨hkey ▸ (hplain set hset).1, ?_⟩
    intro v hv
    rw [hvalue] at hv
    cases hv

/-- What the `catch` makes of the patched `.env`. -/
theorem envKept_iff {addition : Addition} (hplain : addition.Plain) (env : EnvText) :
    SameVariables (runPatches ends.removeVar addition.cleanup (EnvPatch.applyAll addition.patches env)).1 env ↔
      addition.EnvKept ends.removeVar env := by
  rw [runPatches_eq]
  cases addition with
  | provider input =>
    have hpatches := @provider_plain γ ends input hplain
    have hkept := @keepsVariables_iff (input.patches ++ completed ends.removeVar input.cleanup)
      (List.append_ne_nil_of_left_ne_nil (List.cons_ne_nil _ _) _) (fun patch hpatch => (hpatches patch hpatch).1)
      (fun patch hpatch => (hpatches patch hpatch).2) env
    -- Patches and clean-up are one list of patches, as far as the clean-up gets.
    have happend : EnvPatch.applyAll (input.patches ++ completed ends.removeVar input.cleanup) env =
        EnvPatch.applyAll (completed ends.removeVar input.cleanup) (EnvPatch.applyAll input.patches env) :=
      List.foldl_append
    rw [happend] at hkept
    dsimp only [Addition.EnvKept, Addition.cleanup, Addition.patches]
    cases hleft : leftBehind ends.removeVar input.cleanup with
    | none =>
      rw [completed_eq hleft] at hkept ⊢
      exact hkept
    | some left =>
      cases left with
      | none => exact hkept
      | some left => exact Iff.rfl
  | client input =>
    unfold Addition.EnvKept Addition.cleanup Addition.patches
    cases hend : ends.removeVar 0 with
    | done =>
      simp only [leftBehind, hend]
      exact setAndRemoved_iff hplain env
    | thrown left =>
      simp only [leftBehind, completed, hend]
      cases left with
      | none => exact setOnly_iff hplain env
      | some left => exact Iff.rfl

/-- Past the entry in memory: the catch undoes it, and the rest is up to the files. -/
theorem commit_unchanged_iff {addition : Addition} {config : CliConfig} {patches cleanup : List EnvPatch} {allow : Bool}
    (hplain : addition.Plain) (hpatches : addition.patches = patches) (hcleanup : addition.cleanup = cleanup)
    (hallow : addition.allowMissingProviderSecrets = allow)
    (hconfig : config = addition.added modelRow world.config) (hadded : config ≠ world.config)
    (hentered : addition.Entered ends.promptThrows world.config)
    (hfails : (commit secrets render ends { world with config := config } patches cleanup world.config allow).2 ≠ none) :
    Unchanged world
        (commit secrets render ends { world with config := config } patches cleanup world.config allow).1 ↔
      addition.RolledBack secrets modelRow ends world := by
  subst hpatches hcleanup hallow hconfig
  cases hset : leftBehind ends.setVar addition.patches with
  | some left =>
    -- outside the `try`: the entry stays
    have hkept := @commit_unset γ secrets render ends
      { world with config := addition.added modelRow world.config } addition.patches addition.cleanup world.config
      addition.allowMissingProviderSecrets left hset
    constructor
    · intro h
      exact absurd (hkept.symm.trans h.1) hadded
    · intro h
      cases hset.symm.trans h.set
  | none =>
    -- the configuration is back, so the files decide
    obtain ⟨hrestored, hyaml, henv⟩ := commit_failed hset hfails
    have hvariables := @envKept_iff γ ends addition hplain world.env
    unfold Unchanged
    rw [hrestored, hyaml, henv, hvariables]
    constructor
    · intro h
      exact ⟨hentered, hset, h.2.1, h.2.2⟩
    · intro h
      exact ⟨rfl, h.yaml, h.env⟩

theorem addProvider_unchanged_iff {input : AddProviderInput} (hplain : (Addition.provider input).Plain)
    (hfails : (applyAddProvider secrets modelRow render ends world input).2 ≠ none) :
    Unchanged world (applyAddProvider secrets modelRow render ends world input).1 ↔
      (Addition.provider input).TurnedAway world.config ∨
        (Addition.provider input).RolledBack secrets modelRow ends world := by
  have hsame : Unchanged world world := ⟨rfl, rfl, fun _ _ => rfl⟩
  unfold applyAddProvider at hfails ⊢
  cases hproperty : property world.config.gateway.providers input.id with
  | own row =>
    simp only [hproperty]
    exact iff_of_true hsame (.inl (.inl (by simp [hproperty])))
  | inherited =>
    simp only [hproperty]
    exact iff_of_true hsame (.inl (.inl (by simp [hproperty])))
  | missing =>
    simp only [hproperty] at hfails ⊢
    by_cases hnone : (!hasModelsForInstance world.config.gateway input.id && input.models.isEmpty) = true
    · rw [if_pos hnone]
      refine iff_of_true hsame (.inl (.inr ?_))
      simpa using hnone
    · rw [if_neg hnone] at hfails ⊢
      have hstays : ¬ (Addition.provider input).TurnedAway world.config := by
        simpa [Addition.TurnedAway, hproperty] using hnone
      rw [or_iff_right hstays]
      have hentering := @addModels_entering γ modelRow ends input.id input.row input.models world.config.gateway
        (get?_of_missing hproperty)
      cases hadd : addModels modelRow ends input.id input.models
          { world.config.gateway with providers := world.config.gateway.providers.set input.id input.row } with
      | mk gateway error =>
        rw [hadd] at hentering
        have hconfig : { world.config with gateway := gateway } ≠ world.config := by
          intro heq
          exact hentering.changed (congrArg CliConfig.gateway heq)
        simp only [hadd] at hfails ⊢
        cases error with
        | some e =>
          -- an alias is taken, or a prompt is not written: the instance stays in memory
          constructor
          · intro h
            exact absurd h.1 hconfig
          · intro h
            cases hentering.ends_iff.mpr h.entered
        | none =>
          have hadded : { world.config with gateway := gateway } =
              (Addition.provider input).added modelRow world.config :=
            congrArg (fun gateway => { world.config with gateway := gateway }) (hentering.added rfl)
          have hrestored := hentering.restored rfl
          dsimp only at hfails hrestored ⊢
          rw [hrestored] at hfails ⊢
          exact commit_unchanged_iff hplain rfl rfl rfl hadded hconfig (hentering.ends_iff.mp rfl) hfails

theorem addClient_unchanged_iff {input : AddClientInput} (hplain : (Addition.client input).Plain)
    (hfails : (applyAddClient secrets render ends world input).2 ≠ none) :
    Unchanged world (applyAddClient secrets render ends world input).1 ↔
      (Addition.client input).TurnedAway world.config ∨
        (Addition.client input).RolledBack secrets modelRow ends world := by
  have hsame : Unchanged world world := ⟨rfl, rfl, fun _ _ => rfl⟩
  unfold applyAddClient at hfails ⊢
  cases hproperty : property world.config.clients input.id with
  | own row => exact iff_of_true hsame (.inl (by simp [Addition.TurnedAway, hproperty]))
  | inherited => exact iff_of_true hsame (.inl (by simp [Addition.TurnedAway, hproperty]))
  | missing =>
    simp only [hproperty] at hfails ⊢
    have hstays : ¬ (Addition.client input).TurnedAway world.config := by
      simp [Addition.TurnedAway, hproperty]
    rw [or_iff_right hstays]
    have hget := get?_of_missing hproperty
    have hrestored : { world.config with clients := (world.config.clients.set input.id input.row).erase input.id } =
        world.config := by
      rw [JsMap.erase_set _ hget]
    have hconfig : { world.config with clients := world.config.clients.set input.id input.row } ≠ world.config := by
      intro heq
      have hclients := congrArg CliConfig.clients heq
      rw [← hclients, JsMap.get?_set_self] at hget
      cases hget
    rw [hrestored] at hfails ⊢
    exact commit_unchanged_iff hplain rfl rfl rfl rfl hconfig trivial hfails

end Fails

/-- A call that fails leaves everything as it was exactly when it is turned away at once or is
rolled back. -/
theorem add_atomic_iff {γ : Type} (secrets : GatewayConfig → EnvText → Option String)
    (modelRow : Option ProviderType → String → String → GatewayModelConfig) (render : CliConfig → γ)
    (ends : FileEnds γ) (world : World γ) (addition : Addition) (hplain : addition.Plain)
    (hfails : (addition.apply secrets modelRow render ends world).2 ≠ none) :
    Unchanged world (addition.apply secrets modelRow render ends world).1 ↔
      addition.TurnedAway world.config ∨ addition.RolledBack secrets modelRow ends world := by
  cases addition with
  | provider input => exact addProvider_unchanged_iff hplain hfails
  | client input => exact addClient_unchanged_iff hplain hfails

/-! ## A key that is lost -/

/-- `assertEnabledProviderApiKeysPresent`, of the variables in `.env`. -/
def missingEnabledKey (gateway : GatewayConfig) (env : EnvText) : Option String :=
  (gateway.providers.entries.find? fun (_, row) => row.enabled && !isOpenAiProviderType row.type &&
    (getVar env row.apiKeyRef).all fun key => JsString.trim (String.ofList key) = "").map fun (id, row) =>
      "[GatewayConfig] Missing API key for enabled provider instance \"" ++ id ++ "\" (expected non-empty env " ++
        row.apiKeyRef ++ ")"

/-- `oneClient` and its files; the provider has no key. -/
def oneClientWorld : World CliConfig := ⟨oneClient.config, some oneClient.config, oneClient.env⟩

/-- A client with a variable of its own is refused and leaves nothing. -/
theorem failed_client_leaves_nothing :
    Unchanged oneClientWorld
      ((Addition.client (newClient "ide" "gw_ide")).apply missingEnabledKey plainModelRow id workingFiles
        oneClientWorld).1 := by
  refine (add_atomic_iff missingEnabledKey plainModelRow id workingFiles oneClientWorld
    (.client (newClient "ide" "gw_ide")) ?_ ?_).mpr (.inr ⟨trivial, rfl, fun _ _ _ => trivial, ?_⟩)
  · show SingleLine "gw_ide".toList
    decide
  · decide +kernel
  · exact setAndRemoved_of_absent (by decide) (by decide) (by decide) _

/-- `web_app` gets the variable of `web-app` and is refused: the key of `web-app` is gone. -/
theorem failed_client_deletes_key :
    ¬ ∀ (secrets : GatewayConfig → EnvText → Option String)
        (modelRow : Option ProviderType → String → String → GatewayModelConfig) (ends : FileEnds CliConfig)
        (world : World CliConfig) (addition : Addition),
        (addition.apply secrets modelRow id ends world).2 ≠ none →
      Unchanged world (addition.apply secrets modelRow id ends world).1 := by
  intro hclaim
  have hkept := hclaim missingEnabledKey plainModelRow workingFiles oneClientWorld (.client (newClient "web_app" "gw_new"))
    (by decide +kernel)
  have hkey := hkept.2.2 "GATEWAY_KEY_WEB_APP" (by decide)
  exact absurd hkey (by decide +kernel)

end AiGateway.Cli.Adding
