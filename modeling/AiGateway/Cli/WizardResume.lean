import AiGateway.Cli.WizardState
import AiGateway.Lib.StepLog

/- `runInitWizard` over several starts of the command: a run executes the steps of
   `WIZARD_INIT_STEPS` one after another and saves the session after each; a run that finds a
   saved session goes on with the steps that are not recorded as completed. A run can end at
   any step: the process is killed, or the prompt throws and the session is saved as it is.

   The steps done are always a first part of the list, and the saved session shows the answers
   that a run without an interruption would have by then (`Progress`), up to the empty texts
   that a reload drops, which `buildResult` does not show. So whatever the interruptions, the
   run that ends at last returns what one run from the start returns, and every step was
   completed once and not executed again (`resumed_eq_uninterrupted`). -/
namespace AiGateway.Cli.Wizard

open StepLog (Execution Covers NeverAgain completedSteps pending)

/-! ## The steps -/

/-- What the prompts return: rate limits, ports and URLs have passed `asRateLimitRps`, `asPort` and
the like there, and `promptMasterKey` returns what was typed unless it is blank, else a generated
key. The models are asked for by the id and the type of each provider. -/
structure Answers where
  masterKey : {key : String // key ≠ ""}
  providers : List (CliAiProvider BaseUrl)
  models : List (String × ProviderType) → List CliAiModel
  clients : List (GatewayClient AtLeastOne)
  serverConfig : ServerConfigPromptResult Port

abbrev Data := WizardData BaseUrl AtLeastOne Port

/-- The `switch` of `executeStep`; `none` is the `TypeError` of a prompt for the models of
providers that are not there. -/
def answerStep (answers : Answers) (step : WizardStep) (data : Data) : Option Data :=
  match step with
  | .masterKey => some { data with masterKey := some answers.masterKey }
  | .providers => some { data with providers := some answers.providers }
  | .models => data.providers.map fun providers =>
      { data with models := some (answers.models (providers.map fun p => (p.id, p.type))) }
  | .clients => some { data with clients := some answers.clients }
  | .serverConfig => some { data with serverConfig := some answers.serverConfig }
  | .writeFiles | .complete => some data

/-- How a step ends in one run. -/
inductive StepEnd where
  /-- The process is killed before the step begins. -/
  | notReached
  /-- The process is killed at the prompt. -/
  | killed
  /-- The prompt throws. -/
  | thrown
  /-- The prompt is answered and `saveState` throws; the `catch` block saves again. -/
  | savedLate
  | answered
  deriving DecidableEq, Repr

/-- One start of the command. -/
structure Attempt where
  sessionId : String
  startedAt : String
  /-- The answer to `Resume?`. -/
  resume : Bool
  ends : WizardStep → StepEnd

/-- The session of a run from the start. -/
def Attempt.session (attempt : Attempt) : Session :=
  { sessionId := attempt.sessionId, startedAt := attempt.startedAt }

/-- A start at which every prompt is answered. -/
def Attempt.answered (sessionId startedAt : String) : Attempt := ⟨sessionId, startedAt, true, fun _ => .answered⟩

/-- What outlives a run: the directory, and which steps were executed. -/
structure World where
  files : Files
  executions : List (Execution WizardStep) := []

/-- A run under way. -/
structure Run where
  session : Session
  world : World

def Run.save (r : Run) : Run :=
  { r with world := { r.world with files := r.world.files.write stateFile (saveState r.session) } }

def Run.executed (r : Run) (step : WizardStep) (completed : Bool) : Run :=
  { r with world := { r.world with executions := r.world.executions ++ [⟨step, completed⟩] } }

/-- The step in the session: `currentStep` and, when it is completed, `completedSteps` and the answers. -/
def Run.asked (r : Run) (step : WizardStep) : Run :=
  { r with session := { r.session with toWizardState := r.session.toWizardState.executeStep step false } }

def Run.answered (r : Run) (step : WizardStep) (data : Data) : Run :=
  { r with session := { r.session with toWizardState := r.session.toWizardState.executeStep step true, data := data } }

inductive Stop where
  | killed | thrown
  deriving DecidableEq, Repr

section Runs
variable (answers : Answers) (ends : WizardStep → StepEnd)

/-- The `catch` block: the session is saved and the error thrown on. -/
def stepThrown (r : Run) : Except (Stop × Run) Run := .error (.thrown, r.save)

def executeStep (step : WizardStep) (r : Run) : Except (Stop × Run) Run :=
  let failed := (r.asked step).executed step false
  match ends step with
  | .notReached => .error (.killed, r)
  | .killed => .error (.killed, failed)
  | .thrown => stepThrown failed
  | .savedLate | .answered =>
    match answerStep answers step r.session.data with
    | none => stepThrown failed
    | some data =>
      let completed := (r.answered step data).executed step true
      if ends step = .savedLate then stepThrown completed else .ok completed.save

/-- `for (const step of steps) { await this.executeStep(state, step); }`. -/
def executeSteps : List WizardStep → Run → Except (Stop × Run) Run
  | [], r => .ok r
  | step :: rest, r => do
    let r ← executeStep answers ends step r
    executeSteps rest r

end Runs

/-! ## The result -/

structure ProviderCli where
  apiKeyRef : String
  apiKey : String
  type : ProviderType
  baseUrlRef : Option String
  baseUrl : Option BaseUrl
  deriving DecidableEq

structure ClientCli where
  gatewayKeyRef : String
  gatewayKey : String
  deriving DecidableEq

structure EnvTemplateInput where
  masterKeyRef : String
  masterKey : Option String
  providers : List ProviderCli
  clients : List ClientCli
  port : Port
  nodeEnv : String
  swaggerEnabled : Option Bool
  cacheEnabled : Option Bool
  cacheBackend : Option CacheBackend
  redisHost : Option String
  redisPort : Option Port
  redisPassword : Option String
  rateLimitSmartEnabled : Option Bool
  semanticCacheEnabled : Option Bool
  metricsBackend : Option MetricsBackend
  sentryDsn : Option String
  deriving DecidableEq

structure ConfigProvider where
  id : String
  type : ProviderType
  apiKeyRef : String
  enabled : Bool
  baseUrlRef : Option String
  deriving DecidableEq

structure ConfigClient where
  id : String
  name : String
  type : GatewayClientType
  gatewayKeyRef : String
  rateLimit : Option (CliRateLimit AtLeastOne)
  deriving DecidableEq

structure ConfigTemplateInput where
  masterKeyRef : String
  providers : List ConfigProvider
  clients : List ConfigClient
  models : List CliAiModel
  envInput : EnvTemplateInput
  deriving DecidableEq

/-- What `buildResult` returns. -/
structure WizardInputs where
  configInput : ConfigTemplateInput
  envInput : EnvTemplateInput
  deriving DecidableEq

structure WizardRunResult extends WizardInputs where
  wizardState : Session

/-- A provider in `envInput`; an empty `baseUrlRef` spreads nothing. -/
def CliAiProvider.forEnv (p : CliAiProvider BaseUrl) : ProviderCli where
  apiKeyRef := p.apiKeyRef
  apiKey := p.apiKey
  type := p.type
  baseUrlRef := nonEmpty p.baseUrlRef
  baseUrl := if (nonEmpty p.baseUrlRef).isSome then p.baseUrl else none

/-- A provider in `configInput`. -/
def CliAiProvider.forConfig (p : CliAiProvider BaseUrl) : ConfigProvider where
  id := p.id
  type := p.type
  apiKeyRef := p.apiKeyRef
  enabled := p.enabled != some false
  baseUrlRef := nonEmpty p.baseUrlRef

/-- `buildResult`; `none` is the `TypeError` of an answer that is not there. -/
def buildResult (data : Data) : Option WizardInputs := do
  let serverConfig ← data.serverConfig
  let providers ← data.providers
  let clients ← data.clients
  let models ← data.models
  let envInput : EnvTemplateInput :=
    { masterKeyRef := "MASTER_KEY"
      masterKey := data.masterKey
      providers := providers.map CliAiProvider.forEnv
      clients := clients.map fun c => ⟨c.gatewayKeyRef, c.gatewayKey⟩
      port := serverConfig.port
      nodeEnv := serverConfig.nodeEnv
      swaggerEnabled := serverConfig.swaggerEnabled
      cacheEnabled := serverConfig.cacheEnabled
      cacheBackend := serverConfig.cacheBackend
      redisHost := serverConfig.redisHost
      redisPort := serverConfig.redisPort
      redisPassword := serverConfig.redisPassword
      rateLimitSmartEnabled := serverConfig.rateLimitSmartEnabled
      semanticCacheEnabled := serverConfig.semanticCacheEnabled
      metricsBackend := serverConfig.metricsBackend
      sentryDsn := serverConfig.sentryDsn }
  some
    { configInput :=
        { masterKeyRef := "MASTER_KEY"
          providers := providers.map CliAiProvider.forConfig
          clients := clients.map fun c => ⟨c.id, c.name, c.type, c.gatewayKeyRef, c.rateLimit⟩
          models := models
          envInput := envInput }
      envInput := envInput }

/-! ## The command -/

inductive RunEnd where
  | returned (result : WizardRunResult)
  | thrown
  | killed

section Wizard
variable (answers : Answers) (attempt : Attempt)

/-- A run that goes on with a saved session. -/
def resumeWizard (state : Session) (w : World) : RunEnd × World :=
  match executeSteps answers attempt.ends (pending WIZARD_INIT_STEPS state.completedSteps) ⟨state, w⟩ with
  | .error (.killed, r) => (.killed, r.world)
  | .error (.thrown, r) => (.thrown, r.world)
  | .ok r =>
    match buildResult r.session.data with
    | none => (.thrown, r.world)
    | some inputs => (.returned ⟨inputs, r.session⟩, r.world)

/-- A run from the start; its `catch` block saves the session once more. -/
def startWizard (w : World) : RunEnd × World :=
  match executeSteps answers attempt.ends WIZARD_INIT_STEPS ⟨attempt.session, w⟩ with
  | .error (.killed, r) => (.killed, r.world)
  | .error (.thrown, r) => (.thrown, r.save.world)
  | .ok r =>
    match buildResult r.session.data with
    | none => (.thrown, r.save.world)
    | some inputs => (.returned ⟨inputs, r.session⟩, r.world)

def runInitWizard (w : World) : RunEnd × World :=
  match loadState (w.files stateFile) with
  | .error _ => (.thrown, w)
  | .ok none => startWizard answers attempt w
  | .ok (some existing) =>
    if attempt.resume then resumeWizard answers attempt existing w
    else startWizard answers attempt { w with files := rollback w.files existing.files }

end Wizard

/-- The command started again and again. -/
def runAttempts (answers : Answers) (attempts : List Attempt) (w : World) : World :=
  attempts.foldl (fun w attempt => (runInitWizard answers attempt w).2) w

/-! ## What the answers show after a reload -/

/-- What `buildResult` shows of the answers: an empty `baseUrlRef` is a missing one. -/
def WizardData.shown (d : Data) : Data :=
  { d with providers := d.providers.map (·.map CliAiProvider.reloaded) }

theorem nonEmpty_nonEmpty (o : Option String) : nonEmpty (nonEmpty o) = nonEmpty o := by
  simp [nonEmpty, Option.filter_filter]

theorem reloaded_reloaded (p : CliAiProvider BaseUrl) : p.reloaded.reloaded = p.reloaded := by
  simp only [CliAiProvider.reloaded, nonEmpty_nonEmpty]

theorem shown_reloaded {d : Data} (h : nonEmpty d.masterKey = d.masterKey) : d.reloaded.shown = d.shown := by
  simp [WizardData.reloaded, WizardData.shown, h, Option.map_map, Function.comp_def, reloaded_reloaded]

theorem buildResult_shown (d : Data) : buildResult d.shown = buildResult d := by
  have henv : ∀ p : CliAiProvider BaseUrl, p.reloaded.forEnv = p.forEnv := by
    intro p
    simp only [CliAiProvider.forEnv, CliAiProvider.reloaded, nonEmpty_nonEmpty]
  have hconfig : ∀ p : CliAiProvider BaseUrl, p.reloaded.forConfig = p.forConfig := by
    intro p
    simp only [CliAiProvider.forConfig, CliAiProvider.reloaded, nonEmpty_nonEmpty]
  cases hproviders : d.providers <;>
    simp [buildResult, WizardData.shown, hproviders, henv, hconfig, Function.comp_def]

/-- The models are asked for by what a reload leaves alone. -/
theorem asked_providers {d e : Data} (h : d.shown = e.shown) :
    d.providers.map (·.map fun p => (p.id, p.type)) = e.providers.map (·.map fun p => (p.id, p.type)) := by
  -- a reload changes neither the id nor the type
  have hasked : ∀ c : Data, c.providers.map (·.map fun p => (p.id, p.type)) =
      c.shown.providers.map (·.map fun p => (p.id, p.type)) := by
    intro c
    simp [WizardData.shown, Option.map_map, Function.comp_def, CliAiProvider.reloaded]
  rw [hasked d, hasked e, h]

/-- A step goes on from what is shown of the answers before it. -/
theorem answerStep_shown (answers : Answers) (step : WizardStep) {d e : Data} (h : d.shown = e.shown) :
    (answerStep answers step d).map WizardData.shown = (answerStep answers step e).map WizardData.shown := by
  have hmasterKey : d.masterKey = e.masterKey := (congrArg WizardData.masterKey h :)
  have hproviders : d.providers.map (·.map CliAiProvider.reloaded) = e.providers.map (·.map CliAiProvider.reloaded) :=
    congrArg WizardData.providers h
  have hmodels : d.models = e.models := (congrArg WizardData.models h :)
  have hclients : d.clients = e.clients := (congrArg WizardData.clients h :)
  have hserver : d.serverConfig = e.serverConfig := (congrArg WizardData.serverConfig h :)
  cases step with
  | models =>
    -- the one step that reads an earlier answer
    have hanswered : ∀ c : Data, (answerStep answers .models c).map WizardData.shown =
        (c.providers.map (·.map fun p => (p.id, p.type))).map fun asked =>
          { c.shown with models := some (answers.models asked) } := by
      intro c
      simp [answerStep, WizardData.shown, Option.map_map, Function.comp_def]
    rw [hanswered, hanswered, asked_providers h, h]
  | masterKey | providers | clients | serverConfig | writeFiles | complete =>
    simp only [answerStep, WizardData.shown, Option.map_some, hmasterKey, hproviders, hmodels, hclients, hserver]

/-! ## Where a run has got to -/

/-- The answers after these steps in a run without an interruption. -/
def dataAfter (answers : Answers) (done : List WizardStep) : Option Data :=
  done.foldlM (fun data step => answerStep answers step data) {}

/-- The answers to all the questions. -/
def allAnswers (answers : Answers) : Data where
  masterKey := some answers.masterKey
  providers := some answers.providers
  models := some (answers.models (answers.providers.map fun p => (p.id, p.type)))
  clients := some answers.clients
  serverConfig := some answers.serverConfig

/-- The session has these steps completed, and what it shows is what a run without an
interruption has by then. -/
structure Progress (answers : Answers) (done : List WizardStep) (s : Session) : Prop where
  steps : s.completedSteps = done
  saved : WizardState.Saved s.toWizardState
  shown : ∃ data, dataAfter answers done = some data ∧ data.shown = s.data.shown

/-- There is nothing saved and nothing done, or the state file holds a session that has got this far. -/
def Stored (answers : Answers) (done : List WizardStep) (files : Files) : Prop :=
  (files stateFile = none ∧ done = []) ∨ ∃ s, files stateFile = some (saveState s) ∧ Progress answers done s

/-- What the runs so far have left behind. -/
structure Reached (answers : Answers) (done : List WizardStep) (w : World) : Prop where
  covers : Covers done w.executions
  stored : Stored answers done w.files

/-- The same of a run under way. -/
structure At (answers : Answers) (done : List WizardStep) (r : Run) : Prop where
  progress : Progress answers done r.session
  reached : Reached answers done r.world

section Steps
variable {answers : Answers} {done rest : List WizardStep} {step : WizardStep}

theorem dataAfter_all : dataAfter answers WIZARD_INIT_STEPS = some (allAnswers answers) := rfl

theorem dataAfter_append (done rest : List WizardStep) :
    dataAfter answers (done ++ rest) =
      (dataAfter answers done).bind (rest.foldlM fun data step => answerStep answers step data) := by
  rw [dataAfter, List.foldlM_append]
  rfl

theorem nonEmpty_masterKey (answers : Answers) :
    nonEmpty (some answers.masterKey.val) = some answers.masterKey.val := by
  simp [nonEmpty, answers.masterKey.property]

theorem answerStep_masterKey {data data' : Data} (hdata : nonEmpty data.masterKey = data.masterKey)
    (h : answerStep answers step data = some data') : nonEmpty data'.masterKey = data'.masterKey := by
  cases step with
  | masterKey => cases h; exact nonEmpty_masterKey answers
  | models =>
    obtain ⟨providers, -, rfl⟩ := Option.map_eq_some_iff.mp h
    exact hdata
  | providers | clients | serverConfig | writeFiles | complete => cases h; exact hdata

/-- No run records an empty master key. -/
theorem dataAfter_masterKey {data : Data} (h : dataAfter answers done = some data) :
    nonEmpty data.masterKey = data.masterKey := by
  induction done using List.reverseRecOn generalizing data with
  | nil => cases h; rfl
  | append_singleton done step ih =>
    rw [dataAfter_append] at h
    obtain ⟨before, hbefore, hstep⟩ := Option.bind_eq_some_iff.mp h
    have hstep : answerStep answers step before = some data := by simpa using hstep
    exact answerStep_masterKey (ih hbefore) hstep

theorem Progress.start (answers : Answers) (attempt : Attempt) : Progress answers [] attempt.session :=
  ⟨rfl, .new, {}, rfl, rfl⟩

/-- A session that is saved and loaded has got as far as before. -/
theorem Progress.reload {s : Session} (h : Progress answers done s) : Progress answers done s.reloaded := by
  obtain ⟨data, hdata, hshown⟩ := h.shown
  have hkey : data.masterKey = s.data.masterKey := (congrArg WizardData.masterKey hshown :)
  have hkept : nonEmpty s.data.masterKey = s.data.masterKey := hkey ▸ dataAfter_masterKey hdata
  exact ⟨h.steps, h.saved, data, hdata, hshown.trans (shown_reloaded hkept).symm⟩

theorem Progress.answer {r : Run} {data : Data} (h : Progress answers done r.session)
    (hdata : answerStep answers step r.session.data = some data) :
    Progress answers (done ++ [step]) (r.answered step data).session := by
  obtain ⟨before, hbefore, hshown⟩ := h.shown
  have hsame := answerStep_shown answers step hshown
  rw [hdata, Option.map_some, Option.map_eq_some_iff] at hsame
  obtain ⟨after, hafter, heq⟩ := hsame
  refine ⟨congrArg (· ++ [step]) h.steps, h.saved.step step true, after, ?_, heq⟩
  rw [dataAfter_append, hbefore]
  simpa using hafter

/-- The next step of the list has what it asks from. -/
theorem Progress.answerStep {s : Session} (h : Progress answers done s)
    (hsteps : done ++ step :: rest = WIZARD_INIT_STEPS) : ∃ data, answerStep answers step s.data = some data := by
  obtain ⟨before, hbefore, hshown⟩ := h.shown
  have hall : dataAfter answers (done ++ step :: rest) = some (allAnswers answers) := by
    rw [hsteps]
    exact dataAfter_all
  rw [dataAfter_append, hbefore, Option.bind_some, List.foldlM_cons] at hall
  obtain ⟨after, hafter, -⟩ := Option.bind_eq_some_iff.mp hall
  have hsame := answerStep_shown answers step hshown
  rw [hafter, Option.map_some] at hsame
  obtain ⟨data, hdata, -⟩ := Option.map_eq_some_iff.mp hsame.symm
  exact ⟨data, hdata⟩

theorem At.save {r : Run} (hprogress : Progress answers done r.session)
    (hcovers : Covers done r.world.executions) : At answers done r.save := by
  have hfile : r.save.world.files stateFile = some (saveState r.session) := by
    show r.world.files.write stateFile (saveState r.session) stateFile = _
    exact FileTree.write_self _
  exact ⟨hprogress, hcovers, .inr ⟨r.session, hfile, hprogress⟩⟩

theorem nodup_steps : WIZARD_INIT_STEPS.Nodup := by decide

theorem not_mem_done (hsteps : done ++ step :: rest = WIZARD_INIT_STEPS) : step ∉ done := by
  have hnodup := nodup_steps
  rw [← hsteps] at hnodup
  intro hmem
  exact List.disjoint_of_nodup_append hnodup hmem List.mem_cons_self

/-- One step: it is completed and saved, or the run ends before it, or after it when its save
was made up for. -/
theorem executeStep_cases (ends : WizardStep → StepEnd) {r : Run} (h : At answers done r)
    (hsteps : done ++ step :: rest = WIZARD_INIT_STEPS) :
    (∃ r', executeStep answers ends step r = .ok r' ∧ At answers (done ++ [step]) r') ∨
    (∃ stop r', executeStep answers ends step r = .error (stop, r') ∧ ends step ≠ .answered ∧
      (At answers done r' ∨ At answers (done ++ [step]) r')) := by
  have hnew := not_mem_done hsteps
  have hasked : Progress answers done (r.asked step).session :=
    ⟨h.progress.steps, h.progress.saved.step step false, h.progress.shown⟩
  have hfailed := h.reached.covers.failed hnew
  obtain ⟨data, hdata⟩ := h.progress.answerStep hsteps
  have hanswered := h.progress.answer hdata
  have hcompleted := h.reached.covers.succeeded hnew
  cases hend : ends step with
  | notReached =>
    refine .inr ⟨.killed, r, ?_, by simp, .inl h⟩
    simp [executeStep, hend]
  | killed =>
    -- what is saved is as old as before the step
    refine .inr ⟨.killed, (r.asked step).executed step false, ?_, by simp,
      .inl ⟨hasked, hfailed, h.reached.stored⟩⟩
    simp [executeStep, hend]
  | thrown =>
    refine .inr ⟨.thrown, ((r.asked step).executed step false).save, ?_, by simp,
      .inl (At.save hasked hfailed)⟩
    simp [executeStep, hend, stepThrown]
  | savedLate =>
    refine .inr ⟨.thrown, ((r.answered step data).executed step true).save, ?_, by simp,
      .inr (At.save hanswered hcompleted)⟩
    simp [executeStep, hend, hdata, stepThrown]
  | answered =>
    refine .inl ⟨((r.answered step data).executed step true).save, ?_, At.save hanswered hcompleted⟩
    simp [executeStep, hend, hdata]

/-- The steps that are left: all of them, or as many as there are answers for. -/
theorem executeSteps_cases (ends : WizardStep → StepEnd) {r : Run} (h : At answers done r)
    (hsteps : done ++ rest = WIZARD_INIT_STEPS) :
    (∃ r', executeSteps answers ends rest r = .ok r' ∧ At answers WIZARD_INIT_STEPS r') ∨
    (∃ stop r' done', executeSteps answers ends rest r = .error (stop, r') ∧ (∃ step, ends step ≠ .answered) ∧
      done' <+: WIZARD_INIT_STEPS ∧ At answers done' r') := by
  induction rest generalizing done r with
  | nil =>
    rw [List.append_nil] at hsteps
    exact .inl ⟨r, rfl, hsteps ▸ h⟩
  | cons step rest ih =>
    have hnext : (done ++ [step]) ++ rest = WIZARD_INIT_STEPS := by rw [← hsteps, List.append_assoc]; rfl
    obtain ⟨r', hstep, hat⟩ | ⟨stop, r', hstep, hend, hat⟩ := executeStep_cases ends h hsteps
    · have hrun : executeSteps answers ends (step :: rest) r = executeSteps answers ends rest r' := by
        rw [executeSteps, hstep]
        rfl
      rw [hrun]
      exact ih hat hnext
    · have hrun : executeSteps answers ends (step :: rest) r = .error (stop, r') := by
        rw [executeSteps, hstep]
        rfl
      obtain hat | hat := hat
      · exact .inr ⟨stop, r', done, hrun, ⟨step, hend⟩, ⟨step :: rest, hsteps⟩, hat⟩
      · exact .inr ⟨stop, r', done ++ [step], hrun, ⟨step, hend⟩, ⟨rest, hnext⟩, hat⟩

end Steps

/-! ## Whole runs -/

/-- How a run can end: with what a run without an interruption returns and every step done, or
at a step that was not answered, with some of them done. -/
inductive EndsRight (answers : Answers) (attempt : Attempt) : RunEnd × World → Prop
  | finished {result : WizardRunResult} {w : World}
      (hresult : buildResult (allAnswers answers) = some result.toWizardInputs)
      (hreached : Reached answers WIZARD_INIT_STEPS w) : EndsRight answers attempt (.returned result, w)
  | interrupted {e : RunEnd} {w : World} {done : List WizardStep} (hend : e = .thrown ∨ e = .killed)
      (hstep : ∃ step, attempt.ends step ≠ .answered) (hdone : done <+: WIZARD_INIT_STEPS)
      (hreached : Reached answers done w) : EndsRight answers attempt (e, w)

section Wizard
variable {answers : Answers} {attempt : Attempt} {done rest : List WizardStep}

/-- A run that has done every step has its result. -/
theorem At.result {r : Run} (h : At answers WIZARD_INIT_STEPS r) :
    ∃ inputs, buildResult r.session.data = some inputs ∧ buildResult (allAnswers answers) = some inputs := by
  obtain ⟨data, hdata, hshown⟩ := h.progress.shown
  rw [dataAfter_all] at hdata
  cases hdata
  have hsame : buildResult r.session.data = buildResult (allAnswers answers) := by
    calc buildResult r.session.data
        = buildResult r.session.data.shown := (buildResult_shown _).symm
      _ = buildResult (allAnswers answers).shown := by rw [hshown]
      _ = buildResult (allAnswers answers) := buildResult_shown _
  rw [hsame]
  exact ⟨_, rfl, rfl⟩

theorem resumeWizard_ends {s : Session} {w : World} (h : At answers done ⟨s, w⟩)
    (hsteps : done ++ rest = WIZARD_INIT_STEPS) : EndsRight answers attempt (resumeWizard answers attempt s w) := by
  have hpending : pending WIZARD_INIT_STEPS s.completedSteps = rest := by
    have hnodup := nodup_steps
    rw [← hsteps] at hnodup
    rw [h.progress.steps, ← hsteps, StepLog.pending_append hnodup]
  obtain ⟨r', hrun, hat⟩ | ⟨stop, r', done', hrun, hstep, hdone, hat⟩ :=
    executeSteps_cases attempt.ends h hsteps
  · obtain ⟨inputs, hresult, hinputs⟩ := hat.result
    simp only [resumeWizard, hpending, hrun, hresult]
    exact .finished hinputs hat.reached
  · cases stop with
    | killed =>
      simp only [resumeWizard, hpending, hrun]
      exact .interrupted (.inr rfl) hstep hdone hat.reached
    | thrown =>
      simp only [resumeWizard, hpending, hrun]
      exact .interrupted (.inl rfl) hstep hdone hat.reached

theorem startWizard_ends {w : World} (h : Reached answers [] w) :
    EndsRight answers attempt (startWizard answers attempt w) := by
  have hstart : At answers [] ⟨attempt.session, w⟩ := ⟨Progress.start answers attempt, h⟩
  obtain ⟨r', hrun, hat⟩ | ⟨stop, r', done', hrun, hstep, hdone, hat⟩ :=
    executeSteps_cases attempt.ends hstart (List.nil_append WIZARD_INIT_STEPS)
  · obtain ⟨inputs, hresult, hinputs⟩ := hat.result
    simp only [startWizard, hrun, hresult]
    exact .finished hinputs hat.reached
  · cases stop with
    | killed =>
      simp only [startWizard, hrun]
      exact .interrupted (.inr rfl) hstep hdone hat.reached
    | thrown =>
      simp only [startWizard, hrun]
      exact .interrupted (.inl rfl) hstep hdone (At.save hat.progress hat.reached.covers).reached

/-- One start of the command, wherever the earlier ones got to. -/
theorem runInitWizard_ends (attempt : Attempt) {w : World} (h : Reached answers done w)
    (hdone : done <+: WIZARD_INIT_STEPS) (hresume : attempt.resume = true) : EndsRight answers attempt (runInitWizard answers attempt w) := by
  obtain ⟨rest, hsteps⟩ := hdone
  obtain ⟨hnone, rfl⟩ | ⟨s, hsaved, hprogress⟩ := h.stored
  · have hload : loadState (w.files stateFile) = .ok none := by
      rw [hnone]
      rfl
    simp only [runInitWizard, hload]
    exact startWizard_ends h
  · have hload : loadState (w.files stateFile) = .ok (some s.reloaded) := by
      rw [hsaved]
      exact loadState_saveState s
    simp only [runInitWizard, hload, hresume, if_true]
    exact resumeWizard_ends ⟨hprogress.reload, h⟩ hsteps

theorem EndsRight.reached {e : RunEnd × World} (h : EndsRight answers attempt e) :
    ∃ done, done <+: WIZARD_INIT_STEPS ∧ Reached answers done e.2 := by
  cases h with
  | finished _ hreached => exact ⟨WIZARD_INIT_STEPS, List.prefix_refl _, hreached⟩
  | interrupted _ _ hdone hreached => exact ⟨_, hdone, hreached⟩

/-- A run whose prompts are all answered returns. -/
theorem EndsRight.returned {sessionId startedAt : String} {e : RunEnd × World}
    (h : EndsRight answers (.answered sessionId startedAt) e) :
    ∃ result, e.1 = .returned result ∧ buildResult (allAnswers answers) = some result.toWizardInputs ∧
      Reached answers WIZARD_INIT_STEPS e.2 := by
  cases h with
  | finished hresult hreached => exact ⟨_, rfl, hresult, hreached⟩
  | interrupted _ hstep _ _ =>
    -- no step of it is left unanswered
    obtain ⟨step, hstep⟩ := hstep
    exact absurd rfl hstep

/-- Any number of starts of the command. -/
theorem runAttempts_reached {attempts : List Attempt} (hresume : ∀ attempt ∈ attempts, attempt.resume = true)
    {w : World} (h : Reached answers done w) (hdone : done <+: WIZARD_INIT_STEPS) :
    ∃ done', done' <+: WIZARD_INIT_STEPS ∧ Reached answers done' (runAttempts answers attempts w) := by
  induction attempts generalizing done w with
  | nil => exact ⟨done, hdone, h⟩
  | cons attempt attempts ih =>
    have hone := runInitWizard_ends attempt h hdone (hresume attempt List.mem_cons_self)
    obtain ⟨done', hdone', hreached⟩ := hone.reached
    exact ih (fun a ha => hresume a (List.mem_cons_of_mem attempt ha)) hreached hdone'

/-- A session that a start of the command finds is one that the steps made of a new one. -/
theorem Reached.saved {w : World} (h : Reached answers done w) {s : Session}
    (hload : loadState (w.files stateFile) = .ok (some s)) : WizardState.Saved s.toWizardState := by
  obtain ⟨hnone, -⟩ | ⟨saved, hsaved, hprogress⟩ := h.stored
  · rw [hnone] at hload
    cases hload
  · rw [hsaved, loadState_saveState] at hload
    cases hload
    exact hprogress.saved

theorem reached_start {files : Files} (hfiles : files stateFile = none) : Reached answers [] ⟨files, []⟩ :=
  ⟨StepLog.covers_nil, .inl ⟨hfiles, rfl⟩⟩

/-- What `config:init` may assume of a session it finds: the steps made it of a new one. -/
theorem session_saved {files : Files} (hfiles : files stateFile = none) {attempts : List Attempt}
    (hresume : ∀ attempt ∈ attempts, attempt.resume = true) {s : Session}
    (hload : loadState ((runAttempts answers attempts ⟨files, []⟩).files stateFile) = .ok (some s)) :
    WizardState.Saved s.toWizardState := by
  obtain ⟨done, -, hreached⟩ := runAttempts_reached hresume (reached_start hfiles) List.nil_prefix
  exact hreached.saved hload

end Wizard

/-- However often the command is cut short and started again, the run that gets to the end
returns what one run without an interruption returns; by then every step was completed once, in
order, and none was executed again after that. -/
theorem resumed_eq_uninterrupted (answers : Answers) (files : Files) (hfiles : files stateFile = none)
    (attempts : List Attempt) (hresume : ∀ attempt ∈ attempts, attempt.resume = true)
    (lastId lastStart onceId onceStart : String) :
    let last := runInitWizard answers (.answered lastId lastStart) (runAttempts answers attempts ⟨files, []⟩)
    let once := runInitWizard answers (.answered onceId onceStart) ⟨files, []⟩
    ∃ resumed uninterrupted, last.1 = .returned resumed ∧ once.1 = .returned uninterrupted ∧
      resumed.configInput = uninterrupted.configInput ∧ resumed.envInput = uninterrupted.envInput ∧
      completedSteps last.2.executions = WIZARD_INIT_STEPS ∧ NeverAgain last.2.executions := by
  have hstart : Reached answers [] ⟨files, []⟩ := reached_start hfiles
  obtain ⟨done, hdone, hreached⟩ := runAttempts_reached hresume hstart List.nil_prefix
  have hlast := runInitWizard_ends (.answered lastId lastStart) hreached hdone rfl
  have honce := runInitWizard_ends (.answered onceId onceStart) hstart List.nil_prefix rfl
  obtain ⟨resumed, hresumed, hlastResult, hall⟩ := hlast.returned
  obtain ⟨uninterrupted, huninterrupted, honceResult, -⟩ := honce.returned
  rw [hlastResult, Option.some.injEq] at honceResult
  exact ⟨resumed, uninterrupted, hresumed, huninterrupted, congrArg WizardInputs.configInput honceResult,
    congrArg WizardInputs.envInput honceResult, hall.covers.completed, hall.covers.never_again⟩

theorem natNumber_atLeastOne {n : ℕ} (h : 1 ≤ n) :
    (Json.natNumber n).value.den = 1 ∧ 1 ≤ (Json.natNumber n).value := by
  rw [Json.natNumber_value]
  exact ⟨Rat.den_natCast n, by exact_mod_cast h⟩

theorem natNumber_port {n : ℕ} (h : 1 ≤ n) (hle : n ≤ 65535) :
    (Json.natNumber n).value.den = 1 ∧ 1 ≤ (Json.natNumber n).value ∧ (Json.natNumber n).value ≤ 65535 := by
  refine ⟨(natNumber_atLeastOne h).1, (natNumber_atLeastOne h).2, ?_⟩
  rw [Json.natNumber_value]
  exact_mod_cast hle

/-- A provider whose `baseUrlRef` is empty, one client with a rate limit, Redis behind the cache. -/
def sampleAnswers : Answers where
  masterKey := ⟨"secret", by decide⟩
  providers :=
    [{ id := "llama", type := .openaiCompatible, apiKeyRef := "LLAMA_API_KEY", apiKey := "", enabled := none
       baseUrlRef := some "", baseUrl := none, apiSurface := none }]
  models := fun providers => providers.map fun p => ⟨"chat", p.1, "llama3.2"⟩
  clients :=
    [{ id := "webapp", name := "Web app", type := .webapp, gatewayKeyRef := "GATEWAY_KEY_WEBAPP", gatewayKey := "gw"
       rateLimit := some
        { rps := ⟨Json.natNumber 10, natNumber_atLeastOne (by decide)⟩
          burst := ⟨Json.natNumber 20, natNumber_atLeastOne (by decide)⟩
          maxConcurrentStreams := none } }]
  serverConfig :=
    { port := ⟨Json.natNumber 3000, natNumber_port (by decide) (by decide)⟩
      nodeEnv := "development", swaggerEnabled := some true, cacheEnabled := some true, cacheBackend := some .redis
      redisHost := some "localhost"
      redisPort := some ⟨Json.natNumber 6379, natNumber_port (by decide) (by decide)⟩
      redisPassword := some "", rateLimitSmartEnabled := some false, semanticCacheEnabled := some false
      metricsBackend := some .noop, sentryDsn := none }

/-- The prompt for the models throws, then the process is killed at the clients, then the save of
the last step is made up for. -/
def sampleAttempts : List Attempt :=
  [⟨"s1", "2026-01-01", true, fun step => if step = .models then .thrown else .answered⟩,
   ⟨"s2", "2026-01-02", true, fun step => if step = .clients then .killed else .answered⟩,
   ⟨"s3", "2026-01-03", true, fun step => if step = .serverConfig then .savedLate else .answered⟩]

theorem resumed_threeTimes :
    let last := runInitWizard sampleAnswers (.answered "s4" "2026-01-04")
      (runAttempts sampleAnswers sampleAttempts ⟨fun _ => none, []⟩)
    let once := runInitWizard sampleAnswers (.answered "s5" "2026-01-05") ⟨fun _ => none, []⟩
    ∃ resumed uninterrupted, last.1 = .returned resumed ∧ once.1 = .returned uninterrupted ∧
      resumed.configInput = uninterrupted.configInput ∧ resumed.envInput = uninterrupted.envInput ∧
      completedSteps last.2.executions = WIZARD_INIT_STEPS ∧ NeverAgain last.2.executions :=
  resumed_eq_uninterrupted sampleAnswers (fun _ => none) rfl sampleAttempts (by simp [sampleAttempts])
    "s4" "2026-01-04" "s5" "2026-01-05"

end AiGateway.Cli.Wizard
