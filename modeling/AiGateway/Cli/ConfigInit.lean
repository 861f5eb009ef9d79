import AiGateway.Lib.FileTree
import AiGateway.Lib.Fallible
import AiGateway.Lib.JsString

/- `gateway config:init`: the command writes `gateway.config.yaml`, `.env.example`, `.env`
   and the prompt files, keeps a list of what it created in the wizard session, and a failed
   run is rolled back from that list (`WizardStateManager.rollback`). Three components take
   part and they do not agree on who records what:

   * the command copies an existing `gateway.config.yaml` and `.env` into `backup/` itself
     and records neither copy in the session;
   * the generator is called with `backupExisting: false`, writes over the three
     configuration files and records them as created, existing or not; prompt files it
     writes and records only where there is none;
   * the rollback deletes what was created and restores what the session has as backed up.

   What that leaves of the directory when a run fails is the matter of
   `AiGateway.Cli.FailedInit`. -/
namespace AiGateway.Cli

open FileTree (WriteEnd SameOn)

/-- The working directory. -/
abbrev Files := FileTree String String

def configPath : String := "gateway.config.yaml"

def envPath : String := ".env"

def envExamplePath : String := ".env.example"

def promptDir : String := "src/config/system-prompt/"

def masterPromptPath : String := promptDir ++ "MASTER_SYSTEM_PROMPT.md"

def modelPromptPath (modelAlias : String) : String := promptDir ++ "models/" ++ modelAlias ++ ".md"

/-- The wizard's `STATE_FILE`. -/
def stateFile : String := ".gateway-wizard-state.json"

/-- `path.basename`. -/
def basename (path : String) : String := String.ofList (path.toList.reverse.takeWhile (· != '/')).reverse

/-- Where `backupFile` puts the copy it makes at the time `stamp`. -/
def backupPath (stamp path : String) : String := "backup/" ++ basename path ++ ".backup-" ++ stamp

/-- `fileManager.backupFile`; it throws (`none`) when there is no such file. -/
def backupFile (stamp : String) (fs : Files) (path : String) : Option Files :=
  fs.copyFile path (backupPath stamp path)

/-- The files a session has recorded: `files.created` and `files.backedUp`. -/
structure WizardFiles where
  created : List String := []
  backedUp : List String := []
  deriving DecidableEq, Repr

def isLineTerminator (c : Char) : Bool :=
  c == '\n' || c == '\r' || c.toNat == 0x2028 || c.toNat == 0x2029

/-- `replace(/\.backup-.+$/, '')`: the leftmost match is cut. -/
def cutBackupSuffix : List Char → List Char
  | [] => []
  | c :: cs =>
    let rest := (c :: cs).drop 8
    if (c :: cs).take 8 = ".backup-".toList ∧ rest ≠ [] ∧ rest.all (fun d => !isLineTerminator d) then []
    else c :: cutBackupSuffix cs

def resolveOriginalPathFromBackup (path : String) : String :=
  String.ofList (cutBackupSuffix (basename path).toList)

def clearState (fs : Files) : Files := fs.unlink stateFile

/-- One turn of the restoring loop; a copy that throws is ignored. -/
def restoreBackup (fs : Files) (path : String) : Files :=
  match fs.copyFile path (resolveOriginalPathFromBackup path) with
  | some restored => restored.unlink path
  | none => fs

/-- `WizardStateManager.rollback`. -/
def rollback (fs : Files) (tracked : WizardFiles) : Files :=
  clearState (tracked.backedUp.foldl restoreBackup (fs.unlinkAll tracked.created))

/-- `WIZARD_STEPS`. -/
inductive WizardStep where
  | masterKey | providers | models | clients | serverConfig | writeFiles | complete
  deriving DecidableEq, Repr

/-- A wizard session; the answers it holds (`data`) play no part here. -/
structure WizardState where
  currentStep : WizardStep := .masterKey
  completedSteps : List WizardStep := []
  files : WizardFiles := {}
  deriving DecidableEq, Repr

/-- `executeStep`, as it leaves the session for `saveState`: an unanswered prompt throws and the
step is not completed. -/
def WizardState.executeStep (state : WizardState) (step : WizardStep) (answered : Bool) : WizardState :=
  if answered then { state with currentStep := step, completedSteps := state.completedSteps ++ [step] }
  else { state with currentStep := step }

/-- The sessions a state file can hold: `saveState` is only called on a new session and on
sessions the steps made of one. -/
inductive WizardState.Saved : WizardState → Prop
  | new : Saved {}
  | step {state : WizardState} (h : Saved state) (step : WizardStep) (answered : Bool) :
      Saved (state.executeStep step answered)

/-- What the templates render from the answers. -/
structure InitTexts where
  config : String
  env : String
  envExample : String
  masterPrompt : String
  models : List String
  modelPrompt : String → String

/-- A generation under way: the directory, and what the session has recorded. -/
structure Progress where
  files : Files
  tracked : WizardFiles

/-- `wizardState.files.created.push(...paths)`. -/
def Progress.created (s : Progress) (paths : List String) : Progress :=
  { s with tracked := { s.tracked with created := s.tracked.created ++ paths } }

section Generator
variable (disk : String → WriteEnd String) (stamp : String) (backup : Bool)

/-- `fs.writeFile`; a throw carries the state it happened in. -/
def writeFile (path text : String) (s : Progress) : Except Progress Progress :=
  match disk path with
  | .done => .ok { s with files := s.files.write path text }
  | .thrown left => .error { s with files := s.files.leave path left }

/-- `if (exists && backup)` of the two generators: the copy is recorded in the session. -/
def backupExisting (path : String) (s : Progress) : Except Progress Progress :=
  if (s.files path).isSome && backup then
    match backupFile stamp s.files path with
    | some files => .ok ⟨files, { s.tracked with backedUp := s.tracked.backedUp ++ [backupPath stamp path] }⟩
    | none => .error s
  else .ok s

def generateGatewayConfig (texts : InitTexts) (s : Progress) : Except Progress Progress := do
  let s ← backupExisting stamp backup configPath s
  writeFile disk configPath texts.config s

def generateEnvFiles (texts : InitTexts) (s : Progress) : Except Progress Progress := do
  let s ← writeFile disk envExamplePath texts.envExample s
  let s ← backupExisting stamp backup envPath s
  writeFile disk envPath texts.env s

/-- `generateMasterPrompt` and `generateModelPrompt` with the push that follows: a prompt
file that exists is skipped. -/
def generatePrompt (path text : String) (s : Progress) : Except Progress Progress :=
  if (s.files path).isSome then .ok s
  else (writeFile disk path text s).map fun s => s.created [path]

def generateMasterPrompt (texts : InitTexts) (s : Progress) : Except Progress Progress :=
  generatePrompt disk masterPromptPath texts.masterPrompt s

def generateModelPrompt (texts : InitTexts) (modelAlias : String) (s : Progress) : Except Progress Progress :=
  generatePrompt disk (modelPromptPath modelAlias) (texts.modelPrompt modelAlias) s

def generateModelPrompts (texts : InitTexts) : List String → Progress → Except Progress Progress
  | [], s => .ok s
  | modelAlias :: rest, s => do
    let s ← generateModelPrompt disk texts modelAlias s
    generateModelPrompts texts rest s

/-- `generateFullConfig`. -/
def generateFullConfig (texts : InitTexts) (s : Progress) : Except Progress Progress := do
  let s ← generateGatewayConfig disk stamp backup texts s
  let s ← generateEnvFiles disk stamp backup texts (s.created [configPath])
  let s ← generateMasterPrompt disk texts (s.created [envExamplePath, envPath])
  generateModelPrompts disk texts texts.models s

end Generator

/-- The operator's answer to a failed validation. -/
inductive FixAnswer where
  | abort
  /-- The two files as the operator leaves them for the next attempt. -/
  | manual (config env : Option String)
  deriving DecidableEq, Repr

/-- The operator's edit of `gateway.config.yaml` and `.env`. -/
def editFiles (fs : Files) (config env : Option String) : Files :=
  Function.update (Function.update fs configPath config) envPath env

/-- `validateAndFixConfig` with so many attempts left; `verdicts` is what the validator says at each. -/
def validateAndFixConfig (verdicts : ℕ → Bool) (answers : ℕ → FixAnswer) : ℕ → ℕ → Files → Except Files Files
  | 0, _, fs => .error fs
  | left + 1, attempt, fs =>
    if verdicts attempt then .ok fs
    else match answers attempt with
      | .abort => .error fs
      | .manual config env => validateAndFixConfig verdicts answers left (attempt + 1) (editFiles fs config env)

/-- The two ways to run the command, with the answers its questions get. -/
inductive InitMode where
  | agent (overwrite force : Bool)
  | interactive (overwrite resume : Bool) (answers : ℕ → FixAnswer)

/-- One run of `config:init`: the clock, the session found on disk, what is rendered, how each
write ends and what the validator says. -/
structure ConfigInit where
  mode : InitMode
  stamp : String
  session : Option WizardState
  texts : InitTexts
  disk : String → WriteEnd String
  isBoilerplate : String → Bool
  verdicts : ℕ → Bool

/-- How a run ends: before the first write, in a failure once it has begun to write, or well. -/
inductive InitEnd where
  | stopped (fs : Files)
  | failed (fs : Files)
  | completed (fs : Files)

namespace ConfigInit

variable (c : ConfigInit)

/-- `configExists && !isBoilerplate`. -/
def configured (fs : Files) : Bool := (fs configPath).any fun text => !c.isBoilerplate text

/-- The copies the command makes before anything else; the session does not hear of them. -/
def backupConfigured (fs : Files) : Option Files :=
  if c.configured fs then do
    let fs ← backupFile c.stamp fs configPath
    if (fs envPath).isSome then backupFile c.stamp fs envPath else some fs
  else some fs

/-- The call of the command: `backupExisting: false`. -/
def generate (s : Progress) : Except Progress Progress :=
  generateFullConfig c.disk c.stamp false c.texts s

/-- What `runAgentInit` does before it has the answers mapped: the directory that it goes on with,
or the one that it stops in. -/
def startAgent (overwrite force : Bool) (fs : Files) : Except Files Files :=
  if c.configured fs && !(overwrite || force) then .error fs
  else match c.backupConfigured fs with
    | none => .error fs
    | some fs => match c.session with
      | none => .ok fs
      | some session => if force then .ok (rollback fs session.files) else .error fs

/-- The rest of `runAgentInit`. A write that throws leaves the method, and with it the rollback. -/
def writeAgent (fs : Files) : InitEnd :=
  match c.generate ⟨fs, {}⟩ with
  | .error s => .failed s.files
  | .ok s => if c.verdicts 0 then .completed (clearState s.files) else .failed (rollback s.files s.tracked)

def runAgentInit (overwrite force : Bool) (fs : Files) : InitEnd :=
  match c.startAgent overwrite force fs with
  | .error fs => .stopped fs
  | .ok fs => c.writeAgent fs

/-- `runInitWizard`: the directory and the recorded files generation starts from. -/
def startSession (resume : Bool) (fs : Files) : Progress :=
  match c.session with
  | none => ⟨fs, {}⟩
  | some session => if resume then ⟨fs, session.files⟩ else ⟨rollback fs session.files, {}⟩

/-- `maxAttempts`. -/
def maxAttempts : ℕ := 10

/-- The `try` of `runInteractiveInit` and its `catch`. -/
def writeInteractive (answers : ℕ → FixAnswer) (s : Progress) : InitEnd :=
  match c.generate s with
  | .error s => .failed (rollback s.files s.tracked)
  | .ok s => match validateAndFixConfig c.verdicts answers maxAttempts 0 s.files with
    | .ok fs => .completed (clearState fs)
    | .error fs => .failed (rollback fs s.tracked)

def runInteractiveInit (overwrite resume : Bool) (answers : ℕ → FixAnswer) (fs : Files) : InitEnd :=
  if c.configured fs && !overwrite then .stopped fs
  else match c.backupConfigured fs with
    | none => .stopped fs
    | some fs => c.writeInteractive answers (c.startSession resume fs)

def run (fs : Files) : InitEnd :=
  match c.mode with
  | .agent overwrite force => c.runAgentInit overwrite force fs
  | .interactive overwrite resume answers => c.runInteractiveInit overwrite resume answers fs

end ConfigInit

end AiGateway.Cli
