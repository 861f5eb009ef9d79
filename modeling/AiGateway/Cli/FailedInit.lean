import AiGateway.Cli.Generation

/- What is left of the directory when `config:init` fails. The run leaves it as it was only
   when the configuration files it had recorded were not there before:
   `failed_init_restores_iff` says so for every failure point, with the runs of agent mode,
   where a write that throws is not rolled back at all, and the write of `.env`, whose
   failure leaves `.env.example` written and unrecorded. -/
namespace AiGateway.Cli

open FileTree (WriteEnd SameOn)

namespace ConfigInit

variable (c : ConfigInit)

/-- The writes of the run that end well, up to the first that throws. -/
def done (fs : Files) : List (String × String) := doneWrites c.disk (c.texts.writes fs)

/-- The write that throws. -/
def failing (fs : Files) : Option (String × String) := failingWrite c.disk (c.texts.writes fs)

/-- Whether a failure is rolled back: always in the interactive mode, in agent mode only when
every write ended well and it is the validator that fails. -/
def RollsBack (fs : Files) : Prop :=
  match c.mode with
  | .agent _ _ => c.failing fs = none
  | .interactive _ _ _ => True

/-- A file the run wrote that is gone in the end when the run is rolled back: all of them, but
for `.env.example` when the write of `.env` throws, since the two are recorded together. -/
def Removed (rolledBack : Prop) (fs : Files) (path : String) : Prop :=
  rolledBack ∧ ¬ (path = envExamplePath ∧ (c.failing fs).map Prod.fst = some envPath)

/-- The failed write left its file as it was, no file that the rollback removes was there
before, and one that stays written held the same text. -/
def RecoverableIf (rolledBack : Prop) (fs : Files) : Prop :=
  (∀ w ∈ c.failing fs, (c.disk w.1).Harmless (fs w.1)) ∧
  ∀ w ∈ c.done fs, (c.Removed rolledBack fs w.1 → fs w.1 = none) ∧ (¬ c.Removed rolledBack fs w.1 → fs w.1 = some w.2)

def Recoverable (fs : Files) : Prop := c.RecoverableIf (c.RollsBack fs) fs

end ConfigInit

section Settle

/-- What a failure leaves of a generation, rolled back or not. -/
def Progress.settle (rolledBack : Bool) (s : Progress) : Files :=
  if rolledBack then rollback s.files s.tracked else s.files

theorem Progress.settle_watched {s : Progress} (rolledBack : Bool)
    (h : ∀ path ∈ s.tracked.backedUp, ¬ Watched path ∧ ¬ Watched (resolveOriginalPathFromBackup path))
    {path : String} (hpath : Watched path) :
    s.settle rolledBack path = if rolledBack = true ∧ path ∈ s.tracked.created then none else s.files path := by
  cases rolledBack with
  | false => simp [settle]
  | true => simp [settle, rollback_watched h s.files hpath]

/-- The same for a session that was clear before the run recorded `paths`. -/
theorem Progress.settle_recorded {tracked : WizardFiles} (rolledBack : Bool) (h : tracked.Clear) (files : Files)
    (paths : List String) {path : String} (hpath : Watched path) :
    (Progress.created ⟨files, tracked⟩ paths).settle rolledBack path =
      if rolledBack = true ∧ path ∈ paths then none else files path := by
  have hiff : path ∈ (Progress.created ⟨files, tracked⟩ paths).tracked.created ↔ path ∈ paths := by
    have hnot : path ∉ tracked.created := fun hmem => h.created path hmem hpath
    simp [Progress.created, hnot]
  rw [settle_watched rolledBack (s := Progress.created ⟨files, tracked⟩ paths) h.backedUp hpath]
  simp only [hiff]
  rfl

variable {c : ConfigInit} {s₀ s : Progress} {left : Option String}

/-- The state in which the prompt files are generated. -/
def Progress.configured (s : Progress) (texts : InitTexts) : Progress where
  files := ((s.files.write configPath texts.config).write envExamplePath texts.envExample).write envPath texts.env
  tracked := { s.tracked with created := s.tracked.created ++ [configPath] ++ [envExamplePath, envPath] }

/-- How a generation throws: in one of the three configuration files, or in the prompt phase. -/
theorem generate_error (h : c.generate s₀ = .error s) :
    (∃ left, c.disk configPath = .thrown left ∧ s = Progress.created ⟨s₀.files.leave configPath left, s₀.tracked⟩ []) ∨
    (∃ left, c.disk configPath = .done ∧ c.disk envExamplePath = .thrown left ∧
      s = Progress.created
        ⟨(s₀.files.write configPath c.texts.config).leave envExamplePath left, s₀.tracked⟩ [configPath]) ∨
    (∃ left, c.disk configPath = .done ∧ c.disk envExamplePath = .done ∧ c.disk envPath = .thrown left ∧
      s = Progress.created
        ⟨((s₀.files.write configPath c.texts.config).write envExamplePath c.texts.envExample).leave envPath left,
          s₀.tracked⟩ [configPath]) ∨
    (c.disk configPath = .done ∧ c.disk envExamplePath = .done ∧ c.disk envPath = .done ∧
      generatePrompts c.disk c.texts.prompts (s₀.configured c.texts) = .error s) := by
  unfold ConfigInit.generate at h
  rw [generateFullConfig_unbacked] at h
  unfold writeFile at h
  -- In the order of the writes: the first that fails ends the run.
  cases hconfig : c.disk configPath with
  | thrown left =>
    simp only [hconfig, Except.bind, Except.error.injEq] at h
    exact .inl ⟨left, rfl, by simp [← h, Progress.created]⟩
  | done =>
    simp only [hconfig, Except.bind] at h
    cases hexample : c.disk envExamplePath with
    | thrown left =>
      simp only [hexample, Except.error.injEq] at h
      exact .inr (.inl ⟨left, rfl, rfl, h.symm⟩)
    | done =>
      simp only [hexample] at h
      cases henv : c.disk envPath with
      | thrown left =>
        simp only [henv, Except.error.injEq] at h
        exact .inr (.inr (.inl ⟨left, rfl, rfl, rfl, h.symm⟩))
      | done =>
        simp only [henv] at h
        exact .inr (.inr (.inr ⟨rfl, rfl, rfl, h⟩))

theorem generate_ok (h : c.generate s₀ = .ok s) :
    c.disk configPath = .done ∧ c.disk envExamplePath = .done ∧ c.disk envPath = .done ∧
      generatePrompts c.disk c.texts.prompts (s₀.configured c.texts) = .ok s := by
  unfold ConfigInit.generate at h
  rw [generateFullConfig_unbacked] at h
  unfold writeFile at h
  cases hconfig : c.disk configPath with
  | thrown left =>
    simp only [hconfig, Except.bind] at h
    cases h
  | done =>
    simp only [hconfig, Except.bind] at h
    cases hexample : c.disk envExamplePath with
    | thrown left =>
      simp only [hexample] at h
      cases h
    | done =>
      simp only [hexample] at h
      cases henv : c.disk envPath with
      | thrown left =>
        simp only [henv] at h
        cases h
      | done =>
        simp only [henv] at h
        exact ⟨rfl, rfl, rfl, h⟩

theorem envExample_ne_config : envExamplePath ≠ configPath := by decide

theorem env_ne_config : envPath ≠ configPath := by decide

theorem env_ne_envExample : envPath ≠ envExamplePath := by decide

theorem config_watched : Watched configPath := .inl rfl

theorem envExample_watched : Watched envExamplePath := .inr (.inl rfl)

theorem env_watched : Watched envPath := .inr (.inr (.inl rfl))

theorem PromptFile.watched {path : String} (h : PromptFile path) : Watched path := .inr (.inr (.inr h))

theorem PromptFile.ne_config {path : String} (h : PromptFile path) : path ≠ configPath := h.ne (by decide)

theorem PromptFile.ne_envExample {path : String} (h : PromptFile path) : path ≠ envExamplePath := h.ne (by decide)

theorem PromptFile.ne_env {path : String} (h : PromptFile path) : path ≠ envPath := h.ne (by decide)

/-- A directory that differs from the first one only in the files the run wrote: it is the
same on the watched files when each of these is. -/
theorem sameOn_iff_recoverable {rolledBack : Prop} {fs gs : Files}
    (hfailing : ∀ w ∈ c.failing fs, Watched w.1 ∧ (gs w.1 = fs w.1 ↔ (c.disk w.1).Harmless (fs w.1)))
    (hdone : ∀ w ∈ c.done fs, Watched w.1 ∧ (gs w.1 = fs w.1 ↔
      (c.Removed rolledBack fs w.1 → fs w.1 = none) ∧ (¬ c.Removed rolledBack fs w.1 → fs w.1 = some w.2)))
    (hrest : ∀ path, Watched path → (∀ w ∈ c.failing fs, path ≠ w.1) → (∀ w ∈ c.done fs, path ≠ w.1) →
      gs path = fs path) :
    SameOn Watched gs fs ↔ c.RecoverableIf rolledBack fs := by
  constructor
  · intro h
    refine ⟨?_, ?_⟩
    · intro w hw
      obtain ⟨hwatched, hiff⟩ := hfailing w hw
      exact hiff.mp (h w.1 hwatched)
    · intro w hw
      obtain ⟨hwatched, hiff⟩ := hdone w hw
      exact hiff.mp (h w.1 hwatched)
  · intro ⟨hfail, hwrites⟩ path hpath
    by_cases hf : ∃ w ∈ c.failing fs, path = w.1
    · obtain ⟨w, hw, rfl⟩ := hf
      exact (hfailing w hw).2.mpr (hfail w hw)
    · by_cases hd : ∃ w ∈ c.done fs, path = w.1
      · obtain ⟨w, hw, rfl⟩ := hd
        exact (hdone w hw).2.mpr (hwrites w hw)
      · refine hrest path hpath ?_ ?_
        · intro w hw heq
          exact hf ⟨w, hw, heq⟩
        · intro w hw heq
          exact hd ⟨w, hw, heq⟩

/-- A file that ends removed or written, read as a condition on what it held before. -/
theorem kept_iff {removed : Prop} [Decidable removed] {before : Option String} {text : String} :
    (if removed then none else some text) = before ↔ (removed → before = none) ∧ (¬ removed → before = some text) := by
  by_cases h : removed
  · simp [h, eq_comm]
  · simp [h, eq_comm]

/-- The write of `gateway.config.yaml` throws. -/
theorem config_thrown_iff (hclear : s₀.tracked.Clear) (hconfig : c.disk configPath = .thrown left) (rolledBack : Bool) :
    SameOn Watched ((Progress.created ⟨s₀.files.leave configPath left, s₀.tracked⟩ []).settle rolledBack) s₀.files ↔
      c.RecoverableIf (rolledBack = true) s₀.files := by
  have hfailing : c.failing s₀.files = some (configPath, c.texts.config) := failingWrite_cons_thrown hconfig
  have hdone : c.done s₀.files = [] := doneWrites_cons_thrown hconfig
  apply sameOn_iff_recoverable
  · intro w hw
    rw [hfailing, Option.mem_some] at hw
    subst hw
    refine ⟨config_watched, ?_⟩
    rw [Progress.settle_recorded rolledBack hclear _ _ config_watched, hconfig]
    simpa using FileTree.leave_self_eq_iff left
  · intro w hw
    rw [hdone] at hw
    cases hw
  · intro path hpath hne _
    rw [Progress.settle_recorded rolledBack hclear _ _ hpath]
    simpa using FileTree.leave_of_ne left (hne _ hfailing)

/-- The write of `.env.example` throws; `gateway.config.yaml` is written and recorded. -/
theorem envExample_thrown_iff (hclear : s₀.tracked.Clear) (hconfig : c.disk configPath = .done)
    (hexample : c.disk envExamplePath = .thrown left) (rolledBack : Bool) :
    SameOn Watched ((Progress.created ⟨(s₀.files.write configPath c.texts.config).leave envExamplePath left,
      s₀.tracked⟩ [configPath]).settle rolledBack) s₀.files ↔ c.RecoverableIf (rolledBack = true) s₀.files := by
  have hfailing : c.failing s₀.files = some (envExamplePath, c.texts.envExample) :=
    (failingWrite_cons_done hconfig).trans (failingWrite_cons_thrown hexample)
  have hdone : c.done s₀.files = [(configPath, c.texts.config)] :=
    (doneWrites_cons_done hconfig).trans (congrArg _ (doneWrites_cons_thrown hexample))
  apply sameOn_iff_recoverable
  · intro w hw
    rw [hfailing, Option.mem_some] at hw
    subst hw
    refine ⟨envExample_watched, ?_⟩
    rw [Progress.settle_recorded rolledBack hclear _ _ envExample_watched, hexample]
    simp only [List.mem_singleton, envExample_ne_config, and_false, if_false]
    -- Nothing was written to the example before.
    have hbefore : s₀.files.write configPath c.texts.config envExamplePath = s₀.files envExamplePath :=
      FileTree.write_of_ne c.texts.config envExample_ne_config
    rw [← hbefore]
    exact FileTree.leave_self_eq_iff left
  · intro w hw
    rw [hdone, List.mem_singleton] at hw
    subst hw
    have hremoved : c.Removed (rolledBack = true) s₀.files configPath ↔ rolledBack = true := by
      simp [ConfigInit.Removed, envExample_ne_config.symm]
    refine ⟨config_watched, ?_⟩
    rw [Progress.settle_recorded rolledBack hclear _ _ config_watched, FileTree.leave_of_ne left envExample_ne_config.symm,
      FileTree.write_self, hremoved, ← kept_iff]
    simp
  · intro path hpath hne hne'
    have hexample' : path ≠ envExamplePath := hne _ hfailing
    have hconfig' : path ≠ configPath := hne' (configPath, c.texts.config) (hdone ▸ List.mem_singleton_self _)
    rw [Progress.settle_recorded rolledBack hclear _ _ hpath, FileTree.leave_of_ne left hexample',
      FileTree.write_of_ne _ hconfig']
    simp [hconfig']

/-- The write of `.env` throws; `.env.example` is written by then, but not recorded. -/
theorem env_thrown_iff (hclear : s₀.tracked.Clear) (hconfig : c.disk configPath = .done)
    (hexample : c.disk envExamplePath = .done) (henv : c.disk envPath = .thrown left) (rolledBack : Bool) :
    SameOn Watched ((Progress.created ⟨((s₀.files.write configPath c.texts.config).write envExamplePath
      c.texts.envExample).leave envPath left, s₀.tracked⟩ [configPath]).settle rolledBack) s₀.files ↔
      c.RecoverableIf (rolledBack = true) s₀.files := by
  -- The third write of the run fails, after the configuration and the example.
  have hfailing : c.failing s₀.files = some (envPath, c.texts.env) :=
    calc failingWrite c.disk (c.texts.writes s₀.files)
        = failingWrite c.disk ((c.texts.writes s₀.files).drop 1) := failingWrite_cons_done hconfig
      _ = failingWrite c.disk ((c.texts.writes s₀.files).drop 2) := failingWrite_cons_done hexample
      _ = some (envPath, c.texts.env) := failingWrite_cons_thrown henv
  have hdone : c.done s₀.files = [(configPath, c.texts.config), (envExamplePath, c.texts.envExample)] :=
    calc doneWrites c.disk (c.texts.writes s₀.files)
        = (configPath, c.texts.config) :: doneWrites c.disk ((c.texts.writes s₀.files).drop 1) :=
          doneWrites_cons_done hconfig
      _ = (configPath, c.texts.config) :: (envExamplePath, c.texts.envExample) ::
            doneWrites c.disk ((c.texts.writes s₀.files).drop 2) := congrArg _ (doneWrites_cons_done hexample)
      _ = _ := congrArg _ (congrArg _ (doneWrites_cons_thrown henv))
  apply sameOn_iff_recoverable
  · intro w hw
    rw [hfailing, Option.mem_some] at hw
    subst hw
    refine ⟨env_watched, ?_⟩
    rw [Progress.settle_recorded rolledBack hclear _ _ env_watched, henv]
    simp only [List.mem_singleton, env_ne_config, and_false, if_false]
    have hbefore : ((s₀.files.write configPath c.texts.config).write envExamplePath c.texts.envExample) envPath =
        s₀.files envPath :=
      (FileTree.write_of_ne _ env_ne_envExample).trans (FileTree.write_of_ne _ env_ne_config)
    rw [← hbefore]
    exact FileTree.leave_self_eq_iff left
  · intro w hw
    rw [hdone] at hw
    obtain rfl | hw := List.mem_cons.mp hw
    · have hremoved : c.Removed (rolledBack = true) s₀.files configPath ↔ rolledBack = true := by
        simp [ConfigInit.Removed, envExample_ne_config.symm]
      refine ⟨config_watched, ?_⟩
      rw [Progress.settle_recorded rolledBack hclear _ _ config_watched, FileTree.leave_of_ne left env_ne_config.symm,
        FileTree.write_of_ne _ envExample_ne_config.symm, FileTree.write_self, hremoved, ← kept_iff]
      simp
    · rw [List.mem_singleton] at hw
      subst hw
      -- Both files are recorded once `.env` is written, so that no rollback removes the example.
      have hremoved : ¬ c.Removed (rolledBack = true) s₀.files envExamplePath := by
        simp [ConfigInit.Removed, hfailing]
      refine ⟨envExample_watched, ?_⟩
      rw [Progress.settle_recorded rolledBack hclear _ _ envExample_watched,
        FileTree.leave_of_ne left env_ne_envExample.symm, FileTree.write_self,
        if_neg (by simp [envExample_ne_config])]
      simp [hremoved, eq_comm]
  · intro path hpath hne hne'
    have henv' : path ≠ envPath := hne _ hfailing
    rw [hdone] at hne'
    have hconfig' : path ≠ configPath := hne' (configPath, c.texts.config) (by simp)
    have hexample' : path ≠ envExamplePath := hne' (envExamplePath, c.texts.envExample) (by simp)
    rw [Progress.settle_recorded rolledBack hclear _ _ hpath, FileTree.leave_of_ne left henv',
      FileTree.write_of_ne _ hexample', FileTree.write_of_ne _ hconfig']
    simp [hconfig']

theorem prompt_configured {path : String} (h : PromptFile path) : (s₀.configured c.texts).files path = s₀.files path :=
  calc (s₀.configured c.texts).files path
      = ((s₀.files.write configPath c.texts.config).write envExamplePath c.texts.envExample) path :=
        FileTree.write_of_ne _ h.ne_env
    _ = (s₀.files.write configPath c.texts.config) path := FileTree.write_of_ne _ h.ne_envExample
    _ = s₀.files path := FileTree.write_of_ne _ h.ne_config

/-- What the run is to write in the prompt phase, read off the directory it started from. -/
theorem filter_prompts_configured :
    (c.texts.prompts.filter fun w => (s₀.configured c.texts).files w.1 = none) =
      c.texts.prompts.filter fun w => s₀.files w.1 = none := by
  apply List.filter_congr
  intro w hw
  rw [prompt_configured (InitTexts.prompts_prompt hw)]

theorem mem_configured {path : String} (hclear : s₀.tracked.Clear) (hpath : Watched path) :
    path ∈ (s₀.configured c.texts).tracked.created ↔
      path = configPath ∨ path = envExamplePath ∨ path = envPath := by
  have hnot : path ∉ s₀.tracked.created := fun hmem => hclear.created path hmem hpath
  simp [Progress.configured, hnot]

theorem prompt_not_created (hclear : s₀.tracked.Clear) {w : String × String} (hw : w ∈ c.texts.prompts) :
    w.1 ∉ (s₀.configured c.texts).tracked.created := by
  have hprompt := InitTexts.prompts_prompt hw
  rw [mem_configured hclear hprompt.watched]
  simp [hprompt.ne_config, hprompt.ne_envExample, hprompt.ne_env]

theorem configured_files {w : String × String}
    (hw : w ∈ [(configPath, c.texts.config), (envExamplePath, c.texts.envExample), (envPath, c.texts.env)]) :
    (s₀.configured c.texts).files w.1 = some w.2 := by
  simp only [List.mem_cons, List.not_mem_nil, or_false] at hw
  obtain rfl | rfl | rfl := hw
  · simp only [Progress.configured]
    rw [FileTree.write_of_ne _ env_ne_config.symm, FileTree.write_of_ne _ envExample_ne_config.symm, FileTree.write_self]
  · simp only [Progress.configured]
    rw [FileTree.write_of_ne _ env_ne_envExample.symm, FileTree.write_self]
  · simp only [Progress.configured, FileTree.write_self]

section Configured
variable (hconfig : c.disk configPath = .done) (hexample : c.disk envExamplePath = .done) (henv : c.disk envPath = .done)
include hconfig hexample henv

theorem failing_configured (fs : Files) :
    c.failing fs = failingWrite c.disk (c.texts.prompts.filter fun w => fs w.1 = none) :=
  calc failingWrite c.disk (c.texts.writes fs)
      = failingWrite c.disk ((c.texts.writes fs).drop 1) := failingWrite_cons_done hconfig
    _ = failingWrite c.disk ((c.texts.writes fs).drop 2) := failingWrite_cons_done hexample
    _ = failingWrite c.disk ((c.texts.writes fs).drop 3) := failingWrite_cons_done henv

theorem mem_done_configured {fs : Files} {w : String × String} :
    w ∈ c.done fs ↔
      w ∈ [(configPath, c.texts.config), (envExamplePath, c.texts.envExample), (envPath, c.texts.env)] ∨
      w ∈ doneWrites c.disk (c.texts.prompts.filter fun w => fs w.1 = none) := by
  have hdone : c.done fs = [(configPath, c.texts.config), (envExamplePath, c.texts.envExample), (envPath, c.texts.env)] ++
      doneWrites c.disk (c.texts.prompts.filter fun w => fs w.1 = none) := by
    unfold ConfigInit.done InitTexts.writes
    rw [doneWrites_cons_done hconfig, doneWrites_cons_done hexample, doneWrites_cons_done henv]
    rfl
  rw [hdone]
  exact List.mem_append

end Configured

theorem mem_doneWrites {ws : List (String × String)} {w : String × String} (h : w ∈ doneWrites c.disk ws) :
    w ∈ ws ∧ c.disk w.1 = .done :=
  ⟨(List.takeWhile_prefix _).mem h, by simpa using List.mem_takeWhile_imp h⟩

/-- Rolled back, the prompt phase leaves no trace: what it recorded it had found missing. -/
theorem Grown.undone {u : Progress} (h : Grown c.disk (s₀.configured c.texts) u) (hclear : s₀.tracked.Clear)
    {path : String} (hpath : PromptFile path) :
    (if path ∈ u.tracked.created then none else u.files path) = s₀.files path := by
  rw [← @prompt_configured c s₀ path hpath]
  by_cases hmem : path ∈ u.tracked.created
  · rw [if_pos hmem]
    obtain hconfigured | ⟨hnone, _⟩ := h.listed path hmem
    · rw [mem_configured hclear hpath.watched] at hconfigured
      simp [hpath.ne_config, hpath.ne_envExample, hpath.ne_env] at hconfigured
    · exact hnone.symm
  · rw [if_neg hmem]
    exact h.unlisted path hmem

theorem configuration_watched {w : String × String}
    (hw : w ∈ [(configPath, c.texts.config), (envExamplePath, c.texts.envExample), (envPath, c.texts.env)]) :
    Watched w.1 ∧ w.1 ∈ (s₀.configured c.texts).tracked.created := by
  simp only [List.mem_cons, List.not_mem_nil, or_false] at hw
  obtain rfl | rfl | rfl := hw
  · exact ⟨config_watched, by simp [Progress.configured]⟩
  · exact ⟨envExample_watched, by simp [Progress.configured]⟩
  · exact ⟨env_watched, by simp [Progress.configured]⟩

/-- A watched file that is none of the three of the configuration is a prompt file. -/
theorem prompt_of_not_configuration {path : String} (hpath : Watched path)
    (hne : ∀ w ∈ [(configPath, c.texts.config), (envExamplePath, c.texts.envExample), (envPath, c.texts.env)], path ≠ w.1) :
    PromptFile path := by
  obtain rfl | rfl | rfl | hprompt := hpath
  · exact absurd rfl (hne (configPath, c.texts.config) (by simp))
  · exact absurd rfl (hne (envExamplePath, c.texts.envExample) (by simp))
  · exact absurd rfl (hne (envPath, c.texts.env) (by simp))
  · exact hprompt

/-! A prompt file's write throws; everything before it is written and recorded. -/

section Stopped
variable {w : String × String} {u : Progress} (hclear : s₀.tracked.Clear)

theorem missing_prompt (hclear : s₀.tracked.Clear) (hw : w ∈ c.texts.prompts.filter fun w => s₀.files w.1 = none) :
    PromptFile w.1 ∧ s₀.files w.1 = none ∧ w.1 ∉ (s₀.configured c.texts).tracked.created := by
  obtain ⟨hmem, hnone⟩ := List.mem_filter.mp hw
  exact ⟨InitTexts.prompts_prompt hmem, by simpa using hnone, prompt_not_created hclear hmem⟩

variable (hstop : PromptStop c.disk (s₀.configured c.texts) (s₀.configured c.texts)
  (c.texts.prompts.filter fun w => s₀.files w.1 = none) w left u)
include hclear hstop

theorem stop_settle (rolledBack : Bool) {path : String} (hpath : Watched path) :
    Progress.settle rolledBack ⟨u.files.leave w.1 left, u.tracked⟩ path =
      if rolledBack = true ∧ path ∈ u.tracked.created then none else u.files.leave w.1 left path := by
  refine Progress.settle_watched (s := ⟨u.files.leave w.1 left, u.tracked⟩) rolledBack ?_ hpath
  show ∀ path ∈ u.tracked.backedUp, _
  rw [hstop.grown.backedUp]
  exact hclear.backedUp

theorem stop_prompt : PromptFile w.1 ∧ w.1 ∉ u.tracked.created := by
  obtain ⟨hprompt, _, hnew⟩ := missing_prompt hclear (List.mem_of_find?_eq_some hstop.failing)
  refine ⟨hprompt, ?_⟩
  intro hmem
  obtain hmem | ⟨_, hdone, _⟩ := hstop.grown.listed w.1 hmem
  · exact hnew hmem
  · exact absurd (hdone.symm.trans hstop.thrown) (by simp)

theorem stop_failing_iff (rolledBack : Bool) :
    Progress.settle rolledBack ⟨u.files.leave w.1 left, u.tracked⟩ w.1 = s₀.files w.1 ↔
      (c.disk w.1).Harmless (s₀.files w.1) := by
  obtain ⟨hprompt, hnot⟩ := stop_prompt hclear hstop
  have hbefore : u.files w.1 = s₀.files w.1 := (hstop.grown.unlisted w.1 hnot).trans (prompt_configured hprompt)
  rw [stop_settle hclear hstop rolledBack hprompt.watched, if_neg (fun hmem => hnot hmem.2), hstop.thrown, ← hbefore]
  exact FileTree.leave_self_eq_iff left

/-- The three files of the configuration: written, and recorded. -/
theorem stop_configuration_iff (rolledBack : Bool) {v : String × String}
    (hv : v ∈ [(configPath, c.texts.config), (envExamplePath, c.texts.envExample), (envPath, c.texts.env)]) :
    Progress.settle rolledBack ⟨u.files.leave w.1 left, u.tracked⟩ v.1 = s₀.files v.1 ↔
      (rolledBack = true → s₀.files v.1 = none) ∧ (¬ rolledBack = true → s₀.files v.1 = some v.2) := by
  obtain ⟨hwatched, hmem⟩ := @configuration_watched c s₀ v hv
  have hkept := hstop.grown.kept v.1 hmem
  have hne : v.1 ≠ w.1 := fun heq => (stop_prompt hclear hstop).2 (heq ▸ hkept)
  rw [stop_settle hclear hstop rolledBack hwatched, FileTree.leave_of_ne left hne, hstop.grown.frame v.1 hmem,
    configured_files hv, ← kept_iff]
  simp [hkept]

/-- The prompt files written before: they were missing, so only the rollback takes them away. -/
theorem stop_written_iff (rolledBack : Bool) {v : String × String}
    (hv : v ∈ doneWrites c.disk (c.texts.prompts.filter fun w => s₀.files w.1 = none)) :
    Watched v.1 ∧ (Progress.settle rolledBack ⟨u.files.leave w.1 left, u.tracked⟩ v.1 = s₀.files v.1 ↔
      (rolledBack = true → s₀.files v.1 = none) ∧ (¬ rolledBack = true → s₀.files v.1 = some v.2)) := by
  obtain ⟨hmissing, hdone⟩ := mem_doneWrites hv
  obtain ⟨hprompt, hnone, hnew⟩ := missing_prompt hclear hmissing
  have hne : v.1 ≠ w.1 := by
    intro heq
    rw [heq, hstop.thrown] at hdone
    cases hdone
  have hmem : v.1 ∈ u.tracked.created := (hstop.created_iff v.1).mpr (.inr ⟨v, hv, rfl⟩)
  have hsome : u.files v.1 ≠ none := by
    obtain hfirst | ⟨_, _, hsome⟩ := hstop.grown.listed v.1 hmem
    · exact absurd hfirst hnew
    · exact hsome
  refine ⟨hprompt.watched, ?_⟩
  rw [stop_settle hclear hstop rolledBack hprompt.watched, FileTree.leave_of_ne left hne, hnone]
  cases rolledBack with
  | false => simp [hsome]
  | true => simp [hmem]

/-- Every other prompt file is as it was. -/
theorem stop_untouched (rolledBack : Bool) {path : String} (hprompt : PromptFile path) (hne : path ≠ w.1)
    (hnot : ∀ v ∈ doneWrites c.disk (c.texts.prompts.filter fun w => s₀.files w.1 = none), path ≠ v.1) :
    Progress.settle rolledBack ⟨u.files.leave w.1 left, u.tracked⟩ path = s₀.files path := by
  have hcreated : path ∉ u.tracked.created := by
    intro hmem
    obtain hmem | ⟨v, hv, heq⟩ := (hstop.created_iff path).mp hmem
    · rw [mem_configured hclear hprompt.watched] at hmem
      simp [hprompt.ne_config, hprompt.ne_envExample, hprompt.ne_env] at hmem
    · exact hnot v hv heq
  rw [stop_settle hclear hstop rolledBack hprompt.watched, FileTree.leave_of_ne left hne,
    if_neg fun hmem => hcreated hmem.2]
  exact (hstop.grown.unlisted path hcreated).trans (prompt_configured hprompt)

end Stopped

theorem prompt_thrown_iff (hclear : s₀.tracked.Clear) (hconfig : c.disk configPath = .done)
    (hexample : c.disk envExamplePath = .done) (henv : c.disk envPath = .done)
    (h : generatePrompts c.disk c.texts.prompts (s₀.configured c.texts) = .error s) (rolledBack : Bool) :
    SameOn Watched (s.settle rolledBack) s₀.files ↔ c.RecoverableIf (rolledBack = true) s₀.files := by
  obtain ⟨w, left, u, hstop, rfl⟩ :=
    generatePrompts_error (fun w hw => prompt_not_created hclear hw) (Grown.refl _) h
  rw [filter_prompts_configured] at hstop
  have hfailing : c.failing s₀.files = some w := (failing_configured hconfig hexample henv _).trans hstop.failing
  have hprompt := (stop_prompt hclear hstop).1
  -- The configuration was recorded whole, and so was every prompt that was written.
  have hremoved : ∀ path, c.Removed (rolledBack = true) s₀.files path ↔ rolledBack = true := by
    intro path
    simp [ConfigInit.Removed, hfailing, hprompt.ne_env]
  apply sameOn_iff_recoverable
  · intro v hv
    rw [hfailing, Option.mem_some] at hv
    subst hv
    exact ⟨hprompt.watched, stop_failing_iff hclear hstop rolledBack⟩
  · intro v hv
    rw [hremoved]
    obtain hv | hv := (mem_done_configured hconfig hexample henv).mp hv
    · exact ⟨(@configuration_watched c s₀ v hv).1, stop_configuration_iff hclear hstop rolledBack hv⟩
    · exact stop_written_iff hclear hstop rolledBack hv
  · intro path hpath hne hnot
    simp only [mem_done_configured hconfig hexample henv] at hnot
    have hpath' := prompt_of_not_configuration hpath fun v hv => hnot v (.inl hv)
    exact stop_untouched hclear hstop rolledBack hpath' (hne w hfailing) fun v hv => hnot v (.inr hv)

/-- Every write ended well and the run is rolled back, the operator having edited the two
files the wizard names meanwhile. -/
theorem validation_iff (hclear : s₀.tracked.Clear) (h : c.generate s₀ = .ok s) {gs : Files}
    (hedit : ∀ path, path ≠ configPath → path ≠ envPath → gs path = s.files path) :
    SameOn Watched (rollback gs s.tracked) s₀.files ↔ c.RecoverableIf True s₀.files := by
  obtain ⟨hconfig, hexample, henv, hprompts⟩ := generate_ok h
  obtain ⟨hfailing, hgrown⟩ := generatePrompts_ok (fun w hw => prompt_not_created hclear hw) (Grown.refl _) hprompts
  rw [filter_prompts_configured] at hfailing
  replace hfailing : c.failing s₀.files = none := (failing_configured hconfig hexample henv _).trans hfailing
  -- All files were written, so that the rollback takes every one of them away.
  have hremoved : ∀ path, c.Removed True s₀.files path := by
    intro path
    simp [ConfigInit.Removed, hfailing]
  have hrollback : ∀ path, Watched path →
      rollback gs s.tracked path = if path ∈ s.tracked.created then none else gs path := by
    intro path hpath
    apply rollback_watched _ gs hpath
    rw [hgrown.backedUp]
    exact hclear.backedUp
  have hprompt : ∀ path, PromptFile path → rollback gs s.tracked path = s₀.files path := by
    intro path hpath
    rw [hrollback path hpath.watched, hedit path hpath.ne_config hpath.ne_env]
    exact hgrown.undone hclear hpath
  apply sameOn_iff_recoverable
  · intro v hv
    rw [hfailing] at hv
    cases hv
  · intro v hv
    obtain hv | hv := (mem_done_configured hconfig hexample henv).mp hv
    · obtain ⟨hwatched, hmem⟩ := @configuration_watched c s₀ v hv
      refine ⟨hwatched, ?_⟩
      rw [hrollback v.1 hwatched, if_pos (hgrown.kept v.1 hmem)]
      simp [hremoved, eq_comm]
    · obtain ⟨hmem, hnone⟩ := List.mem_filter.mp (mem_doneWrites hv).1
      have hpath := InitTexts.prompts_prompt hmem
      refine ⟨hpath.watched, iff_of_true (hprompt v.1 hpath) ⟨fun _ => by simpa using hnone, ?_⟩⟩
      intro hnot
      exact absurd (hremoved v.1) hnot
  · intro path hpath _ hne
    simp only [mem_done_configured hconfig hexample henv] at hne
    exact hprompt path (prompt_of_not_configuration hpath fun v hv => hne v (.inl hv))

/-- A generation that throws, whatever write it throws in. -/
theorem generate_error_iff (hclear : s₀.tracked.Clear) (h : c.generate s₀ = .error s) (rolledBack : Bool) :
    SameOn Watched (s.settle rolledBack) s₀.files ↔ c.RecoverableIf (rolledBack = true) s₀.files := by
  obtain ⟨left, hconfig, rfl⟩ | ⟨left, hconfig, hexample, rfl⟩ | ⟨left, hconfig, hexample, henv, rfl⟩ |
    ⟨hconfig, hexample, henv, hprompts⟩ := generate_error h
  · exact config_thrown_iff hclear hconfig rolledBack
  · exact envExample_thrown_iff hclear hconfig hexample rolledBack
  · exact env_thrown_iff hclear hconfig hexample henv rolledBack
  · exact prompt_thrown_iff hclear hconfig hexample henv hprompts rolledBack

theorem failing_of_generate_error (hclear : s₀.tracked.Clear) (h : c.generate s₀ = .error s) :
    c.failing s₀.files ≠ none := by
  obtain ⟨left, hconfig, -⟩ | ⟨left, hconfig, hexample, -⟩ | ⟨left, hconfig, hexample, henv, -⟩ |
    ⟨hconfig, hexample, henv, hprompts⟩ := generate_error h
  · simp [ConfigInit.failing, InitTexts.writes, failingWrite, hconfig]
  · simp [ConfigInit.failing, InitTexts.writes, failingWrite, hconfig, hexample]
  · simp [ConfigInit.failing, InitTexts.writes, failingWrite, hconfig, hexample, henv]
  · obtain ⟨w, left, u, hstop, -⟩ :=
      generatePrompts_error (fun w hw => prompt_not_created hclear hw) (Grown.refl _) hprompts
    rw [filter_prompts_configured] at hstop
    rw [failing_configured hconfig hexample henv, hstop.failing]
    simp

theorem failing_of_generate_ok (hclear : s₀.tracked.Clear) (h : c.generate s₀ = .ok s) : c.failing s₀.files = none := by
  obtain ⟨hconfig, hexample, henv, hprompts⟩ := generate_ok h
  obtain ⟨hfailing, _⟩ := generatePrompts_ok (fun w hw => prompt_not_created hclear hw) (Grown.refl _) hprompts
  rw [filter_prompts_configured] at hfailing
  exact (failing_configured hconfig hexample henv _).trans hfailing

end Settle

section Run
variable {c : ConfigInit} {fs gs : Files}

theorem writes_watched {texts : InitTexts} {w : String × String} (h : w ∈ texts.writes fs) : Watched w.1 := by
  simp only [InitTexts.writes, List.mem_cons, List.mem_filter] at h
  obtain rfl | rfl | rfl | ⟨hmem, _⟩ := h
  · exact config_watched
  · exact envExample_watched
  · exact env_watched
  · exact (InitTexts.prompts_prompt hmem).watched

theorem writes_congr (texts : InitTexts) (h : SameOn Watched fs gs) : texts.writes fs = texts.writes gs := by
  unfold InitTexts.writes
  congr 3
  apply List.filter_congr
  intro w hw
  rw [h w.1 (InitTexts.prompts_prompt hw).watched]

/-- The condition reads the watched files only. -/
theorem recoverableIf_congr (rolledBack : Prop) (h : SameOn Watched fs gs) :
    c.RecoverableIf rolledBack fs → c.RecoverableIf rolledBack gs := by
  intro ⟨hfailing, hdone⟩
  have hfail : c.failing gs = c.failing fs := by rw [ConfigInit.failing, ConfigInit.failing, writes_congr c.texts h]
  have hwrites : c.done gs = c.done fs := by rw [ConfigInit.done, ConfigInit.done, writes_congr c.texts h]
  refine ⟨?_, ?_⟩
  · intro w hw
    rw [hfail] at hw
    have hfind : failingWrite c.disk (c.texts.writes fs) = some w := hw
    rw [← h w.1 (writes_watched (List.mem_of_find?_eq_some hfind))]
    exact hfailing w hw
  · intro w hw
    rw [hwrites] at hw
    rw [← h w.1 (writes_watched (mem_doneWrites hw).1)]
    unfold ConfigInit.Removed at hdone ⊢
    rw [hfail]
    exact hdone w hw

theorem backupFile_sameOn {stamp path : String} (h : backupFile stamp fs path = some gs) : SameOn Watched gs fs := by
  obtain ⟨text, _, rfl⟩ := Option.map_eq_some_iff.mp h
  exact FileTree.sameOn_write text (backupPath_not_watched stamp path)

theorem backupConfigured_sameOn (h : c.backupConfigured fs = some gs) : SameOn Watched gs fs := by
  unfold ConfigInit.backupConfigured at h
  split at h
  · obtain ⟨copied, hconfig, henv⟩ := Option.bind_eq_some_iff.mp h
    split at henv
    · exact (backupFile_sameOn henv).trans (backupFile_sameOn hconfig)
    · cases henv
      exact backupFile_sameOn hconfig
  · cases h
    exact SameOn.refl fs

/-- The operator's edits touch the two files the wizard names. -/
theorem validateAndFixConfig_error {verdicts : ℕ → Bool} {answers : ℕ → FixAnswer} {left attempt : ℕ}
    (h : validateAndFixConfig verdicts answers left attempt fs = .error gs) {path : String}
    (hconfig : path ≠ configPath) (henv : path ≠ envPath) : gs path = fs path := by
  induction left generalizing attempt fs with
  | zero =>
    cases h
    rfl
  | succ left ih =>
    unfold validateAndFixConfig at h
    split at h
    · cases h
    · split at h
      · cases h
        rfl
      · rw [ih h, editFiles, Function.update_of_ne henv, Function.update_of_ne hconfig]

variable {fs' : Files}

/-- A failed agent run from the first write on. -/
theorem writeAgent_failed (h : c.writeAgent gs = .failed fs') :
    SameOn Watched fs' gs ↔ c.RecoverableIf (c.failing gs = none) gs := by
  have hclear : (⟨gs, {}⟩ : Progress).tracked.Clear := WizardFiles.clear_empty
  unfold ConfigInit.writeAgent at h
  cases hgenerate : c.generate ⟨gs, {}⟩ with
  | error s =>
    simp only [hgenerate, InitEnd.failed.injEq] at h
    subst h
    have hrolled : (c.failing gs = none) = (false = true) := by
      simp [failing_of_generate_error hclear hgenerate]
    rw [hrolled]
    exact generate_error_iff hclear hgenerate false
  | ok s =>
    simp only [hgenerate] at h
    split at h
    · cases h
    · cases h
      have hrolled : (c.failing gs = none) = True := by simp [failing_of_generate_ok hclear hgenerate]
      rw [hrolled]
      exact validation_iff hclear hgenerate fun _ _ _ => rfl

/-- A failed interactive run from the first write on. -/
theorem writeInteractive_failed {s₀ : Progress} {answers : ℕ → FixAnswer} (hclear : s₀.tracked.Clear)
    (h : c.writeInteractive answers s₀ = .failed fs') :
    SameOn Watched fs' s₀.files ↔ c.RecoverableIf True s₀.files := by
  unfold ConfigInit.writeInteractive at h
  cases hgenerate : c.generate s₀ with
  | error s =>
    simp only [hgenerate, InitEnd.failed.injEq] at h
    subst h
    have hiff := generate_error_iff hclear hgenerate true
    rw [eq_self_iff_true] at hiff
    exact hiff
  | ok s =>
    simp only [hgenerate] at h
    split at h
    · cases h
    · next gs hvalidate =>
      cases h
      exact validation_iff hclear hgenerate fun _ => validateAndFixConfig_error hvalidate

/-- Where the interactive run starts to write: an earlier session that lists none of the
watched files changes none, resumed or discarded. -/
theorem startSession_clear (hsession : ∀ session ∈ c.session, session.files.Clear) (resume : Bool) (fs : Files) :
    (c.startSession resume fs).tracked.Clear ∧ SameOn Watched (c.startSession resume fs).files fs := by
  unfold ConfigInit.startSession
  cases hc : c.session with
  | none => exact ⟨WizardFiles.clear_empty, SameOn.refl fs⟩
  | some session =>
    have hclear := hsession session hc
    cases resume with
    | true => exact ⟨hclear, SameOn.refl fs⟩
    | false => exact ⟨WizardFiles.clear_empty, rollback_clear hclear fs⟩

/-- So does the agent's run. -/
theorem startAgent_sameOn (hsession : ∀ session ∈ c.session, session.files.Clear) {overwrite force : Bool} {gs : Files}
    (h : c.startAgent overwrite force fs = .ok gs) : SameOn Watched gs fs := by
  unfold ConfigInit.startAgent at h
  split at h
  · cases h
  · split at h
    · cases h
    · next fs' hbackup =>
      have hsame := backupConfigured_sameOn hbackup
      split at h
      · cases h
        exact hsame
      · next session hc =>
        split at h
        · cases h
          exact (rollback_clear (hsession session hc) fs').trans hsame
        · cases h

/-- A failed run writes from a directory that is the first one on the watched files, and is
rolled back or not as `RollsBack` says. -/
theorem run_failed (hsession : ∀ session ∈ c.session, session.files.Clear) (h : c.run fs = .failed fs') :
    ∃ gs, SameOn Watched gs fs ∧ (SameOn Watched fs' gs ↔ c.RecoverableIf (c.RollsBack gs) gs) := by
  unfold ConfigInit.run at h
  unfold ConfigInit.RollsBack
  cases hmode : c.mode with
  | agent overwrite force =>
    simp only [hmode, ConfigInit.runAgentInit] at h
    split at h
    · cases h
    · next gs hstart => exact ⟨gs, startAgent_sameOn hsession hstart, writeAgent_failed h⟩
  | interactive overwrite resume answers =>
    simp only [hmode, ConfigInit.runInteractiveInit] at h
    split at h
    · cases h
    · split at h
      · cases h
      · next gs hbackup =>
        obtain ⟨hclear, hsame⟩ := startSession_clear hsession resume gs
        exact ⟨_, hsame.trans (backupConfigured_sameOn hbackup), writeInteractive_failed hclear h⟩

/-- A failed `config:init` leaves `gateway.config.yaml`, `.env`, `.env.example` and the prompt
files as they were before the run exactly when the write that failed left its file alone, no
file the rollback removes was there before, and a file that stays written held the same text
already. -/
theorem failed_init_restores_iff (c : ConfigInit) (fs fs' : Files)
    (hsession : ∀ session ∈ c.session, session.files.Clear) (hfailed : c.run fs = .failed fs') :
    SameOn Watched fs' fs ↔ c.Recoverable fs := by
  obtain ⟨gs, hgs, hiff⟩ := run_failed hsession hfailed
  have hrolls : c.RollsBack gs = c.RollsBack fs := by
    unfold ConfigInit.RollsBack ConfigInit.failing
    rw [writes_congr c.texts hgs]
  rw [hrolls] at hiff
  constructor
  · intro h
    exact recoverableIf_congr _ hgs (hiff.mp (h.trans hgs.symm))
  · intro h
    exact (hiff.mpr (recoverableIf_congr _ hgs.symm h)).trans hgs

end Run

/-- An agent run with `overwrite: true` whose configuration the validator rejects. -/
def rejectedRun : ConfigInit where
  mode := .agent true false
  stamp := "2026-01-01T00-00-00-000Z"
  session := none
  texts := ⟨"new config", "new env", "new example", "master prompt", ["chat-default"], fun _ => "model prompt"⟩
  disk := fun _ => .done
  isBoilerplate := fun _ => false
  verdicts := fun _ => false

/-- In an empty directory such a run leaves nothing behind. -/
theorem rejectedRun_restores_empty :
    ∃ fs', rejectedRun.run (fun _ => none) = .failed fs' ∧ SameOn Watched fs' fun _ => none := by
  have hfailing : rejectedRun.failing (fun _ => none) = none := rfl
  have hremoved : ∀ path, rejectedRun.Removed (rejectedRun.RollsBack fun _ => none) (fun _ => none) path := by
    intro path
    refine ⟨hfailing, ?_⟩
    rw [hfailing]
    exact fun h => Option.some_ne_none _ h.2.symm
  have hrecoverable : rejectedRun.Recoverable fun _ => none := by
    refine ⟨?_, ?_⟩
    · intro w hw
      rw [hfailing] at hw
      cases hw
    · intro w _
      exact ⟨fun _ => rfl, fun hnot => absurd (hremoved w.1) hnot⟩
  exact ⟨_, rfl, (failed_init_restores_iff rejectedRun (fun _ => none) _ (fun _ h => nomatch h) rfl).mpr hrecoverable⟩

/-- A directory that holds a configuration and its secrets. -/
def configuredDirectory : Files := fun path =>
  if path = configPath then some "old config" else if path = envPath then some "old env" else none

/-- There the same run, refused by the validator, deletes both. -/
theorem rejectedRun_deletes_config :
    ∃ fs', rejectedRun.run configuredDirectory = .failed fs' ∧ fs' configPath = none ∧ fs' envPath = none ∧
      ¬ SameOn Watched fs' configuredDirectory := by
  refine ⟨_, rfl, rfl, rfl, ?_⟩
  intro h
  have hconfig : none = some "old config" := h configPath config_watched
  cases hconfig

end AiGateway.Cli
