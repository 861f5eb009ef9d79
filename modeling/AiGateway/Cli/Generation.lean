import AiGateway.Cli.ConfigInit

/- What a generation and a rollback do to the files a failed run has to give back: the three
   configuration files and the prompt files. A rollback touches them only through its two
   lists; a session the wizard has saved lists none of them (`WizardState.Saved.clear`). The
   prompt phase records exactly the files it found missing, so it can be undone
   (`Grown`), and stops at the first write that throws (`PromptStop`). -/
namespace AiGateway.Cli

open FileTree (WriteEnd SameOn)

/-- A prompt file: anything under the prompt directory. -/
def PromptFile (path : String) : Prop := promptDir.toList <+: path.toList

/-- The files a failed run has to give back. -/
def Watched (path : String) : Prop :=
  path = configPath ∨ path = envExamplePath ∨ path = envPath ∨ PromptFile path

/-- A session that lists none of these files. -/
structure WizardFiles.Clear (tracked : WizardFiles) : Prop where
  created : ∀ path ∈ tracked.created, ¬ Watched path
  backedUp : ∀ path ∈ tracked.backedUp, ¬ Watched path ∧ ¬ Watched (resolveOriginalPathFromBackup path)

theorem WizardFiles.clear_empty : WizardFiles.Clear {} := ⟨by simp, by simp⟩

theorem WizardState.Saved.files_eq {state : WizardState} (h : state.Saved) : state.files = {} := by
  induction h with
  | new => rfl
  | step h step answered ih =>
    unfold executeStep
    split
    · exact ih
    · exact ih

/-- A session the wizard has saved lists no file at all: nothing is written before its last step. -/
theorem WizardState.Saved.clear {state : WizardState} (h : state.Saved) : state.files.Clear := by
  rw [h.files_eq]
  exact WizardFiles.clear_empty

section Paths

theorem masterPromptPath_prompt : PromptFile masterPromptPath := by
  unfold PromptFile masterPromptPath
  rw [String.toList_append]
  exact List.prefix_append ..

theorem modelPromptPath_prompt (modelAlias : String) : PromptFile (modelPromptPath modelAlias) := by
  unfold PromptFile modelPromptPath
  rw [String.toList_append, String.toList_append, String.toList_append, List.append_assoc, List.append_assoc]
  exact List.prefix_append ..

theorem PromptFile.head {path : String} (h : PromptFile path) : path.toList.head? = some 's' := by
  obtain ⟨rest, hrest⟩ := h
  rw [← hrest]
  rfl

theorem PromptFile.ne {path other : String} (h : PromptFile path) (hother : other.toList.head? ≠ some 's') :
    path ≠ other := by
  intro heq
  exact hother (heq ▸ h.head)

theorem backupPath_not_watched (stamp path : String) : ¬ Watched (backupPath stamp path) := by
  have hhead : (backupPath stamp path).toList.head? = some 'b' := by
    simp [backupPath, String.toList_append]
  intro h
  obtain h | h | h | h := h
  · rw [h] at hhead
    exact absurd hhead (by decide)
  · rw [h] at hhead
    exact absurd hhead (by decide)
  · rw [h] at hhead
    exact absurd hhead (by decide)
  · rw [h.head] at hhead
    exact absurd hhead (by decide)

theorem stateFile_not_watched : ¬ Watched stateFile := by
  intro h
  obtain h | h | h | h := h
  · exact absurd h (by decide)
  · exact absurd h (by decide)
  · exact absurd h (by decide)
  · exact absurd h.head (by decide)

end Paths

section Rollback

theorem clearState_sameOn (fs : Files) : SameOn Watched (clearState fs) fs := FileTree.sameOn_unlink stateFile_not_watched

theorem restoreBackup_sameOn (fs : Files) {path : String} (h : ¬ Watched path)
    (horiginal : ¬ Watched (resolveOriginalPathFromBackup path)) : SameOn Watched (restoreBackup fs path) fs := by
  unfold restoreBackup FileTree.copyFile
  cases fs path with
  | none => exact SameOn.refl fs
  | some text => exact (FileTree.sameOn_unlink h).trans (FileTree.sameOn_write text horiginal)

theorem restoreBackups_sameOn {paths : List String}
    (h : ∀ path ∈ paths, ¬ Watched path ∧ ¬ Watched (resolveOriginalPathFromBackup path)) (fs : Files) :
    SameOn Watched (paths.foldl restoreBackup fs) fs := by
  induction paths generalizing fs with
  | nil => exact SameOn.refl fs
  | cons path paths ih =>
    obtain ⟨hpath, horiginal⟩ := h path List.mem_cons_self
    have hrest := ih (fun q hq => h q (List.mem_cons_of_mem path hq)) (restoreBackup fs path)
    exact hrest.trans (restoreBackup_sameOn fs hpath horiginal)

/-- What a rollback leaves of a watched file when no backup was recorded for one: the files
on the created list are gone, the others are as they were. -/
theorem rollback_watched {tracked : WizardFiles}
    (h : ∀ path ∈ tracked.backedUp, ¬ Watched path ∧ ¬ Watched (resolveOriginalPathFromBackup path))
    (fs : Files) {path : String} (hpath : Watched path) :
    rollback fs tracked path = if path ∈ tracked.created then none else fs path := by
  unfold rollback
  rw [clearState_sameOn _ path hpath, restoreBackups_sameOn h _ path hpath, FileTree.unlinkAll_apply]

theorem rollback_clear {tracked : WizardFiles} (h : tracked.Clear) (fs : Files) :
    SameOn Watched (rollback fs tracked) fs := by
  intro path hpath
  rw [rollback_watched h.backedUp fs hpath]
  exact if_neg fun hmem => h.created path hmem hpath

end Rollback

/-- The prompt files of a run with their texts, in the order they are generated. -/
def InitTexts.prompts (texts : InitTexts) : List (String × String) :=
  (masterPromptPath, texts.masterPrompt) ::
    texts.models.map fun modelAlias => (modelPromptPath modelAlias, texts.modelPrompt modelAlias)

/-- The writes of a run on a directory, in their order: the three configuration files, then
the prompt files that are not there. -/
def InitTexts.writes (texts : InitTexts) (fs : Files) : List (String × String) :=
  (configPath, texts.config) :: (envExamplePath, texts.envExample) :: (envPath, texts.env) ::
    texts.prompts.filter fun w => fs w.1 = none

theorem InitTexts.prompts_prompt {texts : InitTexts} {w : String × String} (h : w ∈ texts.prompts) : PromptFile w.1 := by
  obtain rfl | h := List.mem_cons.mp h
  · exact masterPromptPath_prompt
  · obtain ⟨modelAlias, _, rfl⟩ := List.mem_map.mp h
    exact modelPromptPath_prompt modelAlias

section Prompts
variable (disk : String → WriteEnd String)

/-- The prompt files of the list, one after the other. -/
def generatePrompts : List (String × String) → Progress → Except Progress Progress
  | [], s => .ok s
  | w :: ws, s => (generatePrompt disk w.1 w.2 s).bind (generatePrompts ws)

theorem generateModelPrompts_eq (texts : InitTexts) (models : List String) (s : Progress) :
    generateModelPrompts disk texts models s =
      generatePrompts disk (models.map fun m => (modelPromptPath m, texts.modelPrompt m)) s := by
  induction models generalizing s with
  | nil => rfl
  | cons modelAlias rest ih =>
    show (generatePrompt disk _ _ s).bind (generateModelPrompts disk texts rest) = _
    rw [funext ih]
    rfl

/-- The command's call of the generator, write by write. -/
theorem generateFullConfig_unbacked (stamp : String) (texts : InitTexts) (s : Progress) :
    generateFullConfig disk stamp false texts s =
      (writeFile disk configPath texts.config s).bind fun s =>
      (writeFile disk envExamplePath texts.envExample (s.created [configPath])).bind fun s =>
      (writeFile disk envPath texts.env s).bind fun s =>
      generatePrompts disk texts.prompts (s.created [envExamplePath, envPath]) := by
  have hprompts : ∀ s, (generateMasterPrompt disk texts s).bind (generateModelPrompts disk texts texts.models) =
      generatePrompts disk texts.prompts s := by
    intro s
    rw [funext (generateModelPrompts_eq disk texts texts.models)]
    rfl
  unfold generateFullConfig generateGatewayConfig generateEnvFiles backupExisting
  simp only [Bool.and_false, Bool.false_eq_true, if_false, bind, Except.bind, ← hprompts]
  cases writeFile disk configPath texts.config s with
  | error s => rfl
  | ok s =>
    dsimp only
    cases writeFile disk envExamplePath texts.envExample (s.created [configPath]) with
    | error s => rfl
    | ok s => rfl

/-- What the prompt phase has done since `s₀`: outside the created list nothing has changed,
and what it put there was missing and is written now. -/
structure Grown (s₀ s : Progress) : Prop where
  unlisted : ∀ path, path ∉ s.tracked.created → s.files path = s₀.files path
  listed : ∀ path ∈ s.tracked.created, path ∈ s₀.tracked.created ∨
    (s₀.files path = none ∧ disk path = .done ∧ s.files path ≠ none)
  kept : ∀ path ∈ s₀.tracked.created, path ∈ s.tracked.created
  frame : ∀ path ∈ s₀.tracked.created, s.files path = s₀.files path
  backedUp : s.tracked.backedUp = s₀.tracked.backedUp

variable {disk} {s₀ s s' : Progress} {path text : String}

theorem Grown.refl (s : Progress) : Grown disk s s where
  unlisted := fun _ _ => rfl
  listed := fun _ hpath => .inl hpath
  kept := fun _ hpath => hpath
  frame := fun _ _ => rfl
  backedUp := rfl

/-- A prompt file found there in the middle of the phase was there before, or it was
written by the phase itself. -/
theorem Grown.found (h : Grown disk s₀ s) (hsome : s.files path ≠ none) (hfirst : path ∉ s₀.tracked.created) :
    s₀.files path ≠ none ∨ s₀.files path = none ∧ disk path = .done ∧ path ∈ s.tracked.created := by
  by_cases hmem : path ∈ s.tracked.created
  · obtain hmem' | ⟨hnone, hdone, _⟩ := h.listed path hmem
    · exact absurd hmem' hfirst
    · exact .inr ⟨hnone, hdone, hmem⟩
  · rw [h.unlisted path hmem] at hsome
    exact .inl hsome

/-- The prompt file about to be written was missing from the start. -/
theorem Grown.missing (h : Grown disk s₀ s) (hnone : s.files path = none) (hfirst : path ∉ s₀.tracked.created) :
    path ∉ s.tracked.created ∧ s₀.files path = none := by
  have hunlisted : path ∉ s.tracked.created := by
    intro hmem
    obtain hmem | ⟨_, _, hsome⟩ := h.listed path hmem
    · exact hfirst hmem
    · exact hsome hnone
  exact ⟨hunlisted, (h.unlisted path hunlisted).symm.trans hnone⟩

/-- A prompt file that was written and recorded. -/
theorem Grown.write (h : Grown disk s₀ s) (hnone : s.files path = none) (hfirst : path ∉ s₀.tracked.created)
    (hdone : disk path = .done) :
    Grown disk s₀ (Progress.created { s with files := s.files.write path text } [path]) where
  unlisted := by
    intro q hq
    simp only [Progress.created, List.mem_append, List.mem_singleton, not_or] at hq
    exact (FileTree.write_of_ne text hq.2).trans (h.unlisted q hq.1)
  listed := by
    intro q hq
    simp only [Progress.created, List.mem_append, List.mem_singleton] at hq
    by_cases heq : q = path
    · subst heq
      refine .inr ⟨(h.missing hnone hfirst).2, hdone, ?_⟩
      simp [Progress.created]
    · obtain hmem | ⟨h₀, hd, hsome⟩ := h.listed q (hq.resolve_right heq)
      · exact .inl hmem
      · refine .inr ⟨h₀, hd, ?_⟩
        show s.files.write path text q ≠ none
        rw [FileTree.write_of_ne text heq]
        exact hsome
  kept := fun q hq => List.mem_append_left _ (h.kept q hq)
  frame := by
    intro q hq
    have hne : q ≠ path := fun heq => hfirst (heq ▸ hq)
    exact (FileTree.write_of_ne text hne).trans (h.frame q hq)
  backedUp := h.backedUp

/-- The one thing `generatePrompt` does: it skips, writes and records, or throws. -/
theorem generatePrompt_cases (disk : String → WriteEnd String) (path text : String) (s : Progress) :
    (s.files path ≠ none ∧ generatePrompt disk path text s = .ok s) ∨
    (s.files path = none ∧ disk path = .done ∧ generatePrompt disk path text s =
      .ok (Progress.created { s with files := s.files.write path text } [path])) ∨
    ∃ left, s.files path = none ∧ disk path = .thrown left ∧
      generatePrompt disk path text s = .error { s with files := s.files.leave path left } := by
  unfold generatePrompt writeFile
  cases hfile : s.files path with
  | some _ => exact .inl ⟨by simp, rfl⟩
  | none =>
    cases hdisk : disk path with
    | done => exact .inr (.inl ⟨rfl, rfl, rfl⟩)
    | thrown left => exact .inr (.inr ⟨left, rfl, rfl, rfl⟩)

/-- The writes of a list that succeed before the first one throws, and the one that throws. -/
def doneWrites (disk : String → WriteEnd String) (ws : List (String × String)) : List (String × String) :=
  ws.takeWhile fun w => disk w.1 = .done

def failingWrite (disk : String → WriteEnd String) (ws : List (String × String)) : Option (String × String) :=
  ws.find? fun w => disk w.1 ≠ .done

/-- Where the prompt phase, gone on from `s`, stops: `w` is the first write of a missing prompt
file that throws, `u` the state it throws in. -/
structure PromptStop (disk : String → WriteEnd String) (s₀ s : Progress) (missing : List (String × String))
    (w : String × String) (left : Option String) (u : Progress) : Prop where
  failing : failingWrite disk missing = some w
  thrown : disk w.1 = .thrown left
  grown : Grown disk s₀ u
  created_iff : ∀ path, path ∈ u.tracked.created ↔
    path ∈ s.tracked.created ∨ ∃ v ∈ doneWrites disk missing, path = v.1

section Cons
variable {w w' : String × String} {missing : List (String × String)} {left : Option String} {u : Progress}

theorem failingWrite_cons_done (h : disk w.1 = .done) : failingWrite disk (w :: missing) = failingWrite disk missing := by
  simp [failingWrite, h]

theorem doneWrites_cons_done (h : disk w.1 = .done) : doneWrites disk (w :: missing) = w :: doneWrites disk missing := by
  simp [doneWrites, h]

theorem failingWrite_cons_thrown (h : disk w.1 = .thrown left) : failingWrite disk (w :: missing) = some w := by
  simp [failingWrite, h]

theorem doneWrites_cons_thrown (h : disk w.1 = .thrown left) : doneWrites disk (w :: missing) = [] := by
  simp [doneWrites, h]

/-- A missing prompt file that the phase has written, and recorded in `t`, comes before the stop. -/
theorem PromptStop.cons {t : Progress} (h : PromptStop disk s₀ t missing w left u) (hdone : disk w'.1 = .done)
    (hcreated : ∀ path, path ∈ t.tracked.created ↔ path ∈ s.tracked.created ∨ path = w'.1) :
    PromptStop disk s₀ s (w' :: missing) w left u where
  failing := (failingWrite_cons_done hdone).trans h.failing
  thrown := h.thrown
  grown := h.grown
  created_iff := by
    intro path
    rw [h.created_iff path, hcreated path, doneWrites_cons_done hdone, or_assoc]
    simp only [List.mem_cons, exists_eq_or_imp]

end Cons

/-- The prompt phase as a whole, when it succeeds: no write of a missing prompt file throws. -/
theorem generatePrompts_ok {ws : List (String × String)} (hws : ∀ w ∈ ws, w.1 ∉ s₀.tracked.created)
    (hs : Grown disk s₀ s) (h : generatePrompts disk ws s = .ok s') :
    failingWrite disk (ws.filter fun w => s₀.files w.1 = none) = none ∧ Grown disk s₀ s' := by
  induction ws generalizing s with
  | nil =>
    cases h
    exact ⟨rfl, hs⟩
  | cons w ws ih =>
    have hrest : ∀ w ∈ ws, w.1 ∉ s₀.tracked.created := fun w' hw' => hws w' (List.mem_cons_of_mem w hw')
    have hw : w.1 ∉ s₀.tracked.created := hws w List.mem_cons_self
    obtain ⟨hsome, heq⟩ | ⟨hnone, hdone, heq⟩ | ⟨left, hnone, hthrown, heq⟩ := generatePrompt_cases disk w.1 w.2 s
    · rw [generatePrompts, heq] at h
      obtain ⟨hfailing, hgrown⟩ := ih hrest hs h
      refine ⟨?_, hgrown⟩
      -- It was there from the start, or an earlier write of this run has made it.
      obtain h₀ | ⟨h₀, hdone, _⟩ := hs.found hsome hw
      · rw [List.filter_cons_of_neg (by simpa using h₀)]
        exact hfailing
      · rw [List.filter_cons_of_pos (by simpa using h₀), failingWrite_cons_done hdone]
        exact hfailing
    · rw [generatePrompts, heq] at h
      obtain ⟨hfailing, hgrown⟩ := ih hrest (hs.write hnone hw hdone) h
      refine ⟨?_, hgrown⟩
      obtain ⟨_, h₀⟩ := hs.missing hnone hw
      rw [List.filter_cons_of_pos (by simpa using h₀), failingWrite_cons_done hdone]
      exact hfailing
    · rw [generatePrompts, heq] at h
      cases h

/-- The prompt phase when it throws. -/
theorem generatePrompts_error {ws : List (String × String)} (hws : ∀ w ∈ ws, w.1 ∉ s₀.tracked.created)
    (hs : Grown disk s₀ s) (h : generatePrompts disk ws s = .error s') :
    ∃ w left u, PromptStop disk s₀ s (ws.filter fun w => s₀.files w.1 = none) w left u ∧
      s' = { u with files := u.files.leave w.1 left } := by
  induction ws generalizing s with
  | nil => cases h
  | cons w ws ih =>
    have hrest : ∀ w ∈ ws, w.1 ∉ s₀.tracked.created := fun w' hw' => hws w' (List.mem_cons_of_mem w hw')
    have hw : w.1 ∉ s₀.tracked.created := hws w List.mem_cons_self
    obtain ⟨hsome, heq⟩ | ⟨hnone, hdone, heq⟩ | ⟨left, hnone, hthrown, heq⟩ := generatePrompt_cases disk w.1 w.2 s
    · rw [generatePrompts, heq] at h
      obtain ⟨v, left, u, hstop, hs'⟩ := ih hrest hs h
      obtain h₀ | ⟨h₀, hdone, hmem⟩ := hs.found hsome hw
      · rw [List.filter_cons_of_neg (by simpa using h₀)]
        exact ⟨v, left, u, hstop, hs'⟩
      · -- an alias that is listed twice: its file is there because the phase has just written it
        rw [List.filter_cons_of_pos (by simpa using h₀)]
        refine ⟨v, left, u, hstop.cons hdone ?_, hs'⟩
        intro path
        exact ⟨.inl, fun hor => hor.elim id fun heq => heq ▸ hmem⟩
    · rw [generatePrompts, heq] at h
      obtain ⟨v, left, u, hstop, hs'⟩ := ih hrest (hs.write hnone hw hdone) h
      obtain ⟨_, h₀⟩ := hs.missing hnone hw
      rw [List.filter_cons_of_pos (by simpa using h₀)]
      refine ⟨v, left, u, hstop.cons hdone ?_, hs'⟩
      intro path
      simp [Progress.created]
    · rw [generatePrompts, heq] at h
      cases h
      obtain ⟨_, h₀⟩ := hs.missing hnone hw
      rw [List.filter_cons_of_pos (by simpa using h₀)]
      refine ⟨w, left, s, ⟨failingWrite_cons_thrown hthrown, hthrown, hs, ?_⟩, rfl⟩
      intro path
      rw [doneWrites_cons_thrown hthrown]
      simp

end Prompts

end AiGateway.Cli
