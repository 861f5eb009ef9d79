import AiGateway.Cli.EnvUndo

/- The laws of `EnvPatchService`: a variable that is set is read back, every other variable and
   every other line stays, and the line breaks of the file do not matter.

   The file is split at `\r?\n` and written with `\n`. A line that ends in a carriage return of
   its own (`A=1\r\r\n`, or `A=1\r` at the end of the file) is written in front of a `\n`, which
   takes that carriage return with it the next time. `envLaws_iff`: the laws hold exactly when no
   line but those of the variable itself ends so. -/
namespace AiGateway.Cli

/-- The lines of the file that are not of the variable. -/
def otherLines (env : EnvText) (key : String) : List (List Char) :=
  (Lines.readLines env).filter fun line => !assigns key line

/-- Two files no operation tells apart. -/
structure SameFile (env env' : EnvText) : Prop where
  getVar_eq : ∀ name, getVar env name = getVar env' name
  setVar_eq : ∀ key value, setVar env key value = setVar env' key value
  removeVar_eq : ∀ key, removeVar env key = removeVar env' key

/-- What is asked of `setVar` and `removeVar` for one file, variable and value. -/
structure EnvLaws (env : EnvText) (key : String) (value : List Char) : Prop where
  set_own : getVar (setVar env key value) key = some value
  set_other : ∀ name, IsEnvName name → name ≠ key → getVar (setVar env key value) name = getVar env name
  set_lines : otherLines (setVar env key value) key = otherLines env key
  set_set : ∀ value', SingleLine value' → setVar (setVar env key value) key value' = setVar env key value'
  remove_own : getVar (removeVar env key) key = none
  remove_other : ∀ name, IsEnvName name → name ≠ key → getVar (removeVar env key) name = getVar env name
  remove_lines : Lines.readLines (removeVar env key) = otherLines env key
  crlf : SameFile (Lines.withCrlf env) env
  unterminated : SameFile (Lines.dropFinalBreak env) env

section Laws
variable {env env' : EnvText} {key : String} {value : List Char}

theorem sameFile_of_lines (h : Lines.readLines env = Lines.readLines env') : SameFile env env' where
  getVar_eq name := by unfold getVar; rw [h]
  setVar_eq key value := by unfold setVar; rw [h]
  removeVar_eq key := by unfold removeVar; rw [h]

theorem otherLines_ne_nil {line : List Char} (h : line ∈ otherLines env key) : line ≠ [] := by
  have hread := List.mem_of_mem_filter h
  simpa using List.of_mem_filter hread

/-- The other lines once the variable is set: written, each loses a carriage return at its end. -/
theorem otherLines_setVar (hkey : IsEnvName key) (hvalue : SingleLine value) :
    otherLines (setVar env key value) key = ((otherLines env key).map Lines.stripCr).filter fun line => line ≠ [] := by
  have hadded : (if (Lines.readLines env).any (assigns key) then [] else writtenLines key value).filter
      (fun line => !assigns key line) = [] := by
    rw [writtenLines_eq hkey.2 hvalue]
    split
    · rfl
    · simp [assigns_assignment]
  have hmap : ((Lines.readLines env).map (rewritten key value)).filter (fun line => !assigns key line) =
      (otherLines env key).map Lines.stripCr := by
    rw [List.filter_map, otherLines]
    have hcomp : ((fun line => !assigns key line) ∘ rewritten key value) = fun line => !assigns key line := by
      funext line
      exact congrArg (!·) assigns_rewritten_self
    rw [hcomp]
    apply List.map_congr_left
    intro line hline
    have hnot : assigns key line = false := by simpa using List.of_mem_filter hline
    simp [rewritten, hnot]
  rw [otherLines, readLines_setVar hvalue, List.filter_append, hadded, List.append_nil, List.filter_comm, hmap]

theorem readLines_removeVar :
    Lines.readLines (removeVar env key) = ((otherLines env key).map Lines.stripCr).filter fun line => line ≠ [] :=
  Lines.readLines_joinLines fun _ hline => Lines.newline_not_mem_readLines (List.mem_of_mem_filter hline)

/-- A line of the file that is written is the new one or one of the others. -/
theorem mem_setLines {line : List Char} (h : line ∈ setLines key value (Lines.readLines env)) :
    line = assignment key ++ value ∨ line ∈ otherLines env key := by
  have hkept : ∀ line ∈ (Lines.readLines env).map fun line => if assigns key line then assignment key ++ value else line,
      line = assignment key ++ value ∨ line ∈ otherLines env key := by
    intro line hline
    obtain ⟨before, hbefore, rfl⟩ := List.mem_map.mp hline
    split
    · exact .inl rfl
    · next hnot => exact .inr (List.mem_filter.mpr ⟨hbefore, by simpa using hnot⟩)
  unfold setLines at h
  split at h
  · exact hkept line h
  · -- the variable is new: its line is appended
    obtain hold | hnew := List.mem_append.mp h
    · exact hkept line hold
    · exact .inl (List.mem_singleton.mp hnew)

/-- A set is read back line by line when the other lines keep their text. -/
theorem readLines_setVar_eq (hkey : IsEnvName key) (hvalue : SingleLine value)
    (h : ∀ line ∈ otherLines env key, line.getLast? ≠ some '\r') :
    Lines.readLines (setVar env key value) = setLines key value (Lines.readLines env) := by
  have hlines : ∀ line ∈ setLines key value (Lines.readLines env), '\n' ∉ line :=
    newline_not_mem_setLines hkey hvalue.1 fun line => Lines.newline_not_mem_readLines
  have hwhole : ∀ line ∈ setLines key value (Lines.readLines env), line.getLast? ≠ some '\r' := by
    intro line hline
    obtain rfl | hother := mem_setLines hline
    · exact Lines.stripCr_eq_self_iff.mp (stripCr_written hvalue)
    · exact h line hother
  have hne : ∀ line ∈ setLines key value (Lines.readLines env), line ≠ [] := by
    intro line hline
    obtain rfl | hother := mem_setLines hline
    · simp [assignment]
    · exact otherLines_ne_nil hother
  show Lines.readLines (Lines.joinLines (setLines key value (Lines.readLines env))) = _
  rw [Lines.readLines_joinLines hlines]
  exact (Lines.filter_map_stripCr_eq_self_iff hne).mpr hwhole

/-- The lines of a variable that is set twice are those of the second time. -/
theorem setLines_setLines (key : String) (value value' : List Char) (lines : List (List Char)) :
    setLines key value' (setLines key value lines) = setLines key value' lines := by
  have hcomp : ((fun line => if assigns key line then assignment key ++ value' else line) ∘
      fun line => if assigns key line then assignment key ++ value else line) =
      fun line => if assigns key line then assignment key ++ value' else line := by
    funext line
    by_cases hassigns : assigns key line = true
    · simp [hassigns, assigns_assignment]
    · simp [hassigns]
  have hany : (setLines key value lines).any (assigns key) = true := by
    rw [List.any_eq_true]
    have hfind := find?_setLines_self key value lines
    exact ⟨_, List.mem_of_find?_eq_some hfind, List.find?_some hfind⟩
  rw [setLines, if_pos hany]
  unfold setLines
  dsimp only
  split
  · rw [List.map_map, hcomp]
  · rw [List.map_append, List.map_map, hcomp]
    simp [assigns_assignment]

/-- Every variable once `key` is set. -/
theorem getVar_set (hkey : IsEnvName key) (hvalue : SingleLine value) {name : String} (hname : IsEnvName name)
    (env : EnvText) :
    getVar (setVar env key value) name = if name = key then some value else (getVar env name).map Lines.stripCr := by
  have hown : ∀ v ∈ (EnvPatch.set key value).value, SingleLine v := by simpa [EnvPatch.value] using hvalue
  have hget := @getVar_apply name (.set key value) hkey hown hname env
  rw [EnvPatch.key, apply_ite (Option.map Lines.stripCr), stripCr_value hown] at hget
  exact hget

/-- Every variable once `key` is removed. -/
theorem getVar_remove (hkey : IsEnvName key) {name : String} (hname : IsEnvName name) (env : EnvText) :
    getVar (removeVar env key) name = if name = key then none else (getVar env name).map Lines.stripCr := by
  have hnone : ∀ v ∈ (EnvPatch.remove key).value, SingleLine v := by simp [EnvPatch.value]
  have hget := @getVar_apply name (.remove key) hkey hnone hname env
  rw [EnvPatch.key, apply_ite (Option.map Lines.stripCr)] at hget
  exact hget

/-- A value that is read of another variable is at the end of another line. -/
theorem getVar_whole {name : String} (hkey : IsEnvName key) (hname : IsEnvName name) (hne : name ≠ key)
    (h : ∀ line ∈ otherLines env key, line.getLast? ≠ some '\r') :
    (getVar env name).map Lines.stripCr = getVar env name := by
  obtain ⟨w, hfind, hget⟩ | ⟨_, hget⟩ := getVar_cases env name
  · have hassigns : assigns key (assignment name ++ w) = false := by
      by_contra hnot
      exact hne (assigns_unique hname hkey (assigns_assignment name w) (by simpa using hnot))
    have hother : assignment name ++ w ∈ otherLines env key :=
      List.mem_filter.mpr ⟨List.mem_of_find?_eq_some hfind, by simpa using hassigns⟩
    have hstrip := Lines.stripCr_eq_self_iff.mpr (h _ hother)
    rw [stripCr_assignment] at hstrip
    rw [hget, Option.map_some, List.append_cancel_left hstrip]
  · rw [hget, Option.map_none]

end Laws

/-- The laws hold exactly when no line of another text ends in a carriage return. -/
theorem envLaws_iff {key : String} {value : List Char} (hkey : IsEnvName key) (hvalue : SingleLine value) (env : EnvText) :
    EnvLaws env key value ↔ ∀ line ∈ Lines.readLines env, assigns key line = false → line.getLast? ≠ some '\r' := by
  have hcond : (∀ line ∈ Lines.readLines env, assigns key line = false → line.getLast? ≠ some '\r') ↔
      ∀ line ∈ otherLines env key, line.getLast? ≠ some '\r' := by
    simp [otherLines]
  rw [hcond]
  constructor
  · intro laws
    have hlines := laws.remove_lines
    rw [readLines_removeVar] at hlines
    exact (Lines.filter_map_stripCr_eq_self_iff fun line => otherLines_ne_nil).mp hlines
  · intro h
    have hkept := (Lines.filter_map_stripCr_eq_self_iff fun line => otherLines_ne_nil).mpr h
    refine
      { set_own := ?_, set_other := ?_, set_lines := ?_, set_set := ?_, remove_own := ?_, remove_other := ?_,
        remove_lines := ?_, crlf := ?_, unterminated := ?_ }
    · rw [getVar_set hkey hvalue hkey, if_pos rfl]
    · intro name hname hne
      rw [getVar_set hkey hvalue hname, if_neg hne, getVar_whole hkey hname hne h]
    · rw [otherLines_setVar hkey hvalue, hkept]
    · intro value' _
      show Lines.joinLines (setLines key value' (Lines.readLines (setVar env key value))) =
        Lines.joinLines (setLines key value' (Lines.readLines env))
      rw [readLines_setVar_eq hkey hvalue h, setLines_setLines]
    · rw [getVar_remove hkey hkey, if_pos rfl]
    · intro name hname hne
      rw [getVar_remove hkey hname, if_neg hne, getVar_whole hkey hname hne h]
    · rw [readLines_removeVar, hkept]
    · exact sameFile_of_lines (Lines.readLines_withCrlf env)
    · exact sameFile_of_lines (Lines.readLines_dropFinalBreak env)

/-- A commented file with Windows line breaks, duplicates and no break at its end. -/
def sampleEnv : EnvText := "# secrets\r\nA=1\r\n\r\nB=2\r\nA=3".toList

theorem envLaws_sample : EnvLaws sampleEnv "A" "4".toList :=
  (envLaws_iff (by decide) (by decide) sampleEnv).mpr (by decide)

/-- `B` is set, and the value of `A` is another one. -/
theorem other_value_cut :
    getVar "A=1\r\r\n".toList "A" = some "1\r".toList ∧
      getVar (setVar "A=1\r\r\n".toList "B" "2".toList) "A" = some "1".toList ∧
      ¬ EnvLaws "A=1\r\r\n".toList "B" "2".toList := by
  refine ⟨by decide, by decide, ?_⟩
  intro laws
  exact absurd (laws.set_other "A" (by decide) (by decide)) (by decide)

end AiGateway.Cli
