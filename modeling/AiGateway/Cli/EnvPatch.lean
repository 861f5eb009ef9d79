import AiGateway.Lib.Lines
import AiGateway.Lib.JsString

/- `EnvPatchService`: the CLI reads and patches `.env` line by line. A variable's lines are the
   ones that start with its name and `=`; the first of them has its value, a patch rewrites or
   drops them all. Every patch writes the whole file anew, so a value that ends in a stray
   carriage return loses it (`getVar_apply`). -/
namespace AiGateway.Cli

/-- The text of `.env`; a missing file reads like an empty one. -/
abbrev EnvText := List Char

/-- `${key}=`. -/
def assignment (key : String) : List Char := key.toList ++ ['=']

def assigns (key : String) (line : List Char) : Bool := decide (assignment key <+: line)

/-- `line.slice(prefix.length)`. -/
def assigned (key : String) (line : List Char) : List Char := line.drop (assignment key).length

def getVar (env : EnvText) (key : String) : Option (List Char) :=
  ((Lines.readLines env).find? (assigns key)).map (assigned key)

def setVar (env : EnvText) (key : String) (value : List Char) : EnvText :=
  let lines := Lines.readLines env
  let next := lines.map fun line => if assigns key line then assignment key ++ value else line
  Lines.joinLines (if lines.any (assigns key) then next else next ++ [assignment key ++ value])

def removeVar (env : EnvText) (key : String) : EnvText :=
  Lines.joinLines ((Lines.readLines env).filter fun line => !assigns key line)

/-- One call of the service that writes. -/
inductive EnvPatch where
  | set (key : String) (value : List Char)
  | remove (key : String)
  deriving DecidableEq, Repr

namespace EnvPatch

def key : EnvPatch → String
  | .set key _ => key
  | .remove key => key

/-- The value the patch leaves the variable with. -/
def value : EnvPatch → Option (List Char)
  | .set _ value => some value
  | .remove _ => none

def apply (env : EnvText) : EnvPatch → EnvText
  | .set key value => setVar env key value
  | .remove key => removeVar env key

end EnvPatch

/-- A name an environment variable can have in `.env`: no `=` and no line break. -/
def IsEnvName (name : String) : Prop := '=' ∉ name.toList ∧ '\n' ∉ name.toList

instance (name : String) : Decidable (IsEnvName name) :=
  inferInstanceAs (Decidable ('=' ∉ name.toList ∧ '\n' ∉ name.toList))

/-- A value that fits on a line. -/
def SingleLine (value : List Char) : Prop := '\n' ∉ value ∧ '\r' ∉ value

instance (value : List Char) : Decidable (SingleLine value) :=
  inferInstanceAs (Decidable ('\n' ∉ value ∧ '\r' ∉ value))

section Lines
variable {key other : String} {line value : List Char}

theorem assigns_iff : assigns key line = true ↔ ∃ value, line = assignment key ++ value := by
  simp only [assigns, decide_eq_true_eq]
  exact ⟨fun ⟨value, h⟩ => ⟨value, h.symm⟩, fun ⟨value, h⟩ => ⟨value, h.symm⟩⟩

theorem assigns_assignment (key : String) (value : List Char) : assigns key (assignment key ++ value) = true :=
  assigns_iff.mpr ⟨value, rfl⟩

theorem assigned_assignment (key : String) (value : List Char) : assigned key (assignment key ++ value) = value :=
  List.drop_left

/-- A line is of one variable only. -/
theorem assigns_unique (hkey : IsEnvName key) (hother : IsEnvName other) (h : assigns key line = true)
    (h' : assigns other line = true) : key = other := by
  obtain ⟨value, rfl⟩ := assigns_iff.mp h
  obtain ⟨value', heq⟩ := assigns_iff.mp h'
  unfold assignment at heq
  rw [List.append_assoc, List.append_assoc] at heq
  obtain ⟨hname, _⟩ | ⟨rest, hname, _⟩ | ⟨rest, hname, _⟩ := (JsString.append_sep_eq_iff '=').mp heq
  · exact String.toList_inj.mp hname
  · exact absurd (by simp [hname]) hother.1
  · exact absurd (by simp [hname]) hkey.1

/-- The carriage return a line loses is its value's. -/
theorem stripCr_assignment (key : String) (value : List Char) :
    Lines.stripCr (assignment key ++ value) = assignment key ++ Lines.stripCr value := by
  cases value with
  | nil => simp [Lines.stripCr, assignment]
  | cons c cs =>
    unfold Lines.stripCr
    rw [List.getLast?_append_of_ne_nil _ (List.cons_ne_nil c cs), List.dropLast_append_of_ne_nil (List.cons_ne_nil c cs)]
    split
    · rfl
    · rfl

theorem assigns_stripCr (key : String) (line : List Char) : assigns key (Lines.stripCr line) = assigns key line := by
  rw [Bool.eq_iff_iff]
  constructor
  · intro h
    have hsub : Lines.stripCr line <+: line := by
      unfold Lines.stripCr
      split
      · exact List.dropLast_prefix line
      · exact List.prefix_rfl
    simp only [assigns, decide_eq_true_eq] at h ⊢
    exact h.trans hsub
  · intro h
    obtain ⟨value, rfl⟩ := assigns_iff.mp h
    rw [stripCr_assignment]
    exact assigns_assignment key _

/-- A line that starts with a name has no break in it, and neither has the name. -/
theorem newline_not_mem_key (hline : '\n' ∉ line) (h : assigns key line = true) : '\n' ∉ key.toList := by
  obtain ⟨value, rfl⟩ := assigns_iff.mp h
  intro hmem
  exact hline (by simp [assignment, hmem])

theorem newline_not_mem_assignment (hkey : IsEnvName key) (hvalue : '\n' ∉ value) : '\n' ∉ assignment key ++ value := by
  simp [assignment, hkey.2, hvalue]

end Lines

/-- What is read of a variable from lines that were written: its first line's value, without a
carriage return at the end. -/
theorem getVar_joinLines {lines : List (List Char)} (h : ∀ line ∈ lines, '\n' ∉ line) (key : String) :
    getVar (Lines.joinLines lines) key =
      ((lines.find? (assigns key)).map (assigned key)).map Lines.stripCr := by
  have hfind : ((lines.map Lines.stripCr).filter fun line => line ≠ []).find? (assigns key) =
      (lines.find? (assigns key)).map Lines.stripCr := by
    rw [List.find?_filter, List.find?_map]
    congr 1
    apply congrArg (lines.find? ·)
    funext line
    simp only [Function.comp_apply, assigns_stripCr]
    cases hassigns : assigns key line with
    | false => simp
    | true =>
      obtain ⟨value, rfl⟩ := assigns_iff.mp hassigns
      rw [stripCr_assignment]
      simp [assignment]
  unfold getVar
  rw [Lines.readLines_joinLines h, hfind, Option.map_map, Option.map_map]
  cases hline : lines.find? (assigns key) with
  | none => rfl
  | some line =>
    obtain ⟨value, rfl⟩ := assigns_iff.mp (List.find?_some hline)
    show some (assigned key (Lines.stripCr (assignment key ++ value))) =
      some (Lines.stripCr (assigned key (assignment key ++ value)))
    rw [stripCr_assignment, assigned_assignment, assigned_assignment]

section Patch
variable {env : EnvText} {key name : String} {value : List Char}

/-- The lines `setVar` writes. -/
def setLines (key : String) (value : List Char) (lines : List (List Char)) : List (List Char) :=
  let next := lines.map fun line => if assigns key line then assignment key ++ value else line
  if lines.any (assigns key) then next else next ++ [assignment key ++ value]

theorem newline_not_mem_setLines {lines : List (List Char)} (hkey : IsEnvName key) (hvalue : '\n' ∉ value)
    (h : ∀ line ∈ lines, '\n' ∉ line) : ∀ line ∈ setLines key value lines, '\n' ∉ line := by
  have hnext : ∀ line ∈ lines.map fun line => if assigns key line then assignment key ++ value else line,
      '\n' ∉ line := by
    intro line hline
    obtain ⟨before, hbefore, rfl⟩ := List.mem_map.mp hline
    split
    · exact newline_not_mem_assignment hkey hvalue
    · exact h before hbefore
  intro line hline
  unfold setLines at hline
  split at hline
  · exact hnext line hline
  · obtain hline | hline := List.mem_append.mp hline
    · exact hnext line hline
    · rw [List.mem_singleton.mp hline]
      exact newline_not_mem_assignment hkey hvalue

/-- The variable that is set is found with the new value. -/
theorem find?_setLines_self (key : String) (value : List Char) (lines : List (List Char)) :
    (setLines key value lines).find? (assigns key) = some (assignment key ++ value) := by
  have hcomp : (assigns key ∘ fun line => if assigns key line then assignment key ++ value else line) = assigns key := by
    funext line
    simp only [Function.comp_apply]
    split
    · next h => rw [h, assigns_assignment]
    · rfl
  unfold setLines
  split
  · next hany =>
    obtain ⟨line, hline, hassigns⟩ := List.any_eq_true.mp hany
    rw [List.find?_map, hcomp]
    cases hfind : lines.find? (assigns key) with
    | none => exact absurd hassigns (List.find?_eq_none.mp hfind line hline)
    | some found => simp [List.find?_some hfind]
  · next hany =>
    have hnone : lines.find? (assigns key) = none := by
      rw [List.find?_eq_none]
      intro line hline hassigns
      exact hany (List.any_eq_true.mpr ⟨line, hline, hassigns⟩)
    rw [List.find?_append, List.find?_map, hcomp, hnone]
    simp [assigns_assignment]

/-- Every other variable is found as before. -/
theorem find?_setLines_of_ne (hkey : IsEnvName key) (hname : IsEnvName name) (hne : name ≠ key) (value : List Char)
    (lines : List (List Char)) : (setLines key value lines).find? (assigns name) = lines.find? (assigns name) := by
  have hself : ∀ line, assigns key line = true → assigns name line = false := by
    intro line h
    by_contra hnot
    exact hne (assigns_unique hname hkey (by simpa using hnot) h)
  have hcomp : (assigns name ∘ fun line => if assigns key line then assignment key ++ value else line) = assigns name := by
    funext line
    simp only [Function.comp_apply]
    split
    · next h => rw [hself line h, hself _ (assigns_assignment key value)]
    · rfl
  have hnext : (lines.map fun line => if assigns key line then assignment key ++ value else line).find? (assigns name) =
      lines.find? (assigns name) := by
    rw [List.find?_map, hcomp]
    cases hfind : lines.find? (assigns name) with
    | none => rfl
    | some found =>
      have hnot : assigns key found = false := by
        by_contra hassigns
        have hfalse := hself found (by simpa using hassigns)
        rw [List.find?_some hfind] at hfalse
        cases hfalse
      simp [hnot]
  unfold setLines
  split
  · exact hnext
  · rw [List.find?_append, hnext]
    simp [hself _ (assigns_assignment key value)]

/-- What a patch leaves of any variable: the patched one has the new value, the others the one
they had, less a carriage return at its end. -/
theorem getVar_apply {patch : EnvPatch} (hkey : IsEnvName patch.key) (hvalue : ∀ v ∈ patch.value, SingleLine v)
    (hname : IsEnvName name) (env : EnvText) :
    getVar (patch.apply env) name =
      (if name = patch.key then patch.value else getVar env name).map Lines.stripCr := by
  have hlines : ∀ line ∈ Lines.readLines env, '\n' ∉ line := fun line => Lines.newline_not_mem_readLines
  cases patch with
  | set key value =>
    replace hkey : IsEnvName key := hkey
    show getVar (Lines.joinLines (setLines key value (Lines.readLines env))) name = _
    have hlines' : ∀ line ∈ setLines key value (Lines.readLines env), '\n' ∉ line :=
      newline_not_mem_setLines hkey (hvalue value rfl).1 hlines
    rw [getVar_joinLines hlines']
    by_cases heq : name = key
    · subst heq
      rw [find?_setLines_self]
      simp [EnvPatch.key, EnvPatch.value, assigned_assignment]
    · rw [find?_setLines_of_ne hkey hname heq]
      simp [EnvPatch.key, heq, getVar]
  | remove key =>
    replace hkey : IsEnvName key := hkey
    show getVar (Lines.joinLines ((Lines.readLines env).filter fun line => !assigns key line)) name = _
    rw [getVar_joinLines fun line hline => hlines line (List.mem_of_mem_filter hline), List.find?_filter]
    by_cases heq : name = key
    · subst heq
      simp [EnvPatch.key, EnvPatch.value]
    -- No line assigns two names, so that the filter takes none of the lines of this one.
    · have hcomp : (fun line => decide ((!assigns key line) = true ∧ assigns name line = true)) = assigns name := by
        funext line
        cases hassigns : assigns name line with
        | false => simp
        | true =>
          have hnot : assigns key line ≠ true := fun h => heq (assigns_unique hname hkey hassigns h)
          simp [hnot]
      rw [hcomp]
      simp [EnvPatch.key, heq, getVar]

/-- The patches of one operation, in their order. -/
def EnvPatch.applyAll (patches : List EnvPatch) (env : EnvText) : EnvText := patches.foldl EnvPatch.apply env

variable {patches : List EnvPatch}

/-- A value that fits on a line loses nothing when it is written. -/
theorem stripCr_value {patch : EnvPatch} (h : ∀ v ∈ patch.value, SingleLine v) :
    patch.value.map Lines.stripCr = patch.value := by
  cases hv : patch.value with
  | none => rfl
  | some v =>
    have hcr : v.getLast? ≠ some '\r' := fun hlast => (h v hv).2 (List.mem_of_getLast? hlast)
    rw [Option.map_some, Lines.stripCr_eq_self_iff.mpr hcr]

/-- The patch that has the last word on a variable. -/
def lastPatch (patches : List EnvPatch) (name : String) : Option EnvPatch :=
  patches.reverse.find? fun patch => patch.key = name

/-- What a run of patches leaves of a variable: the value of the last patch of its own, or, when
there is none, the value it had, rewritten once for each patch. -/
theorem getVar_applyAll_last (hkeys : ∀ patch ∈ patches, IsEnvName patch.key)
    (hvalues : ∀ patch ∈ patches, ∀ v ∈ patch.value, SingleLine v) (hname : IsEnvName name) (env : EnvText) :
    getVar (EnvPatch.applyAll patches env) name =
      match lastPatch patches name with
      | some patch => patch.value
      | none => (getVar env name).map Lines.stripCr^[patches.length] := by
  induction patches using List.reverseRecOn with
  | nil => simp [EnvPatch.applyAll, lastPatch]
  | append_singleton patches patch ih =>
    have hlast : patch ∈ patches ++ [patch] := by simp
    have hbefore : ∀ p ∈ patches, p ∈ patches ++ [patch] := fun p hp => List.mem_append_left _ hp
    have hget : getVar (EnvPatch.applyAll (patches ++ [patch]) env) name =
        (if name = patch.key then patch.value else getVar (EnvPatch.applyAll patches env) name).map Lines.stripCr := by
      rw [EnvPatch.applyAll, List.foldl_append]
      exact getVar_apply (hkeys patch hlast) (hvalues patch hlast) hname _
    rw [hget, lastPatch, List.reverse_append]
    by_cases heq : name = patch.key
    · simp [heq, stripCr_value (hvalues patch hlast)]
    · have hskip : ([patch].reverse ++ patches.reverse).find? (fun p => decide (p.key = name)) =
          lastPatch patches name := by
        simp [lastPatch, Ne.symm heq]
      rw [if_neg heq, ih (fun p hp => hkeys p (hbefore p hp)) fun p hp => hvalues p (hbefore p hp), hskip]
      cases hfound : lastPatch patches name with
      | some p =>
        have hp : p ∈ patches := List.mem_reverse.mp (List.mem_of_find?_eq_some hfound)
        exact stripCr_value (hvalues p (hbefore p hp))
      | none =>
        simp only [Option.map_map, List.length_append, List.length_singleton, ← Function.iterate_succ']

/-- What a run of patches leaves of a variable: the value of a patch of its own, or, when there
is none, the value it had, rewritten once for each patch. -/
theorem getVar_applyAll (hkeys : ∀ patch ∈ patches, IsEnvName patch.key)
    (hvalues : ∀ patch ∈ patches, ∀ v ∈ patch.value, SingleLine v) (hname : IsEnvName name) (env : EnvText) :
    (∃ patch ∈ patches, patch.key = name ∧ getVar (EnvPatch.applyAll patches env) name = patch.value) ∨
    ((∀ patch ∈ patches, patch.key ≠ name) ∧
      getVar (EnvPatch.applyAll patches env) name = (getVar env name).map Lines.stripCr^[patches.length]) := by
  have hget := getVar_applyAll_last hkeys hvalues hname env
  cases hfound : lastPatch patches name with
  | some patch =>
    rw [hfound] at hget
    have hkey : patch.key = name := by simpa using List.find?_some hfound
    exact .inl ⟨patch, List.mem_reverse.mp (List.mem_of_find?_eq_some hfound), hkey, hget⟩
  | none =>
    rw [hfound] at hget
    refine .inr ⟨?_, hget⟩
    intro patch hpatch
    simpa using List.find?_eq_none.mp hfound patch (List.mem_reverse.mpr hpatch)

/-- Every variable is read alike. -/
def SameVariables (env env' : EnvText) : Prop := ∀ name, IsEnvName name → getVar env name = getVar env' name

/-- A run of patches that changes no variable: the last patch of each gives it the value it has,
and no value has a carriage return at its end. -/
structure KeepsVariables (patches : List EnvPatch) (env : EnvText) : Prop where
  last : ∀ name patch, lastPatch patches name = some patch → patch.value = getVar env name
  whole : ∀ name, IsEnvName name → ∀ v ∈ getVar env name, v.getLast? ≠ some '\r'

theorem keepsVariables_iff (hne : patches ≠ []) (hkeys : ∀ patch ∈ patches, IsEnvName patch.key)
    (hvalues : ∀ patch ∈ patches, ∀ v ∈ patch.value, SingleLine v) (env : EnvText) :
    SameVariables (EnvPatch.applyAll patches env) env ↔ KeepsVariables patches env := by
  obtain ⟨n, hn⟩ : ∃ n, patches.length = n + 1 := Nat.exists_eq_succ_of_ne_zero (by simpa using hne)
  have hof : ∀ name patch, lastPatch patches name = some patch → patch ∈ patches ∧ patch.key = name := by
    intro name patch hfound
    exact ⟨List.mem_reverse.mp (List.mem_of_find?_eq_some hfound), by simpa using List.find?_some hfound⟩
  constructor
  · intro h
    refine ⟨?_, ?_⟩
    · intro name patch hfound
      obtain ⟨hpatch, rfl⟩ := hof name patch hfound
      have hget := getVar_applyAll_last hkeys hvalues (hkeys patch hpatch) env
      rw [hfound] at hget
      exact hget.symm.trans (h patch.key (hkeys patch hpatch))
    · intro name hname v hv
      -- Every patch rewrites all lines, and each rewriting strips a carriage return.
      have hget := (getVar_applyAll_last hkeys hvalues hname env).symm.trans (h name hname)
      rw [Option.mem_def] at hv
      cases hfound : lastPatch patches name with
      | some patch =>
        rw [hfound] at hget
        intro hcr
        exact (hvalues patch (hof name patch hfound).1 v (hget.trans hv)).2 (List.mem_of_getLast? hcr)
      | none =>
        rw [hfound, hv, hn] at hget
        exact Lines.iterate_stripCr_eq_self_iff.mp (Option.some.inj hget)
  · intro h name hname
    rw [getVar_applyAll_last hkeys hvalues hname env]
    cases hfound : lastPatch patches name with
    | some patch => exact h.last name patch hfound
    | none =>
      rw [hn]
      cases hv : getVar env name with
      | none => rfl
      | some v => exact congrArg some (Lines.iterate_stripCr_eq_self_iff.mpr (h.whole name hname v hv))

/-- A variable that keeps its value through some patches: none of them gives it another, and
there is no carriage return at the end for the rewriting to take. -/
def Undisturbed (patches : List EnvPatch) (env : EnvText) (name : String) : Prop :=
  (∀ v ∈ getVar env name, v.getLast? ≠ some '\r') ∧
    ∀ patch ∈ patches, patch.key = name → patch.value = getVar env name

instance (patches : List EnvPatch) (env : EnvText) (name : String) : Decidable (Undisturbed patches env name) :=
  inferInstanceAs (Decidable ((∀ v ∈ getVar env name, v.getLast? ≠ some '\r') ∧
    ∀ patch ∈ patches, patch.key = name → patch.value = getVar env name))

/-- Patches of one variable all give it the same value. -/
def Coherent (patches : List EnvPatch) : Prop :=
  ∀ p ∈ patches, ∀ q ∈ patches, p.key = q.key → p.value = q.value

theorem getVar_applyAll_eq_iff (hne : patches ≠ []) (hcoherent : Coherent patches)
    (hkeys : ∀ patch ∈ patches, IsEnvName patch.key)
    (hvalues : ∀ patch ∈ patches, ∀ v ∈ patch.value, SingleLine v) (hname : IsEnvName name) (env : EnvText) :
    getVar (EnvPatch.applyAll patches env) name = getVar env name ↔ Undisturbed patches env name := by
  obtain ⟨patch, hpatch, hkey, hval⟩ | ⟨hnone, hval⟩ := getVar_applyAll hkeys hvalues hname env
  · rw [hval]
    constructor
    · intro h
      refine ⟨?_, ?_⟩
      · intro v hv hcr
        exact (hvalues patch hpatch v (h ▸ hv)).2 (List.mem_of_getLast? hcr)
      · intro p hp hpkey
        rw [← h]
        exact hcoherent p hp patch hpatch (hpkey.trans hkey.symm)
    · intro h
      exact h.2 patch hpatch hkey
  · obtain ⟨n, hn⟩ : ∃ n, patches.length = n + 1 := Nat.exists_eq_succ_of_ne_zero (by simpa using hne)
    rw [hval, hn]
    unfold Undisturbed
    have hrest : (∀ patch ∈ patches, patch.key = name → patch.value = getVar env name) ↔ True :=
      iff_true_intro fun p hp hkey => absurd hkey (hnone p hp)
    rw [hrest, and_true]
    cases getVar env name with
    | none => simp
    | some v => simpa using Lines.iterate_stripCr_eq_self_iff

end Patch

end AiGateway.Cli
