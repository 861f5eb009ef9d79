import AiGateway.Cli.EnvPatch

/- One variable set and removed again, whatever its name is. The lines that start with a name
   that has a `=` in it are lines of the variable before the `=`; a name with a line break is on
   no line, so that setting it adds several lines and removing it removes none.

   `setAndRemoved_iff` says when every variable is as it was, `setOnly_iff` the same when the
   removal is not written. -/
namespace AiGateway.Cli

/-- The lines that are read of the one that `setVar` writes. -/
def writtenLines (key : String) (value : List Char) : List (List Char) :=
  Lines.readLines (Lines.joinLines [assignment key ++ value])

/-- What is read of a line of `.env` once the variable is set. -/
def rewritten (key : String) (value line : List Char) : List Char :=
  if assigns key line then assignment key ++ value else Lines.stripCr line

/-- Set and removed, a variable leaves all as they were: no value is on a line that goes, and no
line that stays is of a variable that was not there. -/
structure SetAndRemoved (key : String) (value : List Char) (env : EnvText) : Prop where
  unremoved : ∀ name, IsEnvName name → ∀ v ∈ getVar env name, assigns key (assignment name ++ v) = false
  unadded : '\n' ∈ key.toList → ∀ name, IsEnvName name → ∀ line ∈ writtenLines key value, assigns name line = true →
    (getVar env name).isSome = true
  whole : ∀ name, IsEnvName name → ∀ v ∈ getVar env name, v.getLast? ≠ some '\r'

/-- Set only, a variable is one that was there, with the same value if its first line is written. -/
structure SetOnly (key : String) (value : List Char) (env : EnvText) : Prop where
  there : ∀ name, IsEnvName name → ∀ line ∈ writtenLines key value, assigns name line = true →
    ∃ v ∈ getVar env name, assigns key (assignment name ++ v) = true → assignment name ++ v = line
  whole : ∀ name, IsEnvName name → ∀ v ∈ getVar env name, v.getLast? ≠ some '\r'

/-! ## Lines -/

section Lines
variable {env : EnvText} {key name : String} {value line : List Char}

theorem stripCr_written (hvalue : SingleLine value) : Lines.stripCr (assignment key ++ value) = assignment key ++ value := by
  rw [stripCr_assignment]
  congr 1
  rw [Lines.stripCr_eq_self_iff]
  intro hcr
  exact hvalue.2 (List.mem_of_getLast? hcr)

/-- A name without a line break is written on one line. -/
theorem writtenLines_eq (hkey : '\n' ∉ key.toList) (hvalue : SingleLine value) :
    writtenLines key value = [assignment key ++ value] := by
  have hline : ∀ line ∈ [assignment key ++ value], '\n' ∉ line := by
    intro line hline
    rw [List.mem_singleton.mp hline]
    simp [assignment, hkey, hvalue.1]
  rw [writtenLines, Lines.readLines_joinLines hline, List.map_singleton, stripCr_written hvalue]
  simp [assignment]

/-- What is assigned by a line that starts with a name does not depend on its value. -/
theorem assigns_assignment_congr (hname : IsEnvName name) (u v : List Char) :
    assigns name (assignment key ++ u) = assigns name (assignment key ++ v) := by
  have hto : ∀ u v, assignment name <+: assignment key ++ u → assignment name <+: assignment key ++ v := by
    intro u v h
    obtain hshort | ⟨t, ht⟩ := List.prefix_or_prefix_of_prefix h (List.prefix_append (assignment key) u)
    · exact hshort.trans (List.prefix_append _ _)
    · -- the key, its `=` included, is within `name=`: it is all of it
      have hnil : t = [] := by
        by_contra hne
        obtain ⟨s, c, rfl⟩ := List.eq_nil_or_concat t |>.resolve_left hne
        have hchars : key.toList ++ ['='] ++ s = name.toList := by
          have hinit := congrArg List.dropLast ht
          simpa [assignment, ← List.append_assoc] using hinit
        exact hname.1 (hchars ▸ by simp)
      rw [hnil, List.append_nil] at ht
      rw [← ht]
      exact List.prefix_append _ _
  rw [Bool.eq_iff_iff, assigns, assigns, decide_eq_true_iff, decide_eq_true_iff]
  exact ⟨hto u v, hto v u⟩

theorem assigns_rewritten (hname : IsEnvName name) : assigns name (rewritten key value line) = assigns name line := by
  unfold rewritten
  split
  · next h =>
    obtain ⟨u, rfl⟩ := assigns_iff.mp h
    exact assigns_assignment_congr hname value u
  · exact assigns_stripCr name line

theorem assigns_rewritten_self : assigns key (rewritten key value line) = assigns key line := by
  unfold rewritten
  split
  · next h => rw [h, assigns_assignment]
  · exact assigns_stripCr key line

/-- The lines of `.env` once the variable is set. -/
theorem readLines_setVar (hvalue : SingleLine value) : Lines.readLines (setVar env key value) =
    (((Lines.readLines env).map (rewritten key value)).filter fun line => line ≠ []) ++
      if (Lines.readLines env).any (assigns key) then [] else writtenLines key value := by
  have hlines : ∀ line ∈ Lines.readLines env, '\n' ∉ line := fun line => Lines.newline_not_mem_readLines
  show Lines.readLines (Lines.joinLines (setLines key value (Lines.readLines env))) = _
  unfold setLines
  dsimp only
  -- A name that no line assigns is added at the end.
  by_cases hany : (Lines.readLines env).any (assigns key) = true
  · obtain ⟨line, hline, hassigns⟩ := List.any_eq_true.mp hany
    have hkey := newline_not_mem_key (hlines line hline) hassigns
    rw [if_pos hany, if_pos hany, List.append_nil, Lines.readLines_joinLines, List.map_map]
    · congr 1
      apply List.map_congr_left
      intro line _
      simp only [Function.comp_apply, rewritten]
      split
      · exact stripCr_written hvalue
      · rfl
    · intro line hline
      obtain ⟨before, hbefore, rfl⟩ := List.mem_map.mp hline
      split
      · simp [assignment, hkey, hvalue.1]
      · exact hlines before hbefore
  · have hnone : ∀ line ∈ Lines.readLines env, assigns key line = false := by simpa using hany
    have hsame : ((Lines.readLines env).map fun line => if assigns key line then assignment key ++ value else line) =
        Lines.readLines env := by
      conv_rhs => rw [← List.map_id (Lines.readLines env)]
      apply List.map_congr_left
      intro line hline
      simp [hnone line hline]
    rw [if_neg hany, if_neg hany, hsame, Lines.readLines_joinLines_append, Lines.readLines_joinLines hlines]
    congr 2
    apply List.map_congr_left
    intro line hline
    simp [rewritten, hnone line hline]

/-- Lines are found by what they assign before and after they are rewritten. -/
theorem find?_rewritten {p q : List Char → Bool} (hp : ∀ line, p line = true → line ≠ [])
    (hpq : ∀ line, p (rewritten key value line) = q line) (lines : List (List Char)) :
    ((lines.map (rewritten key value)).filter fun line => line ≠ []).find? p =
      (lines.find? q).map (rewritten key value) := by
  rw [List.find?_filter, List.find?_map]
  congr 1
  apply congrArg (lines.find? ·)
  funext line
  rw [← hpq line]
  simp only [Function.comp_apply]
  cases h : p (rewritten key value line) with
  | false => simp
  | true => simp [hp _ h]

theorem ne_nil_of_assigns (h : assigns key line = true) : line ≠ [] := by
  obtain ⟨value, rfl⟩ := assigns_iff.mp h
  simp [assignment]

end Lines

/-! ## Variables -/

section Variables
variable {env : EnvText} {key name : String} {value : List Char}

theorem find?_and_of_find? {α : Type} {p q : α → Bool} {xs : List α} {x : α} (h : xs.find? p = some x) (hq : q x = true) :
    xs.find? (fun y => q y && p y) = some x := by
  induction xs with
  | nil => cases h
  | cons y xs ih =>
    cases hp : p y with
    | true =>
      rw [List.find?_cons_of_pos hp] at h
      cases h
      exact List.find?_cons_of_pos (by rw [hq, hp, Bool.and_self])
    | false =>
      rw [List.find?_cons_of_neg (by simp [hp])] at h
      rw [List.find?_cons_of_neg (by simp [hp])]
      exact ih h

/-- The first line of a variable. -/
theorem getVar_cases (env : EnvText) (name : String) :
    (∃ w, (Lines.readLines env).find? (assigns name) = some (assignment name ++ w) ∧ getVar env name = some w) ∨
      ((Lines.readLines env).find? (assigns name) = none ∧ getVar env name = none) := by
  unfold getVar
  cases hfind : (Lines.readLines env).find? (assigns name) with
  | none => exact .inr ⟨rfl, rfl⟩
  | some line =>
    obtain ⟨w, rfl⟩ := assigns_iff.mp (List.find?_some hfind)
    exact .inl ⟨w, rfl, congrArg some (assigned_assignment name w)⟩

/-- What is read of a variable after a set. -/
theorem getVar_setVar (hvalue : SingleLine value) (hname : IsEnvName name) :
    getVar (setVar env key value) name =
      ((((Lines.readLines env).find? (assigns name)).map (rewritten key value)).or
        ((if (Lines.readLines env).any (assigns key) then [] else writtenLines key value).find? (assigns name))).map
          (assigned name) := by
  rw [getVar, readLines_setVar hvalue, List.find?_append,
    find?_rewritten (fun _ => ne_nil_of_assigns) (fun _ => assigns_rewritten hname)]

/-- What is read of a variable after a set and a removal. -/
theorem getVar_removeVar_setVar (hvalue : SingleLine value) (hname : IsEnvName name) :
    getVar (removeVar (setVar env key value) key) name =
      (((((Lines.readLines env).find? fun line => !assigns key line && assigns name line).map (rewritten key value)).or
        ((if (Lines.readLines env).any (assigns key) then [] else writtenLines key value).find?
          fun line => !assigns key line && assigns name line)).map (assigned name)).map Lines.stripCr := by
  have hlines : ∀ line ∈ (Lines.readLines (setVar env key value)).filter fun line => !assigns key line, '\n' ∉ line :=
    fun line hline => Lines.newline_not_mem_readLines (List.mem_of_mem_filter hline)
  have hpq : ∀ line, (!assigns key (rewritten key value line) && assigns name (rewritten key value line)) =
      (!assigns key line && assigns name line) := by
    intro line
    rw [assigns_rewritten_self, assigns_rewritten hname]
  have hne : ∀ line, (!assigns key line && assigns name line) = true → line ≠ [] := by
    intro line h
    rw [Bool.and_eq_true] at h
    exact ne_nil_of_assigns h.2
  unfold removeVar
  rw [getVar_joinLines hlines, List.find?_filter]
  simp only [Bool.decide_and, Bool.decide_eq_true]
  rw [readLines_setVar hvalue, List.find?_append, find?_rewritten hne hpq]

/-- The lines that a set adds are of no variable when its own lines are of none. -/
theorem find?_added (hvalue : SingleLine value) (hname : IsEnvName name)
    (hnone : (Lines.readLines env).find? (assigns name) = none) :
    (if (Lines.readLines env).any (assigns key) then [] else writtenLines key value).find? (assigns name) = none ↔
      ∀ line ∈ writtenLines key value, assigns name line = false := by
  by_cases hany : (Lines.readLines env).any (assigns key) = true
  · rw [if_pos hany]
    refine iff_of_true rfl ?_
    obtain ⟨line, hline, hassigns⟩ := List.any_eq_true.mp hany
    have hkey := newline_not_mem_key (Lines.newline_not_mem_readLines hline) hassigns
    obtain ⟨u, rfl⟩ := assigns_iff.mp hassigns
    have hline := List.find?_eq_none.mp hnone _ hline
    intro written hwritten
    rw [writtenLines_eq hkey hvalue] at hwritten
    rw [List.mem_singleton.mp hwritten, assigns_assignment_congr hname value u]
    simpa using hline
  · rw [if_neg hany, List.find?_eq_none]
    simp

theorem setVar_keeps_iff (hvalue : SingleLine value) (hname : IsEnvName name) :
    getVar (setVar env key value) name = getVar env name ↔
      (∀ line ∈ writtenLines key value, assigns name line = true →
        ∃ v ∈ getVar env name, assigns key (assignment name ++ v) = true → assignment name ++ v = line) ∧
        ∀ v ∈ getVar env name, v.getLast? ≠ some '\r' := by
  rw [getVar_setVar hvalue hname]
  obtain ⟨w, hfind, hget⟩ | ⟨hfind, hget⟩ := getVar_cases env name
  · rw [hfind, hget, Option.map_some, Option.some_or, Option.map_some]
    by_cases hassigns : assigns key (assignment name ++ w) = true
    · -- the first line of the variable is written anew
      have hline := List.mem_of_find?_eq_some hfind
      have hkey := newline_not_mem_key (Lines.newline_not_mem_readLines hline) hassigns
      obtain ⟨u, hu⟩ := assigns_iff.mp hassigns
      have hwritten : assigns name (assignment key ++ value) = true := by
        rw [assigns_assignment_congr hname value u, ← hu]
        exact assigns_assignment name w
      obtain ⟨w', hw'⟩ := assigns_iff.mp hwritten
      have hcr : w'.getLast? ≠ some '\r' := by
        rw [← Lines.stripCr_eq_self_iff]
        have hstrip := @stripCr_written key value hvalue
        rw [hw', stripCr_assignment] at hstrip
        exact List.append_cancel_left hstrip
      rw [writtenLines_eq hkey hvalue, rewritten, if_pos hassigns, hw', assigned_assignment]
      simp only [List.mem_singleton, forall_eq, assigns_assignment, true_implies, Option.mem_def, Option.some.injEq,
        exists_eq_left', hassigns, List.append_cancel_left_eq]
      constructor
      · intro h
        subst h
        exact ⟨rfl, fun v hv => hv ▸ hcr⟩
      · exact fun h => h.1.symm
    · rw [rewritten, if_neg hassigns, stripCr_assignment, assigned_assignment, Option.some.injEq,
        Lines.stripCr_eq_self_iff]
      constructor
      · intro hcr
        exact ⟨fun _ _ _ => ⟨w, rfl, fun h => absurd h hassigns⟩, fun v hv => Option.some.inj hv ▸ hcr⟩
      · exact fun h => h.2 w rfl
  · rw [hfind, hget, Option.map_none, Option.none_or, Option.map_eq_none_iff, find?_added hvalue hname hfind]
    simp

/-- Of the lines that a set adds, a removal leaves those of a name with a line break. -/
theorem find?_added_kept (hvalue : SingleLine value) (hname : IsEnvName name)
    (hnone : (Lines.readLines env).find? (assigns name) = none) :
    ((if (Lines.readLines env).any (assigns key) then [] else writtenLines key value).find?
        fun line => !assigns key line && assigns name line) = none ↔
      ('\n' ∈ key.toList → ∀ line ∈ writtenLines key value, assigns name line = false) := by
  by_cases hkey : '\n' ∈ key.toList
  · have hkept : ∀ line ∈ if (Lines.readLines env).any (assigns key) then [] else writtenLines key value,
        assigns key line = false := by
      intro line hline
      have hwritten : line ∈ writtenLines key value := by
        split at hline
        · cases hline
        · exact hline
      by_contra h
      exact newline_not_mem_key (Lines.newline_not_mem_readLines hwritten) (by simpa using h) hkey
    rw [imp_iff_right hkey, ← find?_added hvalue hname hnone, List.find?_eq_none, List.find?_eq_none]
    apply forall₂_congr
    intro line hline
    simp [hkept line hline]
  · refine iff_of_true ?_ fun h => absurd h hkey
    rw [writtenLines_eq hkey hvalue]
    split
    · rfl
    · simp [assigns_assignment]

theorem removeVar_setVar_keeps_iff (hvalue : SingleLine value) (hname : IsEnvName name) :
    getVar (removeVar (setVar env key value) key) name = getVar env name ↔
      (∀ v ∈ getVar env name, assigns key (assignment name ++ v) = false) ∧
      ('\n' ∈ key.toList → ∀ line ∈ writtenLines key value, assigns name line = true → (getVar env name).isSome = true) ∧
      ∀ v ∈ getVar env name, v.getLast? ≠ some '\r' := by
  rw [getVar_removeVar_setVar hvalue hname]
  obtain ⟨w, hfind, hget⟩ | ⟨hfind, hget⟩ := getVar_cases env name
  · rw [hget]
    cases hassigns : assigns key (assignment name ++ w) with
    | true =>
      -- the line of the variable is removed, and no other line of it can be alike
      have hany : (Lines.readLines env).any (assigns key) = true :=
        List.any_eq_true.mpr ⟨_, List.mem_of_find?_eq_some hfind, hassigns⟩
      refine iff_of_false ?_ ?_
      · rw [if_pos hany, List.find?_nil, Option.or_none]
        intro hkept
        obtain ⟨value', hvalue', hw⟩ := Option.map_eq_some_iff.mp hkept
        obtain ⟨line', hline', rfl⟩ := Option.map_eq_some_iff.mp hvalue'
        obtain ⟨line, hline, rfl⟩ := Option.map_eq_some_iff.mp hline'
        have hother := List.find?_some hline
        rw [Bool.and_eq_true, Bool.not_eq_true'] at hother
        obtain ⟨w', rfl⟩ := assigns_iff.mp hother.2
        rw [rewritten, if_neg (by rw [hother.1]; exact Bool.false_ne_true), stripCr_assignment,
          assigned_assignment] at hw
        have hsame : assigns key (assignment name ++ w) = assigns key (assignment name ++ w') := by
          rw [← hw, ← stripCr_assignment, ← stripCr_assignment, assigns_stripCr, assigns_stripCr]
        rw [hassigns, hother.1] at hsame
        cases hsame
      · intro h
        cases hassigns.symm.trans (h.1 w rfl)
    | false =>
      rw [find?_and_of_find? hfind (by rw [hassigns]; rfl), Option.map_some, Option.some_or, Option.map_some,
        Option.map_some, rewritten, if_neg (by rw [hassigns]; exact Bool.false_ne_true), stripCr_assignment,
        assigned_assignment, Option.some.injEq]
      have htwice : Lines.stripCr (Lines.stripCr w) = w ↔ w.getLast? ≠ some '\r' := @Lines.iterate_stripCr_eq_self_iff 1 w
      rw [htwice]
      constructor
      · intro hcr
        exact ⟨fun v hv => Option.some.inj hv ▸ hassigns, fun _ _ _ _ => rfl, fun v hv => Option.some.inj hv ▸ hcr⟩
      · exact fun h => h.2.2 w rfl
  · have hnone : ((Lines.readLines env).find? fun line => !assigns key line && assigns name line) = none := by
      rw [List.find?_eq_none] at hfind ⊢
      intro line hline
      simp [hfind line hline]
    rw [hnone, hget, Option.map_none, Option.none_or, Option.map_eq_none_iff, Option.map_eq_none_iff,
      find?_added_kept hvalue hname hfind]
    simp

end Variables

/-- A variable that is set and removed again. -/
theorem setAndRemoved_iff {key : String} {value : List Char} (hvalue : SingleLine value) (env : EnvText) :
    SameVariables (removeVar (setVar env key value) key) env ↔ SetAndRemoved key value env := by
  constructor
  · intro h
    have hkept := fun name hname => (removeVar_setVar_keeps_iff hvalue hname).mp (h name hname)
    exact ⟨fun name hname => (hkept name hname).1, fun hkey name hname => (hkept name hname).2.1 hkey,
      fun name hname => (hkept name hname).2.2⟩
  · intro h name hname
    exact (removeVar_setVar_keeps_iff hvalue hname).mpr
      ⟨h.unremoved name hname, fun hkey => h.unadded hkey name hname, h.whole name hname⟩

/-- A name of a variable that was not there. -/
theorem setAndRemoved_of_absent {env : EnvText} {key : String} (hkey : IsEnvName key) (habsent : getVar env key = none)
    (hlines : ∀ line ∈ Lines.readLines env, '\r' ∉ line) (value : List Char) : SetAndRemoved key value env := by
  refine ⟨?_, fun hbreak => absurd hbreak hkey.2, ?_⟩
  · intro name hname v hv
    by_contra hassigns
    obtain rfl : key = name := assigns_unique hkey hname (by simpa using hassigns) (assigns_assignment name v)
    cases habsent.symm.trans hv
  · intro name _ v hv hcr
    obtain ⟨line, hline, rfl⟩ := Option.map_eq_some_iff.mp hv
    exact hlines line (List.mem_of_find?_eq_some hline) (List.mem_of_mem_drop (List.mem_of_getLast? hcr))

/-- A variable that is set. -/
theorem setOnly_iff {key : String} {value : List Char} (hvalue : SingleLine value) (env : EnvText) :
    SameVariables (setVar env key value) env ↔ SetOnly key value env := by
  constructor
  · intro h
    have hkept := fun name hname => (setVar_keeps_iff hvalue hname).mp (h name hname)
    exact ⟨fun name hname => (hkept name hname).1, fun name hname => (hkept name hname).2⟩
  · intro h name hname
    exact (setVar_keeps_iff hvalue hname).mpr ⟨h.there name hname, h.whole name hname⟩

end AiGateway.Cli
