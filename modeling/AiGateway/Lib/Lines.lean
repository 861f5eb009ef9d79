import Mathlib.Data.List.Basic
import Mathlib.Logic.Function.Iterate

/- Texts and their lines. A line break is `\n`, with the `\r` before it when there is one, so
   that a text written with `\n` and read again loses a carriage return at the end of a line:
   `readLines_joinLines` is the round trip, exact but for that. -/
namespace Lines

/-- A line without the carriage return a break right after it would take. -/
def stripCr (line : List Char) : List Char := if line.getLast? = some '\r' then line.dropLast else line

/-- `text.split(/\r?\n/)`. -/
def splitLines : List Char → List (List Char)
  | [] => [[]]
  | c :: cs =>
    if c = '\n' then [] :: splitLines cs
    else if c = '\r' ∧ cs.head? = some '\n' then splitLines cs
    else match splitLines cs with
      | line :: rest => (c :: line) :: rest
      | [] => [[c]]

/-- The lines of a text that are not empty. -/
def readLines (text : List Char) : List (List Char) := (splitLines text).filter fun line => line ≠ []

/-- `lines.join('\n') + '\n'`. -/
def joinLines (lines : List (List Char)) : List Char := ['\n'].intercalate lines ++ ['\n']

theorem stripCr_cons {c : Char} {line : List Char} (h : ¬ (c = '\r' ∧ line = [])) :
    stripCr (c :: line) = c :: stripCr line := by
  cases line with
  | nil =>
    have hc : c ≠ '\r' := fun heq => h ⟨heq, rfl⟩
    simp [stripCr, hc]
  | cons d line =>
    unfold stripCr
    rw [List.getLast?_cons_cons]
    split
    · rfl
    · rfl

theorem stripCr_eq_self_iff {line : List Char} : stripCr line = line ↔ line.getLast? ≠ some '\r' := by
  unfold stripCr
  split
  · next h =>
    refine iff_of_false ?_ (fun hne => hne h)
    intro heq
    have hlength := congrArg List.length heq
    have hpos : line ≠ [] := by
      intro hnil
      rw [hnil] at h
      cases h
    rw [List.length_dropLast] at hlength
    have := List.length_pos_iff.mpr hpos
    omega
  · next h => exact iff_of_true rfl h

theorem length_stripCr_le (line : List Char) : (stripCr line).length ≤ line.length := by
  unfold stripCr
  split
  · rw [List.length_dropLast]
    omega
  · exact Nat.le_refl _

theorem length_iterate_stripCr_le (n : ℕ) (line : List Char) : (stripCr^[n] line).length ≤ line.length := by
  induction n with
  | zero => exact Nat.le_refl _
  | succ n ih =>
    rw [Function.iterate_succ_apply']
    exact Nat.le_trans (length_stripCr_le _) ih

/-- A text rewritten any number of times keeps a line exactly when it has no carriage return to lose. -/
theorem iterate_stripCr_eq_self_iff {n : ℕ} {line : List Char} :
    stripCr^[n + 1] line = line ↔ line.getLast? ≠ some '\r' := by
  constructor
  · intro h
    rw [← stripCr_eq_self_iff]
    rw [Function.iterate_succ_apply] at h
    by_contra hne
    have hcr : line.getLast? = some '\r' := by
      by_contra hnot
      exact hne (stripCr_eq_self_iff.mpr hnot)
    have hstrip : stripCr line = line.dropLast := if_pos hcr
    have hlength := length_iterate_stripCr_le n (stripCr line)
    rw [h, hstrip, List.length_dropLast] at hlength
    have hpos : 0 < line.length := by
      rw [List.length_pos_iff]
      intro hnil
      rw [hnil] at hcr
      cases hcr
    omega
  · intro h
    exact Function.iterate_fixed (stripCr_eq_self_iff.mpr h) (n + 1)

/-- A line ended by a break is split off. -/
theorem splitLines_line {line : List Char} (hline : '\n' ∉ line) (rest : List Char) :
    splitLines (line ++ '\n' :: rest) = stripCr line :: splitLines rest := by
  induction line with
  | nil => simp [splitLines, stripCr]
  | cons c line ih =>
    have hc : c ≠ '\n' := fun heq => hline (heq ▸ List.mem_cons_self)
    have hrest : '\n' ∉ line := fun hmem => hline (List.mem_cons_of_mem c hmem)
    by_cases hcr : c = '\r' ∧ line = []
    · obtain ⟨rfl, rfl⟩ := hcr
      simp [splitLines, stripCr]
    · have hhead : ¬ (c = '\r' ∧ (line ++ '\n' :: rest).head? = some '\n') := by
        intro ⟨heq, hhead⟩
        cases line with
        | nil => exact hcr ⟨heq, rfl⟩
        | cons d line =>
          have hd : d = '\n' := by simpa using hhead
          exact hrest (hd ▸ List.mem_cons_self)
      show splitLines (c :: (line ++ '\n' :: rest)) = _
      rw [splitLines, if_neg hc, if_neg hhead, ih hrest, stripCr_cons hcr]

theorem newline_not_mem_splitLines {text line : List Char} (h : line ∈ splitLines text) : '\n' ∉ line := by
  induction text generalizing line with
  | nil =>
    obtain rfl := List.mem_singleton.mp h
    exact List.not_mem_nil
  | cons c cs ih =>
    unfold splitLines at h
    split at h
    · obtain rfl | h := List.mem_cons.mp h
      · exact List.not_mem_nil
      · exact ih h
    · next hc =>
      split at h
      · exact ih h
      · split at h
        · next first rest heq =>
          obtain rfl | h := List.mem_cons.mp h
          · intro hmem
            obtain hmem | hmem := List.mem_cons.mp hmem
            · exact hc hmem.symm
            · exact ih (heq ▸ List.mem_cons_self) hmem
          · exact ih (heq ▸ List.mem_cons_of_mem first h)
        · obtain rfl := List.mem_singleton.mp h
          intro hmem
          exact hc (List.mem_singleton.mp hmem).symm

theorem newline_not_mem_readLines {text line : List Char} (h : line ∈ readLines text) : '\n' ∉ line :=
  newline_not_mem_splitLines (List.mem_of_mem_filter h)

/-- Lines that are written and read again: each loses a carriage return at its end. -/
theorem readLines_joinLines {lines : List (List Char)} (h : ∀ line ∈ lines, '\n' ∉ line) :
    readLines (joinLines lines) = (lines.map stripCr).filter fun line => line ≠ [] := by
  induction lines with
  | nil => simp [readLines, joinLines, splitLines]
  | cons line lines ih =>
    have hline : '\n' ∉ line := h line List.mem_cons_self
    have hrest : ∀ line ∈ lines, '\n' ∉ line := fun l hl => h l (List.mem_cons_of_mem line hl)
    cases lines with
    | nil => simp [readLines, joinLines, List.intercalate_singleton, splitLines_line hline, splitLines, List.filter_cons]
    | cons next lines =>
      have hjoin : joinLines (line :: next :: lines) = line ++ '\n' :: joinLines (next :: lines) := by
        simp [joinLines, List.intercalate_cons_cons]
      have ih' := ih hrest
      unfold readLines at ih' ⊢
      rw [hjoin, splitLines_line hline, List.map_cons, List.filter_cons, List.filter_cons, ih']

/-- A text goes on to be read after any line break. -/
theorem readLines_append_newline (text rest : List Char) :
    readLines (text ++ '\n' :: rest) = readLines (text ++ ['\n']) ++ readLines rest := by
  induction hn : text.length using Nat.strongRecOn generalizing text with
  | _ n ih =>
    unfold readLines at ih ⊢
    by_cases hbreak : '\n' ∈ text
    · obtain ⟨line, text', rfl, hline⟩ := List.eq_append_cons_of_mem hbreak
      have hlt : text'.length < n := by
        rw [← hn, List.length_append, List.length_cons]
        omega
      rw [List.append_assoc, List.append_assoc, List.cons_append, List.cons_append, splitLines_line hline,
        splitLines_line hline, List.filter_cons, List.filter_cons, ih _ hlt text' rfl]
      split <;> rfl
    · rw [splitLines_line hbreak, splitLines_line hbreak, List.filter_cons, List.filter_cons]
      split <;> simp [splitLines]

theorem readLines_joinLines_cons (line : List Char) (lines : List (List Char)) :
    readLines (joinLines (line :: lines)) = readLines (line ++ ['\n']) ++ readLines (joinLines lines) := by
  cases lines with
  | nil => simp [readLines, joinLines, List.intercalate_singleton, splitLines]
  | cons next lines =>
    have hjoin : joinLines (line :: next :: lines) = line ++ '\n' :: joinLines (next :: lines) := by
      simp [joinLines, List.intercalate_cons_cons]
    rw [hjoin, readLines_append_newline]

/-- Lines that are written are read back one by one, also those with a line break of their own. -/
theorem readLines_joinLines_append (lines lines' : List (List Char)) :
    readLines (joinLines (lines ++ lines')) = readLines (joinLines lines) ++ readLines (joinLines lines') := by
  induction lines with
  | nil => simp [readLines, joinLines, splitLines]
  | cons line lines ih => rw [List.cons_append, readLines_joinLines_cons, readLines_joinLines_cons, ih, List.append_assoc]

/-! ## Line breaks -/

/-- `text.replace(/\r?\n/g, '\r\n')`. -/
def withCrlf : List Char → List Char
  | [] => []
  | c :: cs =>
    if c = '\n' then '\r' :: '\n' :: withCrlf cs
    else if c = '\r' ∧ cs.head? = some '\n' then withCrlf cs
    else c :: withCrlf cs

/-- `text.replace(/\r?\n$/, '')`, the `$` at the end of the text only. -/
def dropFinalBreak (text : List Char) : List Char :=
  if text.getLast? = some '\n' then stripCr text.dropLast else text

theorem head?_withCrlf (text : List Char) : (withCrlf text).head? ≠ some '\n' := by
  induction text with
  | nil => simp [withCrlf]
  | cons c cs ih =>
    unfold withCrlf
    split
    · simp
    · next hc =>
      split
      · exact ih
      · simpa using hc

/-- A text has the same lines whichever breaks it has. -/
theorem splitLines_withCrlf (text : List Char) : splitLines (withCrlf text) = splitLines text := by
  induction text with
  | nil => rfl
  | cons c cs ih =>
    unfold withCrlf
    by_cases hc : c = '\n'
    · rw [if_pos hc]
      simp [splitLines, hc, ih]
    · rw [if_neg hc]
      by_cases hcr : c = '\r' ∧ cs.head? = some '\n'
      · rw [if_pos hcr, ih, splitLines, if_neg hc, if_pos hcr]
      · have hhead : ¬ (c = '\r' ∧ (withCrlf cs).head? = some '\n') := fun h => head?_withCrlf cs h.2
        rw [if_neg hcr, splitLines, if_neg hc, if_neg hhead, ih, splitLines, if_neg hc, if_neg hcr]

theorem splitLines_ne_nil (text : List Char) : splitLines text ≠ [] := by
  induction text with
  | nil => simp [splitLines]
  | cons c cs ih =>
    unfold splitLines
    split
    · simp
    · split
      · exact ih
      · split
        · simp
        · simp

/-- The break at the end of a text has an empty line after it. -/
theorem splitLines_append_break (text : List Char) :
    splitLines (text ++ ['\n']) = splitLines (stripCr text) ++ [[]] := by
  induction text with
  | nil => simp [splitLines, stripCr]
  | cons c cs ih =>
    by_cases hlast : c = '\r' ∧ cs = []
    · obtain ⟨rfl, rfl⟩ := hlast
      simp [splitLines, stripCr]
    · have hhead : (cs ++ ['\n']).head? = some '\n' ∧ c = '\r' ↔ (stripCr cs).head? = some '\n' ∧ c = '\r' := by
        cases cs with
        | nil =>
          have hc : c ≠ '\r' := fun heq => hlast ⟨heq, rfl⟩
          simp [hc]
        | cons d ds =>
          by_cases hd : d = '\r' ∧ ds = []
          · obtain ⟨rfl, rfl⟩ := hd
            simp [stripCr]
          · simp [stripCr_cons hd]
      rw [stripCr_cons hlast, List.cons_append]
      unfold splitLines
      by_cases hc : c = '\n'
      · rw [if_pos hc, if_pos hc, ih, List.cons_append]
      · rw [if_neg hc, if_neg hc]
        by_cases hcr : c = '\r' ∧ (stripCr cs).head? = some '\n'
        · rw [if_pos hcr, if_pos (hhead.mpr hcr.symm).symm, ih]
        · rw [if_neg hcr, if_neg fun h => hcr (hhead.mp h.symm).symm, ih]
          cases hlines : splitLines (stripCr cs) with
          | nil => exact absurd hlines (splitLines_ne_nil _)
          | cons line rest => rfl

theorem readLines_withCrlf (text : List Char) : readLines (withCrlf text) = readLines text :=
  congrArg (List.filter _) (splitLines_withCrlf text)

/-- The lines of a text are the same without the break at its end. -/
theorem readLines_dropFinalBreak (text : List Char) : readLines (dropFinalBreak text) = readLines text := by
  unfold dropFinalBreak
  split
  · next h =>
    obtain ⟨before, rfl⟩ := List.getLast?_eq_some_iff.mp h
    rw [List.dropLast_concat]
    unfold readLines
    rw [splitLines_append_break, List.filter_append]
    simp
  · rfl

/-- Lines that are written are read back as they are exactly when none ends in a carriage return. -/
theorem filter_map_stripCr_eq_self_iff {lines : List (List Char)} (hne : ∀ line ∈ lines, line ≠ []) :
    ((lines.map stripCr).filter fun line => line ≠ []) = lines ↔ ∀ line ∈ lines, line.getLast? ≠ some '\r' := by
  have hsame : lines.map stripCr = lines ↔ ∀ line ∈ lines, stripCr line = line := by
    rw [← List.map_id lines, List.map_map, List.map_inj_left, List.map_id]
    exact Iff.rfl
  simp only [← stripCr_eq_self_iff]
  rw [← hsame]
  constructor
  · intro h
    have hlength : ((lines.map stripCr).filter fun line => line ≠ []).length = (lines.map stripCr).length := by
      rw [h, List.length_map]
    rw [List.length_filter_eq_length_iff, ← List.filter_eq_self] at hlength
    rw [← hlength]
    exact h
  · intro h
    rw [h, List.filter_eq_self]
    simpa using hne

end Lines
