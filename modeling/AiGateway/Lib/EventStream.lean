import AiGateway.Lib.JsonText
import AiGateway.Lib.Lines

/- `text/event-stream` as a client reads it: lines of fields, an empty line ends an event. Of
   the fields only `event` and `data` are kept; a lone carriage return is no line break here.

   `read_render`: events whose name and data are each on one line are read back. -/
namespace EventStream

open Lines (splitLines)

/-- An event with the name that the stream gives it, if it gives one. -/
structure Message where
  event : Option String
  data : String
  deriving DecidableEq, Repr

/-- What has been read of the event under way; the lines of its data, the last one first. -/
structure Pending where
  event : Option String := none
  data : List (List Char) := []

/-- `name: value`, where one blank after the colon does not belong to the value. -/
def field (line : List Char) : List Char × List Char :=
  let value := (line.dropWhile (· ≠ ':')).tail
  (line.takeWhile (· ≠ ':'), if value.head? = some ' ' then value.tail else value)

/-- An event without data is not dispatched. -/
def Pending.dispatch (p : Pending) : List Message :=
  if p.data.isEmpty then [] else [⟨p.event, String.ofList (['\n'].intercalate p.data.reverse)⟩]

def Pending.read (p : Pending) (line : List Char) : Pending :=
  let (name, value) := field line
  if name = "event".toList then { p with event := some (String.ofList value) }
  else if name = "data".toList then { p with data := value :: p.data }
  else p

def dispatchLines (p : Pending) : List (List Char) → List Message
  | [] => []
  | [] :: lines => p.dispatch ++ dispatchLines {} lines
  | line :: lines => dispatchLines (p.read line) lines

/-- The events of a text; what stands after the last line break is not read. -/
def read (text : String) : List Message := dispatchLines {} (splitLines text.toList).dropLast

/-! ## Writing -/

/-- An event as a server writes it. -/
def Message.render (m : Message) : String :=
  (m.event.elim "" fun name => "event: " ++ name ++ "\n") ++ "data: " ++ m.data ++ "\n\n"

/-- The name and the data are each on one line. -/
def Message.OneLine (m : Message) : Prop :=
  (∀ name, m.event = some name → ∀ c ∈ name.toList, Json.isLineBreak c = false) ∧
    ∀ c ∈ m.data.toList, Json.isLineBreak c = false

/-- The lines that `render` writes, the empty one included. -/
def Message.lines (m : Message) : List (List Char) :=
  (m.event.map fun name => "event: ".toList ++ name.toList).toList ++ ["data: ".toList ++ m.data.toList, []]

theorem toList_render (m : Message) : m.render.toList = m.lines.flatMap (· ++ ['\n']) := by
  unfold Message.render Message.lines
  cases m.event with
  | none => simp
  | some name => simp

theorem unbroken_append {label text : List Char} (hlabel : label.all (fun c => !Json.isLineBreak c) = true)
    (htext : ∀ c ∈ text, Json.isLineBreak c = false) : ∀ c ∈ label ++ text, Json.isLineBreak c = false := by
  intro c hc
  obtain hc | hc := List.mem_append.mp hc
  · exact Json.not_lineBreak_of_all hlabel c hc
  · exact htext c hc

theorem lines_unbroken {m : Message} (h : m.OneLine) :
    ∀ line ∈ m.lines, ∀ c ∈ line, Json.isLineBreak c = false := by
  intro line hline
  unfold Message.lines at hline
  simp only [List.mem_append, Option.mem_toList, Option.map_eq_some_iff, List.mem_cons, List.not_mem_nil,
    or_false] at hline
  obtain ⟨name, hname, rfl⟩ | rfl | rfl := hline
  · exact unbroken_append rfl (h.1 name hname)
  · exact unbroken_append rfl h.2
  · intro c hc
    cases hc

theorem splitLines_lines {lines : List (List Char)} (h : ∀ line ∈ lines, ∀ c ∈ line, Json.isLineBreak c = false) :
    splitLines (lines.flatMap (· ++ ['\n'])) = lines ++ [[]] := by
  induction lines with
  | nil => rfl
  | cons line lines ih =>
    have hline := h line List.mem_cons_self
    have hnewline : '\n' ∉ line := by
      intro hmem
      cases hline _ hmem
    have hreturn : line.getLast? ≠ some '\r' := by
      intro hlast
      cases hline _ (List.mem_of_getLast? hlast)
    have hrest := ih fun l hl => h l (List.mem_cons_of_mem line hl)
    calc splitLines ((line :: lines).flatMap (· ++ ['\n']))
        = splitLines (line ++ '\n' :: lines.flatMap (· ++ ['\n'])) := by simp
      _ = Lines.stripCr line :: splitLines (lines.flatMap (· ++ ['\n'])) := Lines.splitLines_line hnewline _
      _ = line :: (lines ++ [[]]) := by rw [Lines.stripCr_eq_self_iff.mpr hreturn, hrest]

theorem read_event (p : Pending) (name : List Char) :
    p.read ("event: ".toList ++ name) = { p with event := some (String.ofList name) } := rfl

theorem read_data (p : Pending) (data : List Char) :
    p.read ("data: ".toList ++ data) = { p with data := data :: p.data } := rfl

theorem dispatchLines_read {line : List Char} (h : line ≠ []) (p : Pending) (lines : List (List Char)) :
    dispatchLines p (line :: lines) = dispatchLines (p.read line) lines := by
  cases line with
  | nil => exact absurd rfl h
  | cons c cs => rfl

/-- The lines of one event dispatch it, and nothing is left under way. -/
theorem dispatchLines_lines (m : Message) (rest : List (List Char)) :
    dispatchLines {} (m.lines ++ rest) = m :: dispatchLines {} rest := by
  have hdata : ∀ (p : Pending) (data : String), dispatchLines p (("data: ".toList ++ data.toList) :: [] :: rest) =
      (Pending.mk p.event (data.toList :: p.data)).dispatch ++ dispatchLines {} rest := by
    intro p data
    rw [dispatchLines_read (by simp), read_data]
    rfl
  obtain ⟨event, data⟩ := m
  cases event with
  | none =>
    show dispatchLines {} (("data: ".toList ++ data.toList) :: [] :: rest) = _
    rw [hdata]
    simp [Pending.dispatch]
  | some name =>
    show dispatchLines {} (("event: ".toList ++ name.toList) :: ("data: ".toList ++ data.toList) :: [] :: rest) = _
    rw [dispatchLines_read (by simp), read_event, hdata]
    simp [Pending.dispatch]

theorem dispatchLines_flatMap (ms : List Message) : dispatchLines {} (ms.flatMap Message.lines) = ms := by
  induction ms with
  | nil => rfl
  | cons m ms ih => rw [List.flatMap_cons, dispatchLines_lines, ih]

theorem read_render {ms : List Message} (h : ∀ m ∈ ms, m.OneLine) : read (String.join (ms.map Message.render)) = ms := by
  have htext : (String.join (ms.map Message.render)).toList = (ms.flatMap Message.lines).flatMap (· ++ ['\n']) := by
    rw [String.toList_join, List.flatMap_map, List.flatMap_assoc]
    congr 1
    funext m
    exact toList_render m
  have hunbroken : ∀ line ∈ ms.flatMap Message.lines, ∀ c ∈ line, Json.isLineBreak c = false := by
    intro line hline
    obtain ⟨m, hm, hline⟩ := List.mem_flatMap.mp hline
    exact lines_unbroken (h m hm) line hline
  unfold read
  rw [htext, splitLines_lines hunbroken, List.dropLast_concat, dispatchLines_flatMap]

/-- What is written item by item is read item by item. -/
theorem read_map {α : Type} {render : α → String} {message : α → Message}
    (hrender : ∀ a, render a = (message a).render) (hline : ∀ a, (message a).OneLine) (items : List α) :
    read (String.join (items.map render)) = items.map message := by
  have hmap : items.map render = (items.map message).map Message.render := by
    rw [List.map_map]
    congr 1
    funext a
    exact hrender a
  rw [hmap]
  apply read_render
  intro m hm
  obtain ⟨a, -, rfl⟩ := List.mem_map.mp hm
  exact hline a

end EventStream
