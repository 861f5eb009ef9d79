import Mathlib.Data.List.Basic

/- Tag queries of a search index: alternatives of conditions `@field:{value|value}` in
   parentheses, and a clause in brackets after `=>`. A backslash makes the next character
   literal; an unescaped special character is syntax.

   `parse_query` is the round trip: a query that is put together from plain field names and
   escaped values is read as these fields with these values, whatever the values say. -/
namespace TagQuery

/-! ## Characters -/

inductive Token where
  | lit (c : Char)
  | syn (c : Char)
  deriving DecidableEq, Repr

def Token.char : Token → Char
  | .lit c => c
  | .syn c => c

section Lex
variable (special : Char → Bool)

def escape (text : List Char) : List Char := text.flatMap fun c => if special c then ['\\', c] else [c]

/-- An unescaped character. -/
def bare (c : Char) : Token := if special c then .syn c else .lit c

/-- A backslash at the end escapes nothing. -/
def lex : List Char → Option (List Token)
  | [] => some []
  | [c] => if c = '\\' then none else some [bare special c]
  | c :: d :: rest =>
    if c = '\\' then (lex rest).map (.lit d :: ·) else (lex (d :: rest)).map (bare special c :: ·)

/-- The text is read as these tokens, whatever follows it. -/
def LexesTo (text : List Char) (tokens : List Token) : Prop :=
  ∀ rest, lex special (text ++ rest) = (lex special rest).map (tokens ++ ·)

variable {special}

theorem LexesTo.nil : LexesTo special [] [] := by
  intro rest
  simp

theorem LexesTo.append {text text' : List Char} {tokens tokens' : List Token} (h : LexesTo special text tokens)
    (h' : LexesTo special text' tokens') : LexesTo special (text ++ text') (tokens ++ tokens') := by
  intro rest
  rw [List.append_assoc, h, h', Option.map_map]
  simp [Function.comp_def]

theorem LexesTo.bare {c : Char} (hc : c ≠ '\\') : LexesTo special [c] [bare special c] := by
  intro rest
  cases rest <;> simp [lex, hc]

theorem LexesTo.escaped (c : Char) : LexesTo special ['\\', c] [.lit c] := by
  intro rest
  simp [lex]

theorem LexesTo.syn {c : Char} (hc : special c = true) (hne : c ≠ '\\') : LexesTo special [c] [.syn c] := by
  have h : LexesTo special [c] [TagQuery.bare special c] := LexesTo.bare hne
  rwa [TagQuery.bare, if_pos hc] at h

/-- No text changes how the rest of a query is read once it is escaped. -/
theorem LexesTo.escape (hback : special '\\' = true) (text : List Char) :
    LexesTo special (escape special text) (text.map .lit) := by
  induction text with
  | nil => exact LexesTo.nil
  | cons c text ih =>
    have hchar : LexesTo special (if special c then ['\\', c] else [c]) [.lit c] := by
      by_cases hc : special c = true
      · rw [if_pos hc]
        exact LexesTo.escaped c
      · have hne : c ≠ '\\' := by
          rintro rfl
          exact hc hback
        have h : LexesTo special [c] [TagQuery.bare special c] := LexesTo.bare hne
        rwa [if_neg hc, ← (if_neg hc : TagQuery.bare special c = .lit c)]
    exact hchar.append ih

theorem LexesTo.unescaped {text : List Char} (h : '\\' ∉ text) :
    LexesTo special text (text.map (TagQuery.bare special)) := by
  induction text with
  | nil => exact LexesTo.nil
  | cons c text ih =>
    rw [List.mem_cons, not_or] at h
    exact (LexesTo.bare (Ne.symm h.1)).append (ih h.2)

/-- Text without special characters stands for itself. -/
theorem LexesTo.plain (hback : special '\\' = true) {text : List Char} (h : ∀ c ∈ text, special c = false) :
    LexesTo special text (text.map .lit) := by
  have hmap : text.map (TagQuery.bare special) = text.map Token.lit := by
    apply List.map_congr_left
    intro c hc
    simp [TagQuery.bare, h c hc]
  rw [← hmap]
  apply LexesTo.unescaped
  intro hmem
  rw [h _ hmem] at hback
  cases hback

theorem LexesTo.lex_eq {text : List Char} {tokens : List Token} (h : LexesTo special text tokens) :
    lex special text = some tokens := by
  have hnil := h []
  rwa [List.append_nil, lex, Option.map_some, List.append_nil] at hnil

end Lex

/-! ## Conditions -/

structure Condition where
  field : String
  values : List String
  deriving DecidableEq, Repr

/-- A filter: one of the alternatives, with all its conditions. -/
structure Query where
  alternatives : List (List Condition)
  clause : String
  deriving DecidableEq, Repr

/-- Whether the tags of a document, which a field may have several of, pass a filter. -/
def Query.matches (q : Query) (tags : String → List String) : Prop :=
  ∃ conj ∈ q.alternatives, ∀ cond ∈ conj, ∃ value ∈ cond.values, value ∈ tags cond.field

/-- Where the reader of a filter is. -/
inductive Mode where
  | between                                                            -- before or after a condition
  | name (read : List Char)                                            -- after `@`
  | opening (field : List Char)                                        -- after `:`
  | value (field : List Char) (done : List String) (read : List Char)  -- in braces
  deriving DecidableEq, Repr

/-- What was read: the alternatives that are complete, and the conditions of the one that is not. -/
structure Read where
  complete : List (List Condition)
  conj : List Condition
  deriving DecidableEq, Repr

def Read.add (r : Read) (cond : Condition) : Read := { r with conj := r.conj ++ [cond] }

/-- The filter up to its closing parenthesis, and the tokens after that. -/
def readFilter (r : Read) : Mode → List Token → Option (Read × List Token)
  | _, [] => none
  | .between, t :: ts =>
    match t with
    | .syn '@' => readFilter r (.name []) ts
    | .syn ' ' => readFilter r .between ts
    | .syn '|' => if r.conj = [] then none else readFilter ⟨r.complete ++ [r.conj], []⟩ .between ts
    | .syn ')' => if r.conj = [] then none else some (r, ts)
    | _ => none
  | .name read, t :: ts =>
    match t with
    | .lit c => readFilter r (.name (read ++ [c])) ts
    | .syn ':' => readFilter r (.opening read) ts
    | _ => none
  | .opening field, t :: ts =>
    match t with
    | .syn '\x7b' => readFilter r (.value field [] []) ts
    | _ => none
  | .value field done read, t :: ts =>
    match t with
    | .lit c => readFilter r (.value field done (read ++ [c])) ts
    | .syn '|' => readFilter r (.value field (done ++ [String.ofList read]) []) ts
    | .syn '\x7d' =>
      readFilter (r.add ⟨String.ofList field, done ++ [String.ofList read]⟩) .between ts
    | _ => none

/-- The text of a clause up to the bracket that ends the query. -/
def readClause : List Token → Option (List Char)
  | [] => none
  | t :: ts =>
    if t = .syn ']' then (if ts = [] then some [] else none) else (readClause ts).map (t.char :: ·)

def readQuery : List Token → Option Query
  | .syn '(' :: ts =>
    match readFilter ⟨[], []⟩ .between ts with
    | some (r, .syn '=' :: .syn '>' :: .syn '[' :: rest) =>
      (readClause rest).map fun text => ⟨r.complete ++ [r.conj], String.ofList text⟩
    | _ => none
  | _ => none

def parse (special : Char → Bool) (text : String) : Option Query :=
  (lex special text.toList).bind readQuery

/-! ## Putting a query together -/

section Print
variable (special : Char → Bool)

/-- The text of the condition that a field has one value. -/
def conditionText (field value : String) : List Char :=
  '@' :: (field.toList ++ ':' :: '\x7b' :: (escape special value.toList ++ ['\x7d']))

def conditionsText : List (String × String) → List Char
  | [] => []
  | [p] => conditionText special p.1 p.2
  | p :: ps => conditionText special p.1 p.2 ++ ' ' :: conditionsText ps

def queryText (conds : List (String × String)) (clause : List Char) : List Char :=
  '(' :: (conditionsText special conds ++ ')' :: '=' :: '>' :: '[' :: (clause ++ [']']))

def conditionTokens (field value : String) : List Token :=
  .syn '@' :: (field.toList.map .lit ++ .syn ':' :: .syn '\x7b' :: (value.toList.map .lit ++ [.syn '\x7d']))

def conditionsTokens : List (String × String) → List Token
  | [] => []
  | [p] => conditionTokens p.1 p.2
  | p :: ps => conditionTokens p.1 p.2 ++ .syn ' ' :: conditionsTokens ps

def queryTokens (conds : List (String × String)) (clause : List Char) : List Token :=
  .syn '(' :: (conditionsTokens conds ++
    .syn ')' :: .syn '=' :: .syn '>' :: .syn '[' :: (clause.map (bare special) ++ [.syn ']']))

/-- The characters that a query is put together with are special. -/
def SyntaxSpecial : Prop := ∀ c ∈ ['\\', '@', ':', '\x7b', '\x7d', ' ', '(', ')', '=', '>', '[', ']'], special c = true

variable {special}

theorem condition_lexes (hs : SyntaxSpecial special) {field : String} (hf : ∀ c ∈ field.toList, special c = false)
    (value : String) : LexesTo special (conditionText special field value) (conditionTokens field value) := by
  have hback : special '\\' = true := hs _ (by simp)
  have hvalue := (LexesTo.escape hback value.toList).append (LexesTo.syn (hs '\x7d' (by simp)) (by decide))
  have hopen := (LexesTo.syn (hs '\x7b' (by simp)) (by decide)).append hvalue
  have hcolon := (LexesTo.syn (hs ':' (by simp)) (by decide)).append hopen
  exact (LexesTo.syn (hs '@' (by simp)) (by decide)).append ((LexesTo.plain hback hf).append hcolon)

theorem conditions_lex (hs : SyntaxSpecial special) {conds : List (String × String)}
    (hf : ∀ p ∈ conds, ∀ c ∈ p.1.toList, special c = false) :
    LexesTo special (conditionsText special conds) (conditionsTokens conds) := by
  induction conds with
  | nil => exact LexesTo.nil
  | cons p ps ih =>
    have hp := condition_lexes hs (hf p List.mem_cons_self) p.2
    have hps := ih fun q hq => hf q (List.mem_cons_of_mem p hq)
    cases ps with
    | nil => exact hp
    | cons q qs => exact hp.append ((LexesTo.syn (hs ' ' (by simp)) (by decide)).append hps)

theorem query_lexes (hs : SyntaxSpecial special) {conds : List (String × String)}
    (hf : ∀ p ∈ conds, ∀ c ∈ p.1.toList, special c = false) {clause : List Char} (hclause : '\\' ∉ clause) :
    LexesTo special (queryText special conds clause) (queryTokens special conds clause) := by
  have hend := (LexesTo.unescaped hclause).append (LexesTo.syn (hs ']' (by simp)) (by decide))
  have hbracket := (LexesTo.syn (hs '[' (by simp)) (by decide)).append hend
  have harrow := (LexesTo.syn (hs '=' (by simp)) (by decide)).append
    ((LexesTo.syn (hs '>' (by simp)) (by decide)).append hbracket)
  have hclose := (LexesTo.syn (hs ')' (by simp)) (by decide)).append harrow
  exact (LexesTo.syn (hs '(' (by simp)) (by decide)).append ((conditions_lex hs hf).append hclose)

end Print

/-! ## Reading it back -/

section Steps
variable (r : Read) (ts : List Token)

theorem readFilter_at : readFilter r .between (.syn '@' :: ts) = readFilter r (.name []) ts := rfl

theorem readFilter_blank : readFilter r .between (.syn ' ' :: ts) = readFilter r .between ts := rfl

theorem readFilter_close (h : r.conj ≠ []) : readFilter r .between (.syn ')' :: ts) = some (r, ts) := if_neg h

theorem readFilter_name (read field : List Char) :
    readFilter r (.name read) (field.map .lit ++ .syn ':' :: ts) = readFilter r (.opening (read ++ field)) ts := by
  induction field generalizing read with
  | nil =>
    rw [List.append_nil]
    rfl
  | cons c field ih =>
    have hstep : readFilter r (.name read) ((c :: field).map .lit ++ .syn ':' :: ts) =
        readFilter r (.name (read ++ [c])) (field.map .lit ++ .syn ':' :: ts) := rfl
    rw [hstep, ih, List.append_assoc]
    rfl

theorem readFilter_open (field : List Char) :
    readFilter r (.opening field) (.syn '\x7b' :: ts) = readFilter r (.value field [] []) ts := rfl

theorem readFilter_value (field : List Char) (done : List String) (read value : List Char) :
    readFilter r (.value field done read) (value.map .lit ++ .syn '\x7d' :: ts) =
      readFilter (r.add ⟨String.ofList field, done ++ [String.ofList (read ++ value)]⟩) .between ts := by
  induction value generalizing read with
  | nil =>
    rw [List.append_nil]
    rfl
  | cons c value ih =>
    have hstep : readFilter r (.value field done read) ((c :: value).map .lit ++ .syn '\x7d' :: ts) =
        readFilter r (.value field done (read ++ [c])) (value.map .lit ++ .syn '\x7d' :: ts) := rfl
    rw [hstep, ih, List.append_assoc]
    rfl

theorem readFilter_condition (field value : String) :
    readFilter r .between (conditionTokens field value ++ ts) = readFilter (r.add ⟨field, [value]⟩) .between ts := by
  -- the name ends at its colon, the value at its brace
  have hname := readFilter_name r (.syn '\x7b' :: (value.toList.map .lit ++ .syn '\x7d' :: ts)) [] field.toList
  have hvalue := readFilter_value r ts field.toList [] [] value.toList
  simp only [List.nil_append, String.ofList_toList] at hname hvalue
  simp only [conditionTokens, List.cons_append, List.append_assoc, List.nil_append]
  rw [readFilter_at, hname, readFilter_open, hvalue]

end Steps

theorem readFilter_conditions (complete : List (List Condition)) {conds : List (String × String)} (hne : conds ≠ [])
    (conj : List Condition) (ts : List Token) :
    readFilter ⟨complete, conj⟩ .between (conditionsTokens conds ++ .syn ')' :: ts) =
      some (⟨complete, conj ++ conds.map fun p => ⟨p.1, [p.2]⟩⟩, ts) := by
  induction conds generalizing conj with
  | nil => exact absurd rfl hne
  | cons p ps ih =>
    cases ps with
    | nil =>
      -- the last condition: the alternative is not empty when its parenthesis closes
      rw [conditionsTokens, readFilter_condition]
      exact readFilter_close _ ts (List.append_ne_nil_of_right_ne_nil _ (List.cons_ne_nil _ _))
    | cons q qs =>
      rw [conditionsTokens, List.append_assoc, readFilter_condition]
      · rw [List.cons_append, readFilter_blank, Read.add, ih (List.cons_ne_nil q qs), List.append_assoc]
        rfl
      · exact List.cons_ne_nil q qs

theorem readClause_append {ts : List Token} (h : .syn ']' ∉ ts) :
    readClause (ts ++ [.syn ']']) = some (ts.map Token.char) := by
  induction ts with
  | nil => rfl
  | cons t ts ih =>
    rw [List.mem_cons, not_or] at h
    rw [List.cons_append, readClause, if_neg (Ne.symm h.1), ih h.2]
    rfl

variable {special : Char → Bool}

theorem bare_char (text : List Char) : (text.map (bare special)).map Token.char = text := by
  rw [List.map_map]
  conv_rhs => rw [← List.map_id text]
  apply List.map_congr_left
  intro c hc
  by_cases h : special c = true <;> simp [bare, h, Token.char]

/-- **A query is read as it was meant.** -/
theorem parse_query (hs : SyntaxSpecial special) {conds : List (String × String)} (hne : conds ≠ [])
    (hf : ∀ p ∈ conds, ∀ c ∈ p.1.toList, special c = false) {clause : List Char} (hback : '\\' ∉ clause)
    (hend : ']' ∉ clause) :
    parse special (String.ofList (queryText special conds clause)) =
      some ⟨[conds.map fun p => ⟨p.1, [p.2]⟩], String.ofList clause⟩ := by
  have hclause : Token.syn ']' ∉ clause.map (bare special) := by
    intro hmem
    obtain ⟨c, hc, heq⟩ := List.mem_map.mp hmem
    have hchar := congrArg Token.char heq
    by_cases h : special c = true <;> simp [bare, h, Token.char] at hchar heq
    subst hchar
    exact hend hc
  unfold parse
  rw [String.toList_ofList, (query_lexes hs hf hback).lex_eq, Option.bind_some, queryTokens, readQuery,
    readFilter_conditions [] hne]
  simp only [readClause_append hclause, bare_char, Option.map_some, List.nil_append]

theorem matches_single (conds : List (String × String)) (clause : String) (tags : String → List String) :
    Query.matches ⟨[conds.map fun p => ⟨p.1, [p.2]⟩], clause⟩ tags ↔ ∀ p ∈ conds, p.2 ∈ tags p.1 := by
  constructor
  · rintro ⟨conj, hconj, hall⟩ p hp
    rw [List.mem_singleton] at hconj
    obtain ⟨value, hvalue, htag⟩ := hall ⟨p.1, [p.2]⟩ (hconj ▸ List.mem_map_of_mem hp)
    rwa [List.mem_singleton.mp hvalue] at htag
  · intro h
    refine ⟨_, List.mem_singleton.mpr rfl, ?_⟩
    intro cond hcond
    obtain ⟨p, hp, rfl⟩ := List.mem_map.mp hcond
    exact ⟨p.2, List.mem_singleton.mpr rfl, h p hp⟩

end TagQuery
