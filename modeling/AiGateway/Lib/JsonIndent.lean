import AiGateway.Lib.Json

/- `JSON.stringify(v, null, 2)`: the text of a value with every member on a line of its own,
   two blanks further in than the bracket that holds it, and a blank after each colon. Such a
   text is a list of pieces, tokens and white space, and the tokens among them are those of
   the value, so the lexer reads the same from it as from the text without white space.

   `parse_stringifyIndented` is the round trip. -/
namespace Json

def isBlank (c : Char) : Bool := c ∈ [' ', '\t', '\n', '\r']

/-- What an indented text is made of. -/
inductive Piece where
  | token (t : Token)
  | blank (cs : List Char) (h : cs.all isBlank = true)

def Piece.render : Piece → List Char
  | .token t => t.render
  | .blank cs _ => cs

def Piece.token? : Piece → Option Token
  | .token t => some t
  | .blank _ _ => none

theorem isBlank_newline (depth : ℕ) : ('\n' :: List.replicate (2 * depth) ' ').all isBlank = true := by
  have hspace : isBlank ' ' = true := rfl
  have hbreak : isBlank '\n' = true := rfl
  rw [List.all_cons, hbreak, Bool.true_and, List.all_eq_true]
  intro c hc
  rw [List.eq_of_mem_replicate hc, hspace]

/-- The break before a line at this depth. -/
def newline (depth : ℕ) : Piece := .blank ('\n' :: List.replicate (2 * depth) ' ') (isBlank_newline depth)

def space : Piece := .blank [' '] rfl

mutual
/-- The pieces of a value inside so many brackets. -/
def pieces (depth : ℕ) : Value → List Piece
  | .null => [.token .null]
  | .bool b => [.token (.bool b)]
  | .num n => [.token (.num n)]
  | .str s => [.token (.str s)]
  | .arr [] => [.token .lbrack, .token .rbrack]
  | .arr (v :: vs) => .token .lbrack :: newline (depth + 1) :: (pieces (depth + 1) v ++ itemPieces depth vs)
  | .obj [] => [.token .lbrace, .token .rbrace]
  | .obj ((k, v) :: ms) =>
    .token .lbrace :: newline (depth + 1) :: .token (.str k) :: .token .colon :: space ::
      (pieces (depth + 1) v ++ memberPieces depth ms)
def itemPieces (depth : ℕ) : List Value → List Piece
  | [] => [newline depth, .token .rbrack]
  | v :: vs => .token .comma :: newline (depth + 1) :: (pieces (depth + 1) v ++ itemPieces depth vs)
def memberPieces (depth : ℕ) : List (String × Value) → List Piece
  | [] => [newline depth, .token .rbrace]
  | (k, v) :: ms =>
    .token .comma :: newline (depth + 1) :: .token (.str k) :: .token .colon :: space ::
      (pieces (depth + 1) v ++ memberPieces depth ms)
end

/-- `JSON.stringify(v, null, 2)`. -/
def stringifyIndented (v : Value) : String := String.ofList ((pieces 0 v).flatMap Piece.render)

/-! ## The tokens among the pieces -/

/-- The text with its white space taken out. -/
def tokensOf (ps : List Piece) : List Token := ps.filterMap Piece.token?

theorem tokensOf_token (t : Token) (ps : List Piece) : tokensOf (.token t :: ps) = t :: tokensOf ps := rfl

theorem tokensOf_newline (depth : ℕ) (ps : List Piece) : tokensOf (newline depth :: ps) = tokensOf ps := rfl

theorem tokensOf_space (ps : List Piece) : tokensOf (space :: ps) = tokensOf ps := rfl

theorem tokensOf_append (ps qs : List Piece) : tokensOf (ps ++ qs) = tokensOf ps ++ tokensOf qs :=
  List.filterMap_append

mutual
theorem tokensOf_pieces : ∀ (depth : ℕ) (v : Value), tokensOf (pieces depth v) = tokens v
  | _, .null | _, .bool _ | _, .num _ | _, .str _ | _, .arr [] | _, .obj [] => rfl
  | depth, .arr (v :: vs) => by
    have hv := tokensOf_pieces (depth + 1) v
    have hvs := tokensOf_itemPieces depth vs
    simp only [pieces, tokens, tokensOf_token, tokensOf_newline, tokensOf_append, hv, hvs]
  | depth, .obj ((k, v) :: ms) => by
    have hv := tokensOf_pieces (depth + 1) v
    have hms := tokensOf_memberPieces depth ms
    simp only [pieces, tokens, tokensOf_token, tokensOf_newline, tokensOf_space, tokensOf_append, hv, hms]
theorem tokensOf_itemPieces : ∀ (depth : ℕ) (vs : List Value),
    tokensOf (itemPieces depth vs) = itemTokens vs
  | _, [] => rfl
  | depth, v :: vs => by
    have hv := tokensOf_pieces (depth + 1) v
    have hvs := tokensOf_itemPieces depth vs
    simp only [itemPieces, itemTokens, tokensOf_token, tokensOf_newline, tokensOf_append, hv, hvs]
theorem tokensOf_memberPieces : ∀ (depth : ℕ) (ms : List (String × Value)),
    tokensOf (memberPieces depth ms) = memberTokens ms
  | _, [] => rfl
  | depth, (k, v) :: ms => by
    have hv := tokensOf_pieces (depth + 1) v
    have hms := tokensOf_memberPieces depth ms
    simp only [memberPieces, memberTokens, tokensOf_token, tokensOf_newline, tokensOf_space, tokensOf_append, hv, hms]
end

/-! ## Reading the pieces -/

theorem isNumberChar_blank {c : Char} (hc : isBlank c = true) : isNumberChar c = false := by
  simp only [isBlank, List.mem_cons, List.not_mem_nil, or_false, decide_eq_true_eq] at hc
  obtain rfl | rfl | rfl | rfl := hc
  all_goals decide

theorem lexFrom_blanks {cs : List Char} (h : cs.all isBlank = true) (rest : List Char) :
    lexFrom .between (cs ++ rest) = lexFrom .between rest := by
  induction cs with
  | nil => rfl
  | cons c cs ih =>
    rw [List.all_cons, Bool.and_eq_true] at h
    have hstep : lexStep .between c = some ([], .between) := by
      have hmem : c ∈ [' ', '\t', '\n', '\r'] := by simpa only [isBlank, decide_eq_true_eq] using h.1
      simp only [lexStep, start, if_pos hmem]
    rw [List.cons_append, lexFrom_silent .between hstep, ih h.2]

theorem Spaced.tail {t : Token} {ts : List Token} (h : Spaced (t :: ts)) : Spaced ts := by
  match t, ts, h with
  | .lbrace, _, h | .rbrace, _, h | .lbrack, _, h | .rbrack, _, h | .colon, _, h | .comma, _, h => exact h
  | .null, _, h | .bool _, _, h | .str _, _, h => exact h
  | .num _, [], _ => trivial
  | .num _, u :: _, h => cases u <;> first | exact h | exact h.elim

theorem Spaced.after_number {n : Number} {ts : List Token} (h : Spaced (.num n :: ts)) :
    headIsNumber ts = false := by
  match ts, h with
  | [], _ => rfl
  | u :: _, h => cases u <;> first | rfl | exact h.elim

/-- White space or another token ends a number. -/
theorem endsNumber_pieces {ps : List Piece} (h : headIsNumber (tokensOf ps) = false) :
    EndsNumber (ps.flatMap Piece.render) := by
  induction ps with
  | nil => trivial
  | cons p ps ih =>
    match p, h with
    | .token t, h =>
      apply render_endsNumber
      rintro n rfl
      cases h
    | .blank [] _, h => exact ih h
    | .blank (c :: cs) hblank, _ =>
      rw [List.all_cons, Bool.and_eq_true] at hblank
      exact isNumberChar_blank hblank.1

theorem lex_pieces {ps : List Piece} (h : Spaced (tokensOf ps)) :
    lex (ps.flatMap Piece.render) = some (tokensOf ps) := by
  induction ps with
  | nil => rfl
  | cons p ps ih =>
    match p, h with
    | .token t, h =>
      have hrest : lexFrom .between (ps.flatMap Piece.render) = some (tokensOf ps) := ih h.tail
      have hends : ∀ n, t = .num n → EndsNumber (ps.flatMap Piece.render) := by
        rintro n rfl
        exact endsNumber_pieces h.after_number
      show lexFrom .between (t.render ++ ps.flatMap Piece.render) = some (t :: tokensOf ps)
      rw [lexFrom_render t hends, hrest]
      rfl
    | .blank cs hblank, h =>
      show lexFrom .between (cs ++ ps.flatMap Piece.render) = some (tokensOf ps)
      rw [lexFrom_blanks hblank]
      exact ih h

/-- `JSON.parse(JSON.stringify(v, null, 2))`. -/
theorem parse_stringifyIndented (v : Value) : parse (stringifyIndented v) = some v := by
  have hspaced : Spaced (tokens v) := by
    have h := spaced_tokens v [] trivial rfl
    rwa [List.append_nil] at h
  have hlex : lex ((pieces 0 v).flatMap Piece.render) = some (tokens v) := by
    rw [← tokensOf_pieces 0 v] at hspaced ⊢
    exact lex_pieces hspaced
  have hparse := parseValue_tokens v (tokens v).length [] (Nat.le_refl _)
  rw [List.append_nil] at hparse
  simp only [parse, stringifyIndented, String.toList_ofList, hlex, Option.bind_some, hparse]

example : stringifyIndented (.obj [("a", .arr [.null, .arr []])]) =
    "\x7b\n  \"a\": [\n    null,\n    []\n  ]\n\x7d" := by decide

end Json
