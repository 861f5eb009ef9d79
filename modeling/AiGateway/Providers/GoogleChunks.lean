import AiGateway.Lib.JoinedGroups
import AiGateway.Providers.Google

/- A Gemini reply in one chunk or in several. The text is put together from all chunks, the
   function calls and the stop reason are read off the last, and the thoughts are joined with
   a newline, chunk by chunk.

   `chunking_kept_iff`: the answer does not depend on the chunks if the functions are called in
   the last chunk, no thought is cut, and no chunk has an empty thought as its only one; and,
   as long as the last two slips do not come together, only then. `call_before_last_chunk` is a
   call that is lost because a chunk follows it. -/
namespace AiGateway.Google

/-! ## A reply and its chunks -/

/-- A part of a reply; the getters of the SDK leave thoughts out of `text`. -/
inductive Piece where
  | text (said : String)
  | thought (said : String)
  | call (functionCall : FunctionCall)

def Piece.text? : Piece → Option String
  | .text said => some said
  | .thought _ | .call _ => none

def Piece.thought? : Piece → Option String
  | .thought said => some said
  | .text _ | .call _ => none

def Piece.call? : Piece → Option FunctionCall
  | .call functionCall => some functionCall
  | .text _ | .thought _ => none

def Piece.part : Piece → Part
  | .text said => ⟨false, some said⟩
  | .thought said => ⟨true, some said⟩
  | .call _ => ⟨false, none⟩

def thoughtsOf (pieces : List Piece) : List String := pieces.filterMap Piece.thought?

/-- The response holds these parts; `thoughts` and `thinkingContent` are fields of another API. -/
structure Carries (r : GenerateContentResponse) (pieces : List Piece) : Prop where
  text : r.text.getD "" = joinText (pieces.filterMap Piece.text?)
  functionCalls : r.functionCalls.getD [] = pieces.filterMap Piece.call?
  parts : r.parts.getD [] = pieces.map Piece.part
  thoughts : r.thoughts = none
  thinkingContent : r.thinkingContent = none

/-- The ways to split a reply: between two parts, or inside a text or a thought. -/
inductive SplitsInto : List Piece → List (List Piece) → Prop where
  | whole (pieces : List Piece) : SplitsInto pieces [pieces]
  | between (chunk : List Piece) {rest : List Piece} {chunks : List (List Piece)} :
      SplitsInto rest chunks → SplitsInto (chunk ++ rest) (chunk :: chunks)
  | inText (chunk : List Piece) {a b : String} {rest : List Piece} {chunks : List (List Piece)} :
      a ≠ "" → b ≠ "" → SplitsInto (.text b :: rest) chunks →
      SplitsInto (chunk ++ .text (a ++ b) :: rest) ((chunk ++ [.text a]) :: chunks)
  | inThought (chunk : List Piece) {a b : String} {rest : List Piece} {chunks : List (List Piece)} :
      a ≠ "" → b ≠ "" → SplitsInto (.thought b :: rest) chunks →
      SplitsInto (chunk ++ .thought (a ++ b) :: rest) ((chunk ++ [.thought a]) :: chunks)

/-- Both streams give the same text, tool calls, stop reason and thoughts. -/
structure SameAnswer (first second : StreamResult) : Prop where
  text : joinText first.textStream = joinText second.textStream
  final : ∃ f g, first.final = some f ∧ second.final = some g ∧ f.toolCalls = g.toolCalls ∧
    f.stopReason = g.stopReason ∧ f.thinkingContent = g.thinkingContent

/-- No function that has a name is called before the last chunk. -/
def CallsAtEnd (chunks : List (List Piece)) : Prop :=
  ∀ chunk ∈ chunks.dropLast, ∀ functionCall, .call functionCall ∈ chunk → JsString.truthy functionCall.name = none

/-- No thought is cut. -/
def ThoughtsUncut (reply : List Piece) (chunks : List (List Piece)) : Prop :=
  (chunks.map thoughtsOf).flatten = thoughtsOf reply

/-- The thoughts of some chunk are an empty one. -/
def LoneEmptyThought (chunks : List (List Piece)) : Prop := [""] ∈ chunks.map thoughtsOf

/-- The split changes nothing. -/
structure ChunksKept (c : Call) (reply : List Piece) (chunks : List (List Piece)) : Prop where
  calls : CallsAtEnd chunks
  thoughts : c.thinks = true →
    ThoughtsUncut reply chunks ∧ ((thoughtsOf reply).length ≤ 1 ∨ ¬ LoneEmptyThought chunks)

/-! ## What a split keeps -/

section Splits
variable {reply : List Piece} {chunks : List (List Piece)}

theorem SplitsInto.ne_nil (h : SplitsInto reply chunks) : chunks ≠ [] := by
  cases h <;> simp

theorem SplitsInto.text_eq (h : SplitsInto reply chunks) :
    joinText (chunks.map fun pieces => joinText (pieces.filterMap Piece.text?)) =
      joinText (reply.filterMap Piece.text?) := by
  induction h with
  | whole pieces => simp [joinText]
  | between chunk _ ih =>
    rw [List.map_cons, List.filterMap_append, joinText_append, ← ih]
    rfl
  | inText chunk _ _ _ ih =>
    rw [List.map_cons, joinText, ih]
    simp [joinText_append, joinText, Piece.text?, String.append_assoc]
  | inThought chunk _ _ _ ih =>
    rw [List.map_cons, joinText, ih]
    simp [List.filterMap_cons, joinText_append, Piece.text?]

theorem SplitsInto.calls_eq (h : SplitsInto reply chunks) :
    (chunks.map fun pieces => pieces.filterMap Piece.call?).flatten = reply.filterMap Piece.call? := by
  induction h with
  | whole pieces => simp
  | between chunk _ ih => rw [List.map_cons, List.flatten_cons, ih, List.filterMap_append]
  | inText chunk _ _ _ ih =>
    rw [List.map_cons, List.flatten_cons, ih]
    simp [List.filterMap_cons, Piece.call?]
  | inThought chunk _ _ _ ih =>
    rw [List.map_cons, List.flatten_cons, ih]
    simp [List.filterMap_cons, Piece.call?]

/-- A thought that is cut takes one separator more. -/
def CutWeight (reply : List Piece) (chunks : List (List Piece)) : Prop :=
  thoughtsOf reply ≠ [] ∧
    JoinedGroups.weight "\n" (thoughtsOf reply) < JoinedGroups.weight "\n" (chunks.map thoughtsOf).flatten

theorem SplitsInto.thoughts_le (h : SplitsInto reply chunks) : ThoughtsUncut reply chunks ∨ CutWeight reply chunks := by
  induction h with
  | whole pieces => exact .inl (by simp [ThoughtsUncut])
  | @between chunk rest chunks _ ih =>
    have happend : thoughtsOf (chunk ++ rest) = thoughtsOf chunk ++ thoughtsOf rest := List.filterMap_append
    unfold ThoughtsUncut CutWeight at *
    rw [happend, List.map_cons, List.flatten_cons, JoinedGroups.weight_append, JoinedGroups.weight_append]
    obtain huncut | ⟨hne, hlt⟩ := ih
    · exact .inl (by rw [huncut])
    · exact .inr ⟨by simp [hne], by omega⟩
  | @inText chunk a b rest chunks _ _ _ ih =>
    have happend : thoughtsOf (chunk ++ .text (a ++ b) :: rest) = thoughtsOf chunk ++ thoughtsOf (.text b :: rest) := by
      simp [List.filterMap_cons, thoughtsOf, Piece.thought?]
    have hchunk : thoughtsOf (chunk ++ [.text a]) = thoughtsOf chunk := by simp [List.filterMap_cons, thoughtsOf, Piece.thought?]
    unfold ThoughtsUncut CutWeight at *
    rw [happend, List.map_cons, List.flatten_cons, hchunk, JoinedGroups.weight_append, JoinedGroups.weight_append]
    obtain huncut | ⟨hne, hlt⟩ := ih
    · exact .inl (by rw [huncut])
    · exact .inr ⟨by simp [hne], by omega⟩
  | @inThought chunk a b rest chunks _ _ _ ih =>
    have happend : thoughtsOf (chunk ++ .thought (a ++ b) :: rest) = thoughtsOf chunk ++ (a ++ b) :: thoughtsOf rest := by
      simp [thoughtsOf, Piece.thought?]
    have hchunk : thoughtsOf (chunk ++ [.thought a]) = thoughtsOf chunk ++ [a] := by simp [thoughtsOf, Piece.thought?]
    -- A thought that is cut gets a line break in its middle, which no later chunk takes back.
    have hle : JoinedGroups.weight "\n" (b :: thoughtsOf rest) ≤
        JoinedGroups.weight "\n" (chunks.map thoughtsOf).flatten := by
      obtain huncut | ⟨-, hlt⟩ := ih
      · rw [huncut]
        rfl
      · exact hlt.le
    right
    unfold CutWeight
    rw [happend, List.map_cons, List.flatten_cons, hchunk]
    refine ⟨by simp, ?_⟩
    simp only [JoinedGroups.weight, List.map_append, List.map_cons, List.map_nil, List.sum_append, List.sum_cons,
      List.sum_nil, String.length_append] at hle ⊢
    have hone : "\n".length = 1 := rfl
    omega

end Splits

/-! ## What the adapter reads -/

section Read
variable {c : Call} {r : GenerateContentResponse} {pieces : List Piece}

theorem Carries.toolCalls_eq (h : Carries r pieces) :
    r.toolCalls = (pieces.filterMap Piece.call?).filterMap FunctionCall.toolCall? := by
  unfold GenerateContentResponse.toolCalls
  rw [h.functionCalls]

theorem Carries.truthy_thinking (h : Carries r pieces) :
    JsString.truthy (extractGeminiThinkingContent r) = JsString.truthy (some ("\n".intercalate (thoughtsOf pieces))) := by
  have hlegacy : extractFromLegacyFields r = none := by
    unfold extractFromLegacyFields
    rw [h.thoughts, h.thinkingContent]
    rfl
  have hparts : ((r.parts.getD []).filterMap fun p => if p.thought then p.text else none) = thoughtsOf pieces := by
    rw [h.parts, List.filterMap_map]
    apply List.filterMap_congr
    intro piece _
    cases piece <;> rfl
  unfold extractGeminiThinkingContent extractFromThoughtParts
  rw [hlegacy, hparts]
  cases thoughtsOf pieces with
  | nil => rfl
  | cons text texts => rfl

end Read

section Stream
variable {c : Call} {chunks : List (List Piece)} {responses : List GenerateContentResponse}

theorem stream_text (h : List.Forall₂ Carries responses chunks) :
    joinText (responses.filterMap fun r => JsString.truthy r.text) =
      joinText (chunks.map fun pieces => joinText (pieces.filterMap Piece.text?)) := by
  induction h with
  | nil => rfl
  | @cons r pieces responses chunks hcarries _ ih =>
    rw [List.map_cons, joinText, ← hcarries.text, ← ih]
    cases htext : r.text with
    | none => simp [htext, JsString.truthy]
    | some text =>
      by_cases hempty : text = ""
      · simp [htext, JsString.truthy_some, hempty]
      · simp [htext, JsString.truthy_some, hempty, joinText]

/-- The thoughts, joined chunk by chunk. -/
theorem thinking_eq (h : List.Forall₂ Carries responses chunks) (hthinks : c.thinks = true) :
    JsString.truthy (getThinkingContent c responses) =
      JsString.truthy (some ("\n".intercalate (JoinedGroups.kept "\n" (chunks.map thoughtsOf)))) := by
  have hkept : accumulatedThinkingContent c responses = JoinedGroups.kept "\n" (chunks.map thoughtsOf) := by
    unfold accumulatedThinkingContent
    rw [if_pos hthinks]
    induction h with
    | nil => rfl
    | @cons r pieces responses chunks hcarries _ ih =>
      by_cases hempty : "\n".intercalate (thoughtsOf pieces) = ""
      · rw [List.filterMap_cons_none (by rw [hcarries.truthy_thinking, JsString.truthy_some, if_pos hempty]), ih]
        simp [JoinedGroups.kept, hempty]
      · rw [List.filterMap_cons_some (by rw [hcarries.truthy_thinking, JsString.truthy_some, if_neg hempty]), ih]
        simp [JoinedGroups.kept, hempty]
  unfold getThinkingContent
  rw [hkept]
  cases JoinedGroups.kept "\n" (chunks.map thoughtsOf) with
  | nil => rfl
  | cons text texts => rfl

theorem thinking_eq_none (hthinks : c.thinks = false) : getThinkingContent c responses = none := by
  unfold getThinkingContent accumulatedThinkingContent
  rw [hthinks]
  rfl

end Stream

/-! ## The split and the whole -/

section Split
variable {c : Call} {reply : List Piece} {chunks : List (List Piece)} {whole : GenerateContentResponse}
  {responses : List GenerateContentResponse}

theorem toolCall?_eq_none {functionCall : FunctionCall} :
    functionCall.toolCall? = none ↔ JsString.truthy functionCall.name = none := by
  simp [FunctionCall.toolCall?]

/-- The named calls of the reply are those of the last chunk when none comes before. -/
theorem calls_agree_iff {last : List Piece} (hsplit : SplitsInto reply chunks) (hlast : chunks.getLast? = some last) :
    (last.filterMap Piece.call?).filterMap FunctionCall.toolCall? =
        (reply.filterMap Piece.call?).filterMap FunctionCall.toolCall? ↔ CallsAtEnd chunks := by
  have hchunks : chunks = chunks.dropLast ++ [last] := (List.dropLast_append_getLast? last hlast).symm
  have hcalls : reply.filterMap Piece.call? =
      (chunks.dropLast.map fun pieces => pieces.filterMap Piece.call?).flatten ++ last.filterMap Piece.call? := by
    rw [← hsplit.calls_eq]
    conv_lhs => rw [hchunks]
    simp
  rw [hcalls, List.filterMap_append, List.self_eq_append_left, List.filterMap_eq_nil_iff]
  constructor
  · intro hnone chunk hchunk functionCall hcall
    apply toolCall?_eq_none.mp
    apply hnone
    exact List.mem_flatten.mpr ⟨_, List.mem_map.mpr ⟨chunk, hchunk, rfl⟩, List.mem_filterMap.mpr ⟨_, hcall, rfl⟩⟩
  · intro hend functionCall hmem
    obtain ⟨calls, hcalls, hcall⟩ := List.mem_flatten.mp hmem
    obtain ⟨chunk, hchunk, rfl⟩ := List.mem_map.mp hcalls
    obtain ⟨piece, hpiece, hread⟩ := List.mem_filterMap.mp hcall
    cases piece with
    | text said => cases hread
    | thought said => cases hread
    | call f =>
      cases hread
      exact toolCall?_eq_none.mpr (hend chunk hchunk _ hpiece)

theorem carries_last (h : List.Forall₂ Carries responses chunks) (hne : chunks ≠ []) :
    ∃ r last, responses.getLast? = some r ∧ chunks.getLast? = some last ∧ Carries r last := by
  induction h with
  | nil => exact absurd rfl hne
  | @cons r pieces responses chunks hcarries hrest ih =>
    cases hrest with
    | nil => exact ⟨r, pieces, rfl, rfl, hcarries⟩
    | cons _ _ =>
      obtain ⟨r', last, hr', hlast, hlastCarries⟩ := ih (by simp)
      exact ⟨r', last, by rw [List.getLast?_cons_cons, hr'], by rw [List.getLast?_cons_cons, hlast], hlastCarries⟩

/-- The thoughts come out alike, up to the case that both slips meet. -/
theorem thoughts_agree (hsplit : SplitsInto reply chunks) :
    let same := "\n".intercalate (JoinedGroups.kept "\n" (chunks.map thoughtsOf)) = "\n".intercalate (thoughtsOf reply)
    let kept := ThoughtsUncut reply chunks ∧ ((thoughtsOf reply).length ≤ 1 ∨ ¬ LoneEmptyThought chunks)
    (kept → same) ∧ (ThoughtsUncut reply chunks ∨ ¬ LoneEmptyThought chunks → same → kept) := by
  have hiff := @JoinedGroups.joined_iff "\n" (by decide) (chunks.map thoughtsOf)
  refine ⟨?_, ?_⟩
  · rintro ⟨huncut, hlone⟩
    rw [huncut] at hiff
    exact hiff.mpr hlone
  · intro honce hsame
    by_cases huncut : ThoughtsUncut reply chunks
    · rw [huncut] at hiff
      exact ⟨huncut, hiff.mp hsame⟩
    · obtain ⟨hne, hlt⟩ := hsplit.thoughts_le.resolve_left huncut
      exact absurd hsame (JoinedGroups.joined_ne_of_lt (by decide) hne hlt (honce.resolve_left huncut))

/-- The text of the two streams is the same, wherever the reply is cut. -/
theorem joinText_agree (hsplit : SplitsInto reply chunks) (hwhole : Carries whole reply)
    (hchunks : List.Forall₂ Carries responses chunks) :
    joinText (stream c ⟨responses, false⟩).textStream = joinText (stream c ⟨[whole], false⟩).textStream := by
  have hone : joinText (stream c ⟨[whole], false⟩).textStream = joinText (reply.filterMap Piece.text?) := by
    have hsingle := stream_text (List.Forall₂.cons hwhole .nil)
    rw [List.map_cons, joinText, List.map_nil, joinText, String.append_empty] at hsingle
    exact hsingle
  rw [hone, ← hsplit.text_eq]
  exact stream_text hchunks

/-- The thinking content is joined chunk by chunk in the one, at once in the other. -/
theorem thinking_agree_iff (hwhole : Carries whole reply) (hchunks : List.Forall₂ Carries responses chunks) :
    JsString.truthy (getThinkingContent c responses) = JsString.truthy (getThinkingContent c [whole]) ↔
      (c.thinks = true →
        "\n".intercalate (JoinedGroups.kept "\n" (chunks.map thoughtsOf)) = "\n".intercalate (thoughtsOf reply)) := by
  by_cases hthinks : c.thinks = true
  · have hone : "\n".intercalate (JoinedGroups.kept "\n" [thoughtsOf reply]) = "\n".intercalate (thoughtsOf reply) := by
      by_cases hempty : "\n".intercalate (thoughtsOf reply) = "" <;> simp [JoinedGroups.kept, hempty]
    rw [thinking_eq hchunks hthinks, thinking_eq (List.Forall₂.cons hwhole .nil) hthinks, JsString.truthy_some_inj]
    simp only [List.map_cons, List.map_nil, hone, hthinks, true_implies]
  · rw [thinking_eq_none (eq_false_of_ne_true hthinks), thinking_eq_none (eq_false_of_ne_true hthinks)]
    simp [hthinks]

/-- What the two streams have in common, read off the parts. -/
theorem sameAnswer_iff (hsplit : SplitsInto reply chunks) (hwhole : Carries whole reply)
    (hchunks : List.Forall₂ Carries responses chunks) :
    SameAnswer (stream c ⟨responses, false⟩) (stream c ⟨[whole], false⟩) ↔
      CallsAtEnd chunks ∧ (c.thinks = true →
        "\n".intercalate (JoinedGroups.kept "\n" (chunks.map thoughtsOf)) = "\n".intercalate (thoughtsOf reply)) := by
  obtain ⟨r, last, hr, hlast, hcarries⟩ := carries_last hchunks hsplit.ne_nil
  have htext := @joinText_agree c _ _ _ _ hsplit hwhole hchunks
  have hcalls : r.toolCalls = whole.toolCalls ↔ CallsAtEnd chunks := by
    rw [hcarries.toolCalls_eq, hwhole.toolCalls_eq]
    exact calls_agree_iff hsplit hlast
  have hthinking := @thinking_agree_iff c _ _ _ _ hwhole hchunks
  rw [← hcalls, ← hthinking]
  constructor
  · rintro ⟨-, f, g, hf, hg, htoolCalls, -, hthoughts⟩
    simp only [stream, hr, Bool.false_eq_true, if_false, Option.some_inj] at hf hg
    subst hf hg
    exact ⟨htoolCalls, hthoughts⟩
  · rintro ⟨htoolCalls, hthoughts⟩
    refine ⟨htext, _, _, rfl, rfl, ?_, ?_, hthoughts⟩
    · simp only [hr]
      exact htoolCalls
    · simp only [hr]
      show some (if r.toolCalls.isEmpty then _ else _) = some (if whole.toolCalls.isEmpty then _ else _)
      rw [htoolCalls]

end Split

theorem chunking_kept_iff (c : Call) (reply : List Piece) (chunks : List (List Piece)) (whole : GenerateContentResponse)
    (responses : List GenerateContentResponse) (hsplit : SplitsInto reply chunks) (hwhole : Carries whole reply)
    (hchunks : List.Forall₂ Carries responses chunks) :
    (ChunksKept c reply chunks → SameAnswer (stream c ⟨responses, false⟩) (stream c ⟨[whole], false⟩)) ∧
      (¬ (c.thinks = true ∧ ¬ ThoughtsUncut reply chunks ∧ LoneEmptyThought chunks) →
        SameAnswer (stream c ⟨responses, false⟩) (stream c ⟨[whole], false⟩) → ChunksKept c reply chunks) := by
  obtain ⟨hsame, hkept⟩ := thoughts_agree hsplit
  rw [sameAnswer_iff hsplit hwhole hchunks]
  refine ⟨?_, ?_⟩
  · intro h
    exact ⟨h.calls, fun hthinks => hsame (h.thoughts hthinks)⟩
  · rintro hapart ⟨hcalls, hthoughts⟩
    refine ⟨hcalls, ?_⟩
    intro hthinks
    apply hkept ?_ (hthoughts hthinks)
    by_contra hboth
    obtain ⟨hcut, hlone⟩ := not_or.mp hboth
    exact hapart ⟨hthinks, hcut, not_not.mp hlone⟩

/-! ## A chunk after the call -/

def weatherPiece : Piece := .call ⟨none, some "weather", none⟩

/-- A response with the parts, and nothing else. -/
def plainResponse (pieces : List Piece) : GenerateContentResponse :=
  ⟨some (joinText (pieces.filterMap Piece.text?)), some (pieces.filterMap Piece.call?), none, none,
    some (pieces.map Piece.part), none, none, none⟩

theorem plainResponse_carries (pieces : List Piece) : Carries (plainResponse pieces) pieces := ⟨rfl, rfl, rfl, rfl, rfl⟩

def plainCall : Call := ⟨"gemini-2.5-flash", none⟩

theorem call_in_last_chunk_kept :
    SameAnswer (stream plainCall ⟨[plainResponse [.text "Let me see."], plainResponse [weatherPiece]], false⟩)
      (stream plainCall ⟨[plainResponse [.text "Let me see.", weatherPiece]], false⟩) := by
  have hsplit : SplitsInto [.text "Let me see.", weatherPiece] [[.text "Let me see."], [weatherPiece]] :=
    .between [.text "Let me see."] (.whole [weatherPiece])
  refine (chunking_kept_iff plainCall _ _ _ _ hsplit (plainResponse_carries _)
    (.cons (plainResponse_carries _) (.cons (plainResponse_carries _) .nil))).1 ⟨?_, ?_⟩
  · intro chunk hchunk functionCall hcall
    obtain rfl := List.mem_singleton.mp hchunk
    simp at hcall
  · intro hthinks
    cases hthinks

/-- The call, and a last chunk with the usage only. -/
theorem call_before_last_chunk :
    ¬ ∀ (c : Call) (reply : List Piece) (chunks : List (List Piece)) (whole : GenerateContentResponse)
      (responses : List GenerateContentResponse), SplitsInto reply chunks → Carries whole reply →
      List.Forall₂ Carries responses chunks →
      SameAnswer (stream c ⟨responses, false⟩) (stream c ⟨[whole], false⟩) := by
  intro hclaim
  have hsplit : SplitsInto [weatherPiece] [[weatherPiece], []] := .between [weatherPiece] (.whole [])
  obtain ⟨-, f, g, hf, hg, htoolCalls, -⟩ := hclaim plainCall _ _ _ _ hsplit (plainResponse_carries _)
    (.cons (plainResponse_carries _) (.cons (plainResponse_carries _) .nil))
  cases hf
  cases hg
  cases htoolCalls

end AiGateway.Google
