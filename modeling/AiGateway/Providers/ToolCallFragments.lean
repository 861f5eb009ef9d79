import AiGateway.Providers.ChatCompletions
import Mathlib.Data.List.Perm.Basic
import Mathlib.Data.List.Forall2

/- The tool calls of a streamed chat completion, put together again from their fragments.

   `EncodesCalls` says which deltas stream a list of calls, index by index: the first delta of
   an index has the id and the name of its call, the arguments are cut anywhere, and the first
   deltas come in index order. How the deltas of different calls alternate, and how many of
   them are in a chunk, is left open.

   `calls_decoded`: the accumulator gives the list back, in order. Its keys are in the order
   of the first deltas, which is the order of the indexes (`keys_sorted`), and what it has for
   an index depends on the deltas of that index only (`entryOf_filter`). -/
namespace AiGateway.ChatCompletions

/-- The deltas of one call. The later ones may say the id and the name again. -/
structure Fragments (call : GatewayToolCall) (deltas : List ToolCallDelta) : Prop where
  first : ∃ first rest, deltas = first :: rest ∧ first.id = some call.id ∧ first.name = some call.name
  again : ∀ delta ∈ deltas, (∀ id, delta.id = some id → id = call.id) ∧ ∀ name, delta.name = some name → name = call.name
  arguments : joinText (deltas.map fun delta => delta.arguments.getD "") = call.arguments

def deltasOf (index : ℕ) (deltas : List ToolCallDelta) : List ToolCallDelta :=
  deltas.filter fun delta => delta.index = index

/-- A delta that is the first of its index comes after those of smaller indexes only. -/
def FirstsInOrder (deltas : List ToolCallDelta) : Prop :=
  ∀ (n : ℕ) (delta : ToolCallDelta), deltas[n]? = some delta →
    (∀ earlier ∈ deltas.take n, earlier.index ≠ delta.index) → ∀ earlier ∈ deltas.take n, earlier.index < delta.index

/-- Deltas that stream some calls, each under its index. -/
structure EncodesCalls (calls : List (ℕ × GatewayToolCall)) (deltas : List ToolCallDelta) : Prop where
  ordered : (calls.map Prod.fst).Pairwise (· < ·)
  fragments : ∀ call ∈ calls, Fragments call.2 (deltasOf call.1 deltas)
  known : ∀ delta ∈ deltas, delta.index ∈ calls.map Prod.fst
  inOrder : FirstsInOrder deltas

/-! ## The order of the calls -/

def keys (accumulator : ToolCallAccumulator) : List ℕ := accumulator.entries.map Prod.fst

theorem keys_accumulateDelta (accumulator : ToolCallAccumulator) (delta : ToolCallDelta) :
    keys (accumulateDelta accumulator delta) =
      if delta.index ∈ keys accumulator then keys accumulator else keys accumulator ++ [delta.index] :=
  JsMap.keys_setEntry ..

theorem mem_keys {deltas : List ToolCallDelta} {index : ℕ} :
    index ∈ keys (deltas.foldl accumulateDelta .empty) ↔ ∃ delta ∈ deltas, delta.index = index := by
  induction deltas using List.reverseRecOn with
  | nil => simp [keys, JsMap.empty]
  | append_singleton deltas delta ih =>
    have hstep : index ∈ keys (accumulateDelta (deltas.foldl accumulateDelta .empty) delta) ↔
        index ∈ keys (deltas.foldl accumulateDelta .empty) ∨ index = delta.index := by
      rw [keys_accumulateDelta]
      split
      · next hold => exact (or_iff_left_of_imp fun heq => heq ▸ hold).symm
      · rw [List.mem_append, List.mem_singleton]
    rw [List.foldl_append, List.foldl_cons, List.foldl_nil, hstep, ih, @eq_comm ℕ index]
    simp only [List.mem_append, List.mem_singleton, or_and_right, exists_or, exists_eq_left]

/-- The keys are in the order of the first deltas. -/
theorem keys_sorted {deltas : List ToolCallDelta} (h : FirstsInOrder deltas) :
    (keys (deltas.foldl accumulateDelta .empty)).Pairwise (· < ·) := by
  induction deltas using List.reverseRecOn with
  | nil => exact List.Pairwise.nil
  | append_singleton deltas delta ih =>
    have hbefore : FirstsInOrder deltas := by
      intro n d hd
      have hn : n < deltas.length := (List.getElem?_eq_some_iff.mp hd).1
      have hsame := h n d (by rw [List.getElem?_append_left hn, hd])
      rwa [List.take_append_of_le_length (Nat.le_of_lt hn)] at hsame
    rw [List.foldl_append, List.foldl_cons, List.foldl_nil, keys_accumulateDelta]
    split
    · exact ih hbefore
    · next hnew =>
      -- a new index: every index so far belongs to an earlier delta
      have hlt := h deltas.length delta (by simp)
      rw [List.take_left] at hlt
      have hlt := hlt fun earlier hearlier heq => hnew (mem_keys.mpr ⟨earlier, hearlier, heq⟩)
      rw [List.pairwise_append]
      refine ⟨ih hbefore, List.pairwise_singleton _ _, ?_⟩
      intro index hindex other hother
      obtain ⟨earlier, hearlier, rfl⟩ := mem_keys.mp hindex
      obtain rfl := List.mem_singleton.mp hother
      exact hlt earlier hearlier

/-! ## What is kept of one call -/

theorem entryOf_filter (index : ℕ) (deltas : List ToolCallDelta) (start : Option AccumulatedCall) :
    entryOf index deltas start = entryOf index (deltasOf index deltas) start := by
  induction deltas generalizing start with
  | nil => rfl
  | cons delta deltas ih =>
    rw [entryOf, List.foldl_cons, ← entryOf, ih, deltasOf, deltasOf]
    by_cases hindex : delta.index = index
    · rw [List.filter_cons_of_pos (by simpa using hindex)]
      rfl
    · rw [List.filter_cons_of_neg (by simpa using hindex), if_neg hindex]

/-- Deltas that say nothing else of a call add to its arguments. -/
theorem entryOf_rest {index : ℕ} {call : GatewayToolCall} {deltas : List ToolCallDelta}
    (hindex : ∀ delta ∈ deltas, delta.index = index)
    (hagain : ∀ delta ∈ deltas, (∀ id, delta.id = some id → id = call.id) ∧
      ∀ name, delta.name = some name → name = call.name) (soFar : String) :
    entryOf index deltas (some ⟨some call.id, call.name, soFar⟩) =
      some ⟨some call.id, call.name, soFar ++ joinText (deltas.map fun delta => delta.arguments.getD "")⟩ := by
  induction deltas generalizing soFar with
  | nil => simp [entryOf, joinText]
  | cons delta deltas ih =>
    obtain ⟨hid, hname⟩ := hagain delta List.mem_cons_self
    have hextend : delta.extend ⟨some call.id, call.name, soFar⟩ =
        ⟨some call.id, call.name, soFar ++ delta.arguments.getD ""⟩ := by
      have hid' : delta.id.or (some call.id) = some call.id := by
        cases hgiven : delta.id with
        | none => rfl
        | some id => rw [Option.some_or, hid id hgiven]
      have hname' : delta.name.getD call.name = call.name := by
        cases hgiven : delta.name with
        | none => rfl
        | some name => exact hname name hgiven
      rw [ToolCallDelta.extend, hid', hname']
    have hrest := ih (fun d hd => hindex d (List.mem_cons_of_mem delta hd))
      (fun d hd => hagain d (List.mem_cons_of_mem delta hd)) (soFar ++ delta.arguments.getD "")
    unfold entryOf at hrest ⊢
    rw [List.foldl_cons, if_pos (hindex delta List.mem_cons_self), Option.getD_some, hextend, hrest, List.map_cons,
      joinText, String.append_assoc]

theorem Fragments.entry {index : ℕ} {call : GatewayToolCall} {deltas : List ToolCallDelta}
    (h : Fragments call (deltasOf index deltas)) :
    entryOf index deltas none = some ⟨some call.id, call.name, call.arguments⟩ := by
  obtain ⟨first, rest, hdeltas, hid, hname⟩ := h.first
  have hindex : ∀ delta ∈ first :: rest, delta.index = index := by
    intro delta hdelta
    rw [← hdeltas] at hdelta
    simpa using (List.mem_filter.mp hdelta).2
  have hagain := h.again
  have harguments := h.arguments
  rw [hdeltas] at hagain harguments
  have hrest := @entryOf_rest index call rest (fun d hd => hindex d (List.mem_cons_of_mem first hd))
    (fun d hd => hagain d (List.mem_cons_of_mem first hd)) (first.arguments.getD "")
  rw [entryOf_filter, hdeltas, ← harguments, List.map_cons, joinText, ← hrest]
  unfold entryOf
  rw [List.foldl_cons, if_pos (hindex first List.mem_cons_self)]
  simp [ToolCallDelta.extend, hid, hname]

/-! ## The list of calls -/

section Decoded
variable {calls : List (ℕ × GatewayToolCall)} {deltas : List ToolCallDelta}

theorem EncodesCalls.keys_eq (h : EncodesCalls calls deltas) :
    keys (deltas.foldl accumulateDelta .empty) = calls.map Prod.fst := by
  have hsorted := keys_sorted h.inOrder
  have hperm : (keys (deltas.foldl accumulateDelta .empty)).Perm (calls.map Prod.fst) := by
    rw [List.perm_ext_iff_of_nodup (hsorted.imp Nat.ne_of_lt) (h.ordered.imp Nat.ne_of_lt)]
    intro index
    rw [mem_keys]
    constructor
    · intro ⟨delta, hdelta, heq⟩
      exact heq ▸ h.known delta hdelta
    · intro hindex
      obtain ⟨call, hcall, rfl⟩ := List.mem_map.mp hindex
      obtain ⟨first, rest, hdeltas, -⟩ := (h.fragments call hcall).first
      have hfirst : first ∈ deltasOf call.1 deltas := hdeltas ▸ List.mem_cons_self
      obtain ⟨hmem, heq⟩ := List.mem_filter.mp hfirst
      exact ⟨first, hmem, of_decide_eq_true heq⟩
  exact hperm.eq_of_pairwise (fun _ _ _ _ hab hba => absurd hab (Nat.lt_asymm hba)) hsorted h.ordered

/-- The accumulator holds the calls, in order. -/
theorem EncodesCalls.entries (h : EncodesCalls calls deltas) :
    (deltas.foldl accumulateDelta .empty).entries =
      calls.map fun call => (call.1, ⟨some call.2.id, call.2.name, call.2.arguments⟩) := by
  apply JsMap.entries_eq
  · rw [List.map_map]
    exact h.keys_eq
  · intro entry hentry
    obtain ⟨call, hcall, rfl⟩ := List.mem_map.mp hentry
    rw [get?_foldl_accumulateDelta, JsMap.get?_empty]
    exact (h.fragments call hcall).entry

end Decoded

/-- **Every list of calls is given back**, in whatever fragments it is sent. -/
theorem calls_decoded (calls : List (ℕ × GatewayToolCall)) (chunks : List Chunk)
    (hnamed : ∀ call ∈ calls, call.2.id ≠ "" ∧ call.2.name ≠ "")
    (h : EncodesCalls calls (chunks.flatMap Chunk.deltas)) :
    finalizeOpenAiStreamToolCalls (chunks.foldl accumulateOpenAiStreamToolCallDeltas .empty) =
      calls.map fun call => { call.2 with arguments := orEmptyObject call.2.arguments } := by
  unfold finalizeOpenAiStreamToolCalls JsMap.values
  rw [foldl_chunks, h.entries, List.map_map, List.filterMap_map]
  rw [List.filterMap_eq_map_iff_forall_eq_some]
  intro call hcall
  obtain ⟨hid, hname⟩ := hnamed call hcall
  simp [AccumulatedCall.toolCall?, JsString.truthy_some, hid, hname]

def parallelCalls : List (ℕ × GatewayToolCall) :=
  [(0, ⟨"call_a", "getWeather", "\x7b\"q\":1\x7d"⟩), (2, ⟨"call_b", "ping", ""⟩)]

def parallelChunks : List Chunk :=
  [⟨[⟨some "", none, none, none⟩], none, none, none⟩,
    ⟨[⟨none, none, some [⟨0, some "call_a", some "getWeather", some "\x7b\"q"⟩, ⟨2, some "call_b", some "ping", some ""⟩], none⟩],
      none, none, none⟩,
    ⟨[⟨none, none, some [⟨0, none, none, some "\":1\x7d"⟩], some .toolCalls⟩], none, none, none⟩,
    ⟨[], none, none, none⟩]

theorem parallelChunks_encode : EncodesCalls parallelCalls (parallelChunks.flatMap Chunk.deltas) where
  ordered := by decide
  fragments := by
    intro call hcall
    simp only [parallelCalls, List.mem_cons, List.not_mem_nil, or_false] at hcall
    obtain rfl | rfl := hcall
    · exact ⟨⟨_, _, rfl, rfl, rfl⟩, by decide, by decide⟩
    · exact ⟨⟨_, _, rfl, rfl, rfl⟩, by decide, by decide⟩
  known := by decide
  inOrder := by
    intro n delta hdelta
    match n, hdelta with
    | 0, rfl => decide
    | 1, rfl => decide
    | 2, rfl => decide

/-- Two calls that are streamed at the same time, the second without arguments. -/
theorem calls_decoded_parallel :
    finalizeOpenAiStreamToolCalls (parallelChunks.foldl accumulateOpenAiStreamToolCallDeltas .empty) =
      [⟨"call_a", "getWeather", "\x7b\"q\":1\x7d"⟩, ⟨"call_b", "ping", "\x7b\x7d"⟩] :=
  calls_decoded parallelCalls parallelChunks (by decide) parallelChunks_encode

end AiGateway.ChatCompletions
