import AiGateway.Chat.StreamReplay
import AiGateway.Lib.Utf16

/- The slices that a replay sends, one by one. Slice number `k` is the units from 64 k on, at
   most 64 of them, and the replay counts units without regard to surrogate pairs: a pair that
   lies across a multiple of 64 is sent in two halves, neither of which is a text.
   `replay_chunks_iff` is the exact extent, for every reply and every client that leaves early or
   stays. -/
namespace AiGateway

open JsString (IsText SplitsPair CutsPair)

/-- Slice number `k` of a text. -/
def replaySlice (text : List ℕ) (k : ℕ) : List ℕ :=
  (text.drop (streamCacheReplayChunkSize * k)).take streamCacheReplayChunkSize

namespace StreamCacheReplayInput

/-- The slice is there, and the client still is when it is sent. -/
def Sends (input : StreamCacheReplayInput) (k : ℕ) : Prop :=
  streamCacheReplayChunkSize * k < (JsString.units input.cached.text).length ∧
    ∀ poll ≤ k + 1, input.shouldAbort poll = false

/-- No slice that is sent ends inside a surrogate pair. -/
def PairsKept (input : StreamCacheReplayInput) : Prop :=
  ∀ k, input.Sends k → ¬ CutsPair (JsString.units input.cached.text) (streamCacheReplayChunkSize * (k + 1))

end StreamCacheReplayInput

section Slices
variable {input : StreamCacheReplayInput} {text us : List ℕ}

theorem replaySlice_length_le (text : List ℕ) (k : ℕ) : (replaySlice text k).length ≤ streamCacheReplayChunkSize :=
  List.length_take_le _ _

theorem replaySlice_ne_nil {k : ℕ} (h : streamCacheReplayChunkSize * k < text.length) : replaySlice text k ≠ [] := by
  apply List.ne_nil_of_length_pos
  unfold replaySlice
  rw [List.length_take, List.length_drop]
  exact lt_min (by decide) (by omega)

/-- A slice ends where the next one starts. -/
theorem take_succ_slice (text : List ℕ) (k : ℕ) :
    text.take (streamCacheReplayChunkSize * (k + 1)) =
      text.take (streamCacheReplayChunkSize * k) ++ replaySlice text k := by
  rw [Nat.mul_succ, List.take_add]
  rfl

theorem slice_append_rest (text : List ℕ) (k : ℕ) :
    replaySlice text k ++ text.drop (streamCacheReplayChunkSize * (k + 1)) =
      text.drop (streamCacheReplayChunkSize * k) := by
  unfold replaySlice
  rw [Nat.mul_succ, ← List.drop_drop, List.take_append_drop]

/-- The cut after a slice is a cut of the text. -/
theorem splitsPair_slice {k : ℕ} (h : streamCacheReplayChunkSize * k < text.length) :
    SplitsPair (replaySlice text k) (text.drop (streamCacheReplayChunkSize * (k + 1))) ↔
      CutsPair text (streamCacheReplayChunkSize * (k + 1)) := by
  unfold CutsPair SplitsPair
  rw [take_succ_slice, List.getLast?_append_of_ne_nil _ (replaySlice_ne_nil h)]

/-- The client stays through one more call. -/
theorem stays_succ (poll k : ℕ) : (∀ j ≤ k + 1, input.shouldAbort (poll + j) = false) ↔
    input.shouldAbort poll = false ∧ ∀ j ≤ k, input.shouldAbort (poll + 1 + j) = false := by
  have hsplit := @Nat.forall_lt_succ_left (k + 1) fun j => input.shouldAbort (poll + j) = false
  simpa only [Nat.lt_add_one_iff, Nat.add_zero, ← Nat.add_assoc, Nat.add_right_comm poll 1] using hsplit

/-- What the loop sends from slice `n` on: the slices up to the end of the text, or up to the
call that finds the client gone. -/
theorem delta_mem_replayFrom (n poll : ℕ) :
    ReplayEvent.delta us ∈ replayFrom input text poll (streamCacheReplayChunkSize * n) ↔
      ∃ k, streamCacheReplayChunkSize * (n + k) < text.length ∧ (∀ j ≤ k, input.shouldAbort (poll + j) = false) ∧
        us = replaySlice text (n + k) := by
  -- The start of the slice is the measure of the recursion; each call polls once more.
  generalize hi : streamCacheReplayChunkSize * n = i
  induction poll, i using replayFrom.induct input text generalizing n with
  | case1 poll i hlt hab =>
    rw [replayFrom, if_pos hlt, if_pos hab]
    refine ⟨fun h => absurd h List.not_mem_nil, ?_⟩
    rintro ⟨k, -, hstays, -⟩
    rw [show input.shouldAbort poll = false from hstays 0 (Nat.zero_le k)] at hab
    cases hab
  | case2 poll i hlt hab ih =>
    have hab : input.shouldAbort poll = false := by simpa using hab
    subst hi
    rw [replayFrom_slice hlt hab, List.mem_cons, ih (n + 1) (by rw [Nat.mul_succ])]
    constructor
    · intro h
      obtain h | ⟨k, hk, hstays, rfl⟩ := h
      · refine ⟨0, hlt, ?_, ReplayEvent.delta.inj h⟩
        intro j hj
        rw [Nat.le_zero.mp hj]
        exact hab
      · rw [Nat.add_right_comm] at hk ⊢
        exact ⟨k + 1, hk, (stays_succ poll k).mpr ⟨hab, hstays⟩, rfl⟩
    · rintro ⟨k, hk, hstays, hus⟩
      cases k with
      | zero => exact .inl (congrArg ReplayEvent.delta hus)
      | succ k =>
        refine .inr ⟨k, ?_, ((stays_succ poll k).mp hstays).2, ?_⟩
        · rwa [Nat.add_right_comm]
        · rwa [Nat.add_right_comm]
  | case3 poll i hlt hab =>
    rw [replayFrom, if_neg hlt, if_pos hab]
    refine ⟨fun h => absurd h List.not_mem_nil, ?_⟩
    rintro ⟨k, hk, -⟩
    subst hi
    rw [Nat.mul_add] at hk
    omega
  | case4 poll i hlt hab =>
    have hab : input.shouldAbort poll = false := by simpa using hab
    subst hi
    rw [replayFrom_end hlt hab]
    refine ⟨fun h => (by cases List.mem_singleton.mp h), ?_⟩
    rintro ⟨k, hk, -⟩
    rw [Nat.mul_add] at hk
    omega

theorem delta_mem_replay :
    ReplayEvent.delta us ∈ replay input ↔
      ∃ k, input.Sends k ∧ us = replaySlice (JsString.units input.cached.text) k := by
  have hsends : ∀ k, input.Sends k ↔ streamCacheReplayChunkSize * k < (JsString.units input.cached.text).length ∧
      input.shouldAbort 0 = false ∧ ∀ j ≤ k, input.shouldAbort (1 + j) = false := by
    intro k
    unfold StreamCacheReplayInput.Sends
    have hstays := @stays_succ input 0 k
    simp only [Nat.zero_add] at hstays
    rw [hstays]
  simp only [hsends]
  unfold replay
  split
  · next hab =>
    refine ⟨fun h => absurd h List.not_mem_nil, ?_⟩
    rintro ⟨k, ⟨-, hstays, -⟩, -⟩
    cases hstays.symm.trans hab
  · next hab =>
    have hab : input.shouldAbort 0 = false := by simpa using hab
    have hfrom := @delta_mem_replayFrom input (JsString.units input.cached.text) us 0 1
    rw [Nat.mul_zero] at hfrom
    rw [List.mem_cons, hfrom, or_iff_right (by simp)]
    simp only [Nat.zero_add, hab, true_and, and_assoc]

end Slices

/-- With the pairs kept, the rest of the text from a slice that is sent is a text. -/
theorem isText_drop {input : StreamCacheReplayInput} (hkept : input.PairsKept) {k : ℕ} (hsends : input.Sends k) :
    IsText ((JsString.units input.cached.text).drop (streamCacheReplayChunkSize * k)) := by
  have hall : IsText (JsString.units input.cached.text) := ⟨_, rfl⟩
  cases k with
  | zero => exact hall
  | succ k =>
    have hbefore : input.Sends k := by
      refine ⟨?_, fun poll hpoll => hsends.2 poll (by omega)⟩
      have := hsends.1
      rw [Nat.mul_succ] at this
      omega
    rw [← List.take_append_drop (streamCacheReplayChunkSize * (k + 1)) (JsString.units input.cached.text)] at hall
    exact (JsString.cut_cases hall).resolve_right (hkept k hbefore) |>.2

/-- Every delta of a replay is well formed, not empty and at most one unit over the chunk size
exactly when no slice that is sent ends inside a surrogate pair. -/
theorem replay_chunks_iff (input : StreamCacheReplayInput) :
    (∀ us, ReplayEvent.delta us ∈ replay input →
      IsText us ∧ us ≠ [] ∧ us.length ≤ streamCacheReplayChunkSize + 1) ↔ input.PairsKept := by
  constructor
  · intro h k hsends hcut
    obtain ⟨htext, -⟩ := h _ (delta_mem_replay.mpr ⟨k, hsends, rfl⟩)
    exact (JsString.not_isText_of_splitsPair ((splitsPair_slice hsends.1).mpr hcut)).1 htext
  · intro hkept us hus
    obtain ⟨k, hsends, rfl⟩ := delta_mem_replay.mp hus
    refine ⟨?_, replaySlice_ne_nil hsends.1, (replaySlice_length_le _ _).trans (Nat.le_succ _)⟩
    have hrest := isText_drop hkept hsends
    rw [← slice_append_rest] at hrest
    obtain ⟨htext, -⟩ | hsplit := JsString.cut_cases hrest
    · exact htext
    · exact absurd ((splitsPair_slice hsends.1).mp hsplit) (hkept k hsends)

/-- 63 letters and a face: the face is unit 63 and 64. -/
def facedReply : CachedChatResponse :=
  toCachedChatResponse (storedResponse plainStream .primary (String.ofList (List.replicate 63 'a' ++ [Char.ofNat 0x1F600]))
    parisFinal) "2025-01-01T00:00:00.000Z"

theorem face_cut_in_two :
    ∃ us, ReplayEvent.delta us ∈ replay ⟨facedReply, .exact, "req_2", "conv_2", fun _ => false⟩ ∧ ¬ IsText us := by
  refine ⟨_, delta_mem_replay.mpr ⟨0, ⟨by decide, fun _ _ => rfl⟩, rfl⟩, ?_⟩
  exact (@JsString.not_isText_of_splitsPair _ [0xDE00] (by decide)).1

end AiGateway
