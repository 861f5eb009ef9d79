import AiGateway.Lib.Run
import AiGateway.Lib.Table
import Mathlib.Logic.Function.Basic

/- `createInProcessSingleflight`: concurrent callers with one key share one work.

   The source registers `work().finally(() => inFlight.delete(key))` under the key. A work
   therefore ends in three separate turns of the event loop's microtask queue: the promise
   that `work()` returned settles, then the `finally` callback deletes the entry, then the
   shared promise (the one `finally` returned, which the callers hold) settles with the same
   outcome. Other code, and so other calls, can run between any two of them; a state here is
   what can be seen between two turns.

   `singleflight_law` is what holds over every order of calls and turns. The entry of a key
   lives from the start of its work to the `finally` callback, so a call that falls between
   the callback and the settlement of the shared promise starts a work of its own while the
   old promise is still unsettled (`two_unsettled_promises`). -/
namespace AiGateway.Singleflight

variable {K T : Type}

/-- How far the end of a work has come; `T` is its outcome, resolved or rejected. -/
inductive Stage (T : Type) where
  | running
  | settled (outcome : T)    -- the promise of `work()` has settled, the callback is queued
  | finalized (outcome : T)  -- the callback has run, the shared promise is not settled yet
  | done (outcome : T)       -- the shared promise has settled
  deriving DecidableEq, Repr

/-- The `finally` callback has not run yet. -/
def Stage.registered : Stage T → Bool
  | .running | .settled _ => true
  | .finalized _ | .done _ => false

/-- The shared promise is not settled yet. -/
def Stage.unsettled : Stage T → Bool
  | .done _ => false
  | _ => true

def Stage.outcome? : Stage T → Option T
  | .running => none
  | .settled r | .finalized r | .done r => some r

structure Work (K T : Type) where
  key : K
  stage : Stage T
  deriving DecidableEq, Repr

/-- One call of the function: the shared promise it returned, named by its work's position
(`none` when `work()` threw), and whether it started that work. -/
structure Caller (K : Type) where
  key : K
  promise : Option ℕ
  started : Bool
  deriving DecidableEq, Repr

structure Flight (K T : Type) where
  inFlight : K → Option ℕ
  works : List (Work K T)
  callers : List (Caller K)

def Flight.initial : Flight K T := ⟨fun _ => none, [], []⟩

inductive Action (K T : Type) where
  | call (key : K) (throws : Bool)  -- `throws`: `work()`, if it is called, throws at once
  | settle (i : ℕ) (outcome : T)
  | finalize (i : ℕ)
  | deliver (i : ℕ)
  deriving DecidableEq, Repr

section Step
variable [DecidableEq K]

/-- One call of the returned function. `work()` runs before the entry is set. -/
def Flight.call (s : Flight K T) (key : K) (throws : Bool) : Flight K T :=
  match s.inFlight key with
  | some existing => { s with callers := s.callers ++ [⟨key, some existing, false⟩] }
  | none =>
    if throws then { s with callers := s.callers ++ [⟨key, none, true⟩] }
    else
      { inFlight := Function.update s.inFlight key (some s.works.length)
        works := s.works ++ [⟨key, .running⟩]
        callers := s.callers ++ [⟨key, some s.works.length, true⟩] }

def Flight.setStage (s : Flight K T) (i : ℕ) (w : Work K T) (stage : Stage T) : Flight K T :=
  { s with works := s.works.set i { w with stage := stage } }

def step (s : Flight K T) : Action K T → Option (Flight K T)
  | .call key throws => some (s.call key throws)
  | .settle i outcome =>
    match s.works[i]? with
    | some ⟨key, .running⟩ => some (s.setStage i ⟨key, .running⟩ (.settled outcome))
    | _ => none
  | .finalize i =>
    match s.works[i]? with
    | some ⟨key, .settled outcome⟩ =>
      some { s.setStage i ⟨key, .settled outcome⟩ (.finalized outcome) with
        inFlight := Function.update s.inFlight key none }
    | _ => none
  | .deliver i =>
    match s.works[i]? with
    | some ⟨key, .finalized outcome⟩ => some (s.setStage i ⟨key, .finalized outcome⟩ (.done outcome))
    | _ => none

/-- What one step can do: a call joins, fails at once or starts a work; or one work moves to
its next stage, the `finally` callback deleting the entry of its key. -/
theorem step_cases {s s' : Flight K T} {a : Action K T} (h : step s a = some s') :
    (∃ key throws, a = .call key throws ∧ s' = s.call key throws) ∨
    (∃ i key r, a = .settle i r ∧ s.works[i]? = some ⟨key, .running⟩ ∧
      s' = { s with works := s.works.set i ⟨key, .settled r⟩ }) ∨
    (∃ i key r, a = .finalize i ∧ s.works[i]? = some ⟨key, .settled r⟩ ∧
      s' = { s with works := s.works.set i ⟨key, .finalized r⟩
                    inFlight := Function.update s.inFlight key none }) ∨
    (∃ i key r, a = .deliver i ∧ s.works[i]? = some ⟨key, .finalized r⟩ ∧
      s' = { s with works := s.works.set i ⟨key, .done r⟩ }) := by
  cases a with
  | call key throws => cases h; exact .inl ⟨key, throws, rfl, rfl⟩
  | settle i r =>
    simp only [step] at h
    split at h
    · next key hi => cases h; exact .inr (.inl ⟨i, key, r, rfl, hi, rfl⟩)
    · cases h
  | finalize i =>
    simp only [step] at h
    split at h
    · next key r hi => cases h; exact .inr (.inr (.inl ⟨i, key, r, rfl, hi, rfl⟩))
    · cases h
  | deliver i =>
    simp only [step] at h
    split at h
    · next key r hi => cases h; exact .inr (.inr (.inr ⟨i, key, r, rfl, hi, rfl⟩))
    · cases h

end Step

/-! ## The in-flight map is the registered works -/

/-- The entry of a key is the one work of that key whose callback has not run, and every
caller holds the promise of a work of its own key. -/
structure Inv (s : Flight K T) : Prop where
  entry_iff : ∀ k i, s.inFlight k = some i ↔
    ∃ w, s.works[i]? = some w ∧ w.key = k ∧ w.stage.registered = true
  caller_work : ∀ c ∈ s.callers, ∀ i, c.promise = some i → ∃ w, s.works[i]? = some w ∧ w.key = c.key

theorem inv_initial : Inv (Flight.initial : Flight K T) where
  entry_iff := by simp [Flight.initial]
  caller_work := by simp [Flight.initial]

/-- Two registered works of one key are the same work. -/
theorem Inv.unique {s : Flight K T} (h : Inv s) {i j : ℕ} {v w : Work K T}
    (hi : s.works[i]? = some v) (hj : s.works[j]? = some w) (hkey : v.key = w.key)
    (hv : v.stage.registered = true) (hw : w.stage.registered = true) : i = j := by
  have h1 := (h.entry_iff w.key i).mpr ⟨v, hi, hkey, hv⟩
  have h2 := (h.entry_iff w.key j).mpr ⟨w, hj, rfl, hw⟩
  exact Option.some.inj (h1.symm.trans h2)

/-- Moving a work between two stages that are registered, or between two that are not. -/
theorem Inv.moveStage {s : Flight K T} (h : Inv s) {i : ℕ} {key : K} {old new : Stage T}
    (hi : s.works[i]? = some ⟨key, old⟩) (hreg : new.registered = old.registered) :
    Inv { s with works := s.works.set i ⟨key, new⟩ } := by
  have hlen : i < s.works.length := (List.getElem?_eq_some_iff.mp hi).1
  refine ⟨?_, ?_⟩
  · intro k j
    rw [h.entry_iff]
    by_cases hij : i = j
    · subst hij
      rw [List.getElem?_set_self hlen, hi]
      simp [hreg]
    · rw [List.getElem?_set_ne hij]
  · intro c hc j hj
    obtain ⟨w, hw, hwk⟩ := h.caller_work c hc j hj
    by_cases hij : i = j
    · subst hij
      rw [hi] at hw
      cases hw
      exact ⟨_, List.getElem?_set_self hlen, hwk⟩
    · exact ⟨w, by rw [List.getElem?_set_ne hij]; exact hw, hwk⟩

/-- The `finally` callback: the entry goes, and with it the only registered work of the key. -/
theorem Inv.finalize [DecidableEq K] {s : Flight K T} (h : Inv s) {i : ℕ} {key : K} {r : T}
    (hi : s.works[i]? = some ⟨key, .settled r⟩) :
    Inv { s with works := s.works.set i ⟨key, .finalized r⟩
                 inFlight := Function.update s.inFlight key none } := by
  have hlen : i < s.works.length := (List.getElem?_eq_some_iff.mp hi).1
  refine ⟨?_, ?_⟩
  · intro k j
    by_cases hk : k = key
    · subst hk
      simp only [Function.update_self, reduceCtorEq, false_iff]
      rintro ⟨w, hw, hwk, hreg⟩
      rcases Table.getElem?_set_cases hw with ⟨-, rfl⟩ | ⟨hij, hw⟩
      · simp [Stage.registered] at hreg
      · exact hij (h.unique hi hw (by rw [hwk]) rfl hreg)
    · simp only [Function.update_of_ne hk, h.entry_iff]
      constructor
      · rintro ⟨w, hw, hwk, hreg⟩
        -- The entry of another key is of another work.
        have hij : i ≠ j := by
          rintro rfl
          rw [hi] at hw
          cases hw
          exact hk hwk.symm
        exact ⟨w, by rw [List.getElem?_set_ne hij]; exact hw, hwk, hreg⟩
      · rintro ⟨w, hw, hwk, hreg⟩
        rcases Table.getElem?_set_cases hw with ⟨-, rfl⟩ | ⟨-, hw⟩
        · exact absurd hwk.symm hk
        · exact ⟨w, hw, hwk, hreg⟩
  · intro c hc j hj
    obtain ⟨w, hw, hwk⟩ := h.caller_work c hc j hj
    by_cases hij : i = j
    · subst hij
      rw [hi] at hw
      cases hw
      exact ⟨_, List.getElem?_set_self hlen, hwk⟩
    · exact ⟨w, by simp only; rw [List.getElem?_set_ne hij]; exact hw, hwk⟩

section Runs
variable [DecidableEq K]

theorem call_of_entry {s : Flight K T} {key : K} {i : ℕ} (throws : Bool) (h : s.inFlight key = some i) :
    s.call key throws = { s with callers := s.callers ++ [⟨key, some i, false⟩] } := by
  simp [Flight.call, h]

theorem call_of_no_entry {s : Flight K T} {key : K} (h : s.inFlight key = none) :
    s.call key false =
      { inFlight := Function.update s.inFlight key (some s.works.length)
        works := s.works ++ [⟨key, .running⟩]
        callers := s.callers ++ [⟨key, some s.works.length, true⟩] } := by
  simp [Flight.call, h]

theorem call_throws {s : Flight K T} {key : K} (h : s.inFlight key = none) :
    s.call key true = { s with callers := s.callers ++ [⟨key, none, true⟩] } := by
  simp [Flight.call, h]

omit [DecidableEq K] in
theorem Inv.addCaller {s : Flight K T} (h : Inv s) {c : Caller K}
    (hc : ∀ i, c.promise = some i → ∃ w, s.works[i]? = some w ∧ w.key = c.key) :
    Inv { s with callers := s.callers ++ [c] } := by
  refine ⟨h.entry_iff, ?_⟩
  intro c' hc'
  rcases List.mem_append.mp hc' with hc' | hc'
  · exact h.caller_work c' hc'
  · rw [List.mem_singleton] at hc'
    subst hc'
    exact hc

theorem Inv.startWork {s : Flight K T} (h : Inv s) {key : K} (hnone : s.inFlight key = none) :
    Inv (s.call key false) := by
  rw [call_of_no_entry hnone]
  refine ⟨?_, ?_⟩
  · intro k i
    by_cases hk : k = key
    · subst hk
      simp only [Function.update_self]
      constructor
      · intro hi
        cases hi
        exact ⟨⟨k, .running⟩, by simp, rfl, rfl⟩
      · rintro ⟨w, hw, hwk, hreg⟩
        rcases Table.getElem?_snoc_cases hw with ⟨rfl, -⟩ | hw
        · rfl
        · -- an older registered work of this key would still have its entry
          have := (h.entry_iff k i).mpr ⟨w, hw, hwk, hreg⟩
          rw [hnone] at this
          cases this
    · simp only [Function.update_of_ne hk, h.entry_iff]
      constructor
      · rintro ⟨w, hw, hwk, hreg⟩
        have hlen := (List.getElem?_eq_some_iff.mp hw).1
        exact ⟨w, by rw [List.getElem?_append_left hlen]; exact hw, hwk, hreg⟩
      · rintro ⟨w, hw, hwk, hreg⟩
        rcases Table.getElem?_snoc_cases hw with ⟨-, rfl⟩ | hw
        · exact absurd hwk.symm hk
        · exact ⟨w, hw, hwk, hreg⟩
  · intro c hc i hi
    rcases List.mem_append.mp hc with hc | hc
    · obtain ⟨w, hw, hwk⟩ := h.caller_work c hc i hi
      have hlen := (List.getElem?_eq_some_iff.mp hw).1
      exact ⟨w, by simp only; rw [List.getElem?_append_left hlen]; exact hw, hwk⟩
    · rw [List.mem_singleton] at hc
      subst hc
      cases hi
      exact ⟨⟨key, .running⟩, by simp, rfl⟩

theorem step_inv {s s' : Flight K T} {a : Action K T} (h : Inv s) (hstep : step s a = some s') :
    Inv s' := by
  rcases step_cases hstep with ⟨key, throws, -, rfl⟩ | ⟨i, key, r, -, hi, rfl⟩ |
    ⟨i, key, r, -, hi, rfl⟩ | ⟨i, key, r, -, hi, rfl⟩
  · cases he : s.inFlight key with
    | some e =>
      rw [call_of_entry throws he]
      apply h.addCaller
      intro i hi
      cases hi
      obtain ⟨w, hw, hwk, -⟩ := (h.entry_iff key e).mp he
      exact ⟨w, hw, hwk⟩
    | none =>
      cases throws with
      | true => rw [call_throws he]; exact h.addCaller (by simp)
      | false => exact h.startWork he
  · exact h.moveStage hi rfl
  · exact h.finalize hi
  · exact h.moveStage hi rfl

/-! ## Outcomes -/

/-- The outcome a work carries through its stages is the one it settled with, once. -/
structure Outcomes (acts : List (Action K T)) (s : Flight K T) : Prop where
  settled : ∀ i w r, s.works[i]? = some w → w.stage.outcome? = some r → .settle i r ∈ acts
  running : ∀ i w, s.works[i]? = some w → w.stage.outcome? = none → ∀ r, .settle i r ∉ acts
  unique : ∀ i r r', .settle i r ∈ acts → .settle i r' ∈ acts → r = r'
  started : ∀ i r, .settle i r ∈ acts → i < s.works.length

omit [DecidableEq K] in
theorem outcomes_initial : Outcomes [] (Flight.initial : Flight K T) := by
  constructor <;> simp [Flight.initial]

omit [DecidableEq K] in
/-- An action that settles no work and moves no outcome. -/
theorem Outcomes.frame {acts : List (Action K T)} {s s' : Flight K T} {a : Action K T}
    (h : Outcomes acts s) (ha : ∀ i r, a ≠ .settle i r) (hlen : s.works.length ≤ s'.works.length)
    (hold : ∀ i w, s'.works[i]? = some w → (∃ v, s.works[i]? = some v ∧ v.stage.outcome? = w.stage.outcome?) ∨
      (s.works.length ≤ i ∧ w.stage.outcome? = none)) : Outcomes (acts ++ [a]) s' := by
  have hmem : ∀ i r, Action.settle i r ∈ acts ++ [a] ↔ Action.settle i r ∈ acts := by
    intro i r
    simp [(ha i r).symm]
  refine ⟨?_, ?_, ?_, ?_⟩
  · intro i w r hw hr
    rw [hmem]
    rcases hold i w hw with ⟨v, hv, hvw⟩ | ⟨-, hn⟩
    · exact h.settled i v r hv (hvw.trans hr)
    · rw [hn] at hr; cases hr
  · intro i w hw hn r
    rw [hmem]
    rcases hold i w hw with ⟨v, hv, hvw⟩ | ⟨hi, -⟩
    · exact h.running i v hv (hvw.trans hn) r
    · intro hs
      have := h.started i r hs
      omega
  · intro i r r' h1 h2
    exact h.unique i r r' ((hmem i r).mp h1) ((hmem i r').mp h2)
  · intro i r hs
    have := h.started i r ((hmem i r).mp hs)
    omega

theorem call_works (s : Flight K T) (key : K) (throws : Bool) :
    (s.call key throws).works = s.works ∨ (s.call key throws).works = s.works ++ [⟨key, .running⟩] := by
  unfold Flight.call
  split
  · exact .inl rfl
  · split
    · exact .inl rfl
    · exact .inr rfl

theorem step_outcomes {acts : List (Action K T)} {s s' : Flight K T} {a : Action K T}
    (h : Outcomes acts s) (hstep : step s a = some s') : Outcomes (acts ++ [a]) s' := by
  rcases step_cases hstep with ⟨key, throws, rfl, rfl⟩ | ⟨i, key, r, rfl, hi, rfl⟩ |
    ⟨i, key, r, rfl, hi, rfl⟩ | ⟨i, key, r, rfl, hi, rfl⟩
  · apply h.frame (by simp)
    · rcases call_works s key throws with hw | hw <;> simp [hw]
    · intro j w hj
      rcases call_works s key throws with hw | hw
      · rw [hw] at hj; exact .inl ⟨w, hj, rfl⟩
      · rw [hw] at hj
        rcases Table.getElem?_snoc_cases hj with ⟨rfl, rfl⟩ | hj
        · exact .inr ⟨Nat.le_refl _, rfl⟩
        · exact .inl ⟨w, hj, rfl⟩
  · -- the work settles: it was running, so no outcome was recorded for it before
    have hfresh : ∀ r', Action.settle i r' ∉ acts := h.running i _ hi rfl
    have hlen : i < s.works.length := (List.getElem?_eq_some_iff.mp hi).1
    refine ⟨?_, ?_, ?_, ?_⟩
    · intro j w q hw hq
      rcases Table.getElem?_set_cases hw with ⟨rfl, rfl⟩ | ⟨-, hw⟩
      · cases hq; simp
      · exact List.mem_append_left _ (h.settled j w q hw hq)
    · intro j w hw hn q hq
      rcases Table.getElem?_set_cases hw with ⟨rfl, rfl⟩ | ⟨hij, hw⟩
      · cases hn
      · rcases List.mem_append.mp hq with hq | hq
        · exact h.running j w hw hn q hq
        · simp only [List.mem_singleton, Action.settle.injEq] at hq
          exact hij hq.1.symm
    · intro j q q' h1 h2
      rcases List.mem_append.mp h1 with h1 | h1 <;> rcases List.mem_append.mp h2 with h2 | h2
      · exact h.unique j q q' h1 h2
      · simp only [List.mem_singleton, Action.settle.injEq] at h2
        rw [h2.1] at h1
        exact absurd h1 (hfresh q)
      · simp only [List.mem_singleton, Action.settle.injEq] at h1
        rw [h1.1] at h2
        exact absurd h2 (hfresh q')
      · simp only [List.mem_singleton, Action.settle.injEq] at h1 h2
        exact h1.2.trans h2.2.symm
    · intro j q hq
      rw [List.length_set]
      rcases List.mem_append.mp hq with hq | hq
      · exact h.started j q hq
      · simp only [List.mem_singleton, Action.settle.injEq] at hq
        obtain ⟨rfl, -⟩ := hq
        exact hlen
  · apply h.frame (by simp) (by simp)
    intro j w hw
    rcases Table.getElem?_set_cases hw with ⟨rfl, rfl⟩ | ⟨-, hw⟩
    · exact .inl ⟨_, hi, rfl⟩
    · exact .inl ⟨w, hw, rfl⟩
  · apply h.frame (by simp) (by simp)
    intro j w hw
    rcases Table.getElem?_set_cases hw with ⟨rfl, rfl⟩ | ⟨-, hw⟩
    · exact .inl ⟨_, hi, rfl⟩
    · exact .inl ⟨w, hw, rfl⟩

/-! ## Other keys -/

/-- The key whose entry and works an action may touch. -/
def Action.key (s : Flight K T) : Action K T → Option K
  | .call key _ => some key
  | .settle i _ | .finalize i | .deliver i => s.works[i]?.map Work.key

/-- The works of one key, each under its position. -/
def worksOf (s : Flight K T) (key : K) (i : ℕ) : Option (Work K T) :=
  s.works[i]?.filter (·.key = key)

theorem worksOf_set {s s' : Flight K T} {i : ℕ} {key k : K} {old new : Stage T}
    (hi : s.works[i]? = some ⟨key, old⟩) (hs' : s'.works = s.works.set i ⟨key, new⟩) (hk : key ≠ k) :
    worksOf s' k = worksOf s k := by
  funext j
  simp only [worksOf, hs']
  by_cases hij : i = j
  · subst hij
    rw [List.getElem?_set_self (List.getElem?_eq_some_iff.mp hi).1, hi]
    simp only [Option.filter, hk, decide_false, Bool.false_eq_true, if_false]
  · rw [List.getElem?_set_ne hij]

theorem worksOf_append {s s' : Flight K T} {key k : K} {stage : Stage T}
    (hs' : s'.works = s.works ++ [⟨key, stage⟩]) (hk : key ≠ k) : worksOf s' k = worksOf s k := by
  funext j
  simp only [worksOf, hs']
  rcases Nat.lt_trichotomy j s.works.length with hj | hj | hj
  · rw [List.getElem?_append_left hj]
  · have hnew : (s.works ++ [⟨key, stage⟩])[j]? = some ⟨key, stage⟩ := by simp [hj]
    rw [hnew, List.getElem?_eq_none (by omega)]
    simp only [Option.filter, hk, decide_false, Bool.false_eq_true, if_false]
  · rw [List.getElem?_eq_none (by simp; omega), List.getElem?_eq_none (by omega)]

theorem step_other_key {s s' : Flight K T} {a : Action K T} (hstep : step s a = some s') {k : K}
    (hk : a.key s ≠ some k) : s'.inFlight k = s.inFlight k ∧ worksOf s' k = worksOf s k := by
  rcases step_cases hstep with ⟨key, throws, rfl, rfl⟩ | ⟨i, key, r, rfl, hi, rfl⟩ |
    ⟨i, key, r, rfl, hi, rfl⟩ | ⟨i, key, r, rfl, hi, rfl⟩
  · have hne : key ≠ k := by
      rintro rfl
      exact hk rfl
    unfold Flight.call
    split
    · exact ⟨rfl, rfl⟩
    · split
      · exact ⟨rfl, rfl⟩
      · exact ⟨Function.update_of_ne hne.symm _ _, worksOf_append rfl hne⟩
  all_goals
    have hne : key ≠ k := by
      rintro rfl
      exact hk (by simp [Action.key, hi])
  · exact ⟨rfl, worksOf_set hi rfl hne⟩
  · exact ⟨Function.update_of_ne hne.symm _ _, worksOf_set hi rfl hne⟩
  · exact ⟨rfl, worksOf_set hi rfl hne⟩

/-! ## The law -/

/-- The state after any run: the works, the entries and the callers' promises. -/
structure Law (acts : List (Action K T)) (s : Flight K T) : Prop where
  one_per_key : ∀ (i j : ℕ) (v w : Work K T), s.works[i]? = some v → s.works[j]? = some w →
    v.key = w.key → v.stage.registered = true → w.stage.registered = true → i = j
  join : ∀ (i : ℕ) (w : Work K T) (throws : Bool), s.works[i]? = some w → w.stage.registered = true →
    s.call w.key throws = { s with callers := s.callers ++ [⟨w.key, some i, false⟩] }
  fresh : ∀ key : K, (∀ w ∈ s.works, w.key = key → w.stage.registered = false) →
    s.call key false =
      { inFlight := Function.update s.inFlight key (some s.works.length)
        works := s.works ++ [⟨key, .running⟩]
        callers := s.callers ++ [⟨key, some s.works.length, true⟩] } ∧
    s.call key true = { s with callers := s.callers ++ [⟨key, none, true⟩] }
  outcome : ∀ c ∈ s.callers, ∀ i, c.promise = some i → ∃ w, s.works[i]? = some w ∧ w.key = c.key ∧
    ∀ r, w.stage = .done r → .settle i r ∈ acts ∧ ∀ r', .settle i r' ∈ acts → r' = r
  other_keys : ∀ (a : Action K T) (s' : Flight K T) (k : K), step s a = some s' → a.key s ≠ some k →
    s'.inFlight k = s.inFlight k ∧ worksOf s' k = worksOf s k
  empty : (∀ w ∈ s.works, w.stage.unsettled = false) → ∀ k, s.inFlight k = none

theorem Stage.unsettled_of_registered {stage : Stage T} (h : stage.registered = true) :
    stage.unsettled = true := by
  cases stage <;> first | rfl | cases h

omit [DecidableEq K] in
theorem Inv.no_entry {s : Flight K T} (h : Inv s) {key : K}
    (hno : ∀ w ∈ s.works, w.key = key → w.stage.registered = false) : s.inFlight key = none := by
  cases he : s.inFlight key with
  | none => rfl
  | some i =>
    obtain ⟨w, hw, hwk, hreg⟩ := (h.entry_iff key i).mp he
    rw [hno w (List.mem_of_getElem? hw) hwk] at hreg
    cases hreg

theorem singleflight_law (acts : List (Action K T)) (s : Flight K T)
    (hrun : Runs.run step .initial acts = some s) : Law acts s := by
  have hinv : Inv s := Runs.run_invariant (fun _ _ _ => step_inv) inv_initial hrun
  -- A work is settled once, so that every caller that joined it hears the same.
  have hout : Outcomes acts s :=
    Runs.run_history (fun _ _ _ _ => step_outcomes) outcomes_initial hrun
  refine ⟨?_, ?_, ?_, ?_, ?_, ?_⟩
  · intro i j v w hi hj hkey hv hw
    exact hinv.unique hi hj hkey hv hw
  · intro i w throws hi hreg
    exact call_of_entry throws ((hinv.entry_iff w.key i).mpr ⟨w, hi, rfl, hreg⟩)
  · intro key hno
    have hnone := hinv.no_entry hno
    exact ⟨call_of_no_entry hnone, call_throws hnone⟩
  · intro c hc i hi
    obtain ⟨w, hw, hwk⟩ := hinv.caller_work c hc i hi
    refine ⟨w, hw, hwk, ?_⟩
    intro r hr
    have hsettled := hout.settled i w r hw (by rw [hr]; rfl)
    exact ⟨hsettled, fun r' hr' => hout.unique i r' r hr' hsettled⟩
  · intro a s' k hstep hk
    exact step_other_key hstep hk
  · intro hall k
    apply hinv.no_entry
    intro w hw _
    cases hreg : w.stage.registered with
    | false => rfl
    | true =>
      have := Stage.unsettled_of_registered hreg
      rw [hall w hw] at this
      cases this

end Runs

/-- Two callers of one key share the work that the first started; it rejects, and the map is
empty again. -/
theorem singleflight_law_shared :
    ∃ s : Flight ℕ (Except ℕ ℕ), s.callers = [⟨7, some 0, true⟩, ⟨7, some 0, false⟩] ∧
      s.works = [⟨7, .done (.error 503)⟩] ∧
      Law [.call 7 false, .call 7 false, .settle 0 (.error 503), .finalize 0, .deliver 0] s :=
  ⟨_, rfl, rfl, singleflight_law _ _ rfl⟩

/-- A call that falls between the `finally` callback and the settlement of the promise the
callback returns: the key has two unsettled shared promises, and the call started a work
before the first one was settled. -/
theorem two_unsettled_promises :
    ¬ ∀ (acts : List (Action ℕ ℕ)) (s : Flight ℕ ℕ), Runs.run step .initial acts = some s →
      ∀ (i j : ℕ) (v w : Work ℕ ℕ), s.works[i]? = some v → s.works[j]? = some w → v.key = w.key →
        v.stage.unsettled = true → w.stage.unsettled = true → i = j := by
  intro h
  have := h [.call 7 false, .settle 0 1, .finalize 0, .call 7 false] _ rfl 0 1
    ⟨7, .finalized 1⟩ ⟨7, .running⟩ rfl rfl rfl rfl rfl
  cases this

end AiGateway.Singleflight
