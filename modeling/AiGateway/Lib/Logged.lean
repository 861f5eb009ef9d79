import Mathlib.Data.List.Basic

/- Code that makes observable calls and may throw. A computation is the list of the calls it
   made, in order, and its outcome; a throw keeps the calls made before it, `settle` catches it,
   and `finally_` runs its block after a value and after a throw alike. The rules say which
   calls a composed computation has made. -/

/-- `κ` are the calls, `ε` the errors. -/
structure Logged (κ ε α : Type) where
  calls : List κ
  outcome : Except ε α

namespace Logged

variable {κ ε α β : Type}

def andThen (m : Logged κ ε α) (f : α → Logged κ ε β) : Logged κ ε β :=
  match m.outcome with
  | .ok a => ⟨m.calls ++ (f a).calls, (f a).outcome⟩
  | .error e => ⟨m.calls, .error e⟩

instance : Monad (Logged κ ε) where
  pure a := ⟨[], .ok a⟩
  bind := andThen

/-- A step that makes no call. -/
def attempt (x : Except ε α) : Logged κ ε α := ⟨[], x⟩

/-- A step that throws or does nothing of note. -/
def mayThrow : Option ε → Logged κ ε Unit
  | none => ⟨[], .ok ()⟩
  | some e => ⟨[], .error e⟩

def throws (e : ε) : Logged κ ε α := ⟨[], .error e⟩

/-- A call and its answer. -/
def call (k : κ) (answer : α) : Logged κ ε α := ⟨[k], .ok answer⟩

/-- A call that may be rejected. -/
def ask (k : κ) (answer : Except ε α) : Logged κ ε α := ⟨[k], answer⟩

/-- `try { m } catch (e) { ... }` up to the block: the error is a value. -/
def settle (m : Logged κ ε α) : Logged κ ε (Except ε α) := ⟨m.calls, .ok m.outcome⟩

/-- `try { m } finally { after }`: a throw of the block replaces the outcome. -/
def finally_ (m : Logged κ ε α) (after : Logged κ ε Unit) : Logged κ ε α where
  calls := m.calls ++ after.calls
  outcome := match after.outcome with
    | .ok _ => m.outcome
    | .error e => .error e

/-- The calls under another name, as one part of a larger computation. -/
def mapCalls {κ' : Type} (f : κ → κ') (m : Logged κ ε α) : Logged κ' ε α := ⟨m.calls.map f, m.outcome⟩

@[simp] theorem pure_eq (a : α) : (pure a : Logged κ ε α) = ⟨[], .ok a⟩ := rfl

@[simp] theorem bind_ok (calls : List κ) (a : α) (f : α → Logged κ ε β) :
    ((⟨calls, .ok a⟩ : Logged κ ε α) >>= f) = ⟨calls ++ (f a).calls, (f a).outcome⟩ := rfl

@[simp] theorem bind_error (calls : List κ) (e : ε) (f : α → Logged κ ε β) :
    ((⟨calls, .error e⟩ : Logged κ ε α) >>= f) = ⟨calls, .error e⟩ := rfl

@[simp] theorem settle_ask (k : κ) (answer : Except ε α) :
    (ask k answer).settle = (⟨[k], .ok answer⟩ : Logged κ ε (Except ε α)) := rfl

@[simp] theorem calls_attempt (x : Except ε α) : (attempt x : Logged κ ε α).calls = [] := rfl

@[simp] theorem calls_mayThrow (e : Option ε) : (mayThrow e : Logged κ ε Unit).calls = [] := by
  cases e <;> rfl

@[simp] theorem calls_finally (m : Logged κ ε α) (after : Logged κ ε Unit) :
    (finally_ m after).calls = m.calls ++ after.calls := rfl

/-- A sequence of steps that make no call makes none. -/
theorem silent_bind {m : Logged κ ε α} {f : α → Logged κ ε β} (hm : m.calls = [])
    (hf : ∀ a, (f a).calls = []) : (m >>= f).calls = [] := by
  obtain ⟨calls, outcome⟩ := m
  cases hm
  cases outcome with
  | ok a => simpa using hf a
  | error e => rfl

end Logged
