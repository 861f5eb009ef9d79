import Mathlib.Data.List.Basic

/- Safety over a log of events. A monitor reads the events one after the other and says of each,
   from what it has seen before it, whether it may come next (`allows`); a log is accepted when
   every event in it was allowed at its place. A program that appends one allowed event at a
   time only writes accepted logs (`accepts_concat`). -/

/-- `ε` are the events, `ν` is what has been seen of them. -/
structure Monitor (ν ε : Type) where
  start : ν
  after : ν → ε → ν
  allows : ν → ε → Prop

namespace Monitor

variable {ν ε : Type} (m : Monitor ν ε)

def seen (log : List ε) : ν := log.foldl m.after m.start

/-- Every event of the log is allowed by what stands before it. -/
def Accepts (log : List ε) : Prop :=
  ∀ before e rest, log = before ++ e :: rest → m.allows (m.seen before) e

@[simp] theorem seen_nil : m.seen [] = m.start := rfl

@[simp] theorem seen_concat (log : List ε) (e : ε) : m.seen (log ++ [e]) = m.after (m.seen log) e := by
  simp [seen]

theorem accepts_nil : m.Accepts [] := by
  intro before e rest h
  simp at h

variable {m}

theorem accepts_concat {log : List ε} {e : ε} (h : m.Accepts log) (he : m.allows (m.seen log) e) :
    m.Accepts (log ++ [e]) := by
  intro before e' rest heq
  -- the event is the appended one, or stands in the log before it
  obtain rfl | ⟨rest', last, rfl⟩ := List.eq_nil_or_concat rest
  · obtain ⟨rfl, hlast⟩ := List.append_inj' heq rfl
    rw [List.singleton_inj] at hlast
    rwa [← hlast]
  · have hsplit : log ++ [e] = (before ++ e' :: rest') ++ [last] := by rw [heq]; simp
    exact h before e' rest' (List.append_inj' hsplit rfl).1

end Monitor
