import TodoLedger.Ascending
import TodoLedger.Mention.Code
import TodoLedger.Mention.Handle

/-!
# The mentions of a text

`scan` collects the handles that a text mentions. A handle in the run that opens a line is
*addressed*, every other one *mentioned*; the same handle can be both, in different places.
-/

namespace TodoLedger

/-- What a text refers to, handles or users, each set in ascending order. -/
structure Mentions (α : Type) where
  /-- Named in a run that opens a line. -/
  addressed : List α
  /-- Named elsewhere. -/
  mentioned : List α
deriving DecidableEq, Repr

namespace Mentions

variable {α : Type}

/-- Nothing is referred to. -/
def none : Mentions α := ⟨[], []⟩

/-- True when nothing is referred to. -/
def isEmpty (m : Mentions α) : Bool := m.addressed.isEmpty && m.mentioned.isEmpty

/-- All that is referred to, in ascending order. -/
def all [LT α] [DecidableLT α] (m : Mentions α) : List α := ascending (m.addressed ++ m.mentioned)

/-- What is referred to is named in an opening run or elsewhere. -/
theorem mem_all [LT α] [DecidableLT α] [Std.Trichotomous (α := α) (· < ·)] {a : α}
    {m : Mentions α} : a ∈ m.all ↔ a ∈ m.addressed ∨ a ∈ m.mentioned := by
  rw [all, mem_ascending, List.mem_append]

end Mentions

namespace Mention

/-- The handles of the given occurrences, as sets. -/
def collect (found : List Occurrence) : Mentions String where
  addressed := ascending ((found.filter (·.opening)).map (·.handle))
  mentioned := ascending ((found.filter (!·.opening)).map (·.handle))

/-- The handles that a text mentions, with or without those in code. -/
def scan (ignoreCode : Bool) (text : String) : Mentions String :=
  collect ((proseLines ignoreCode text.toList).flatMap occurrences)

end Mention

end TodoLedger
