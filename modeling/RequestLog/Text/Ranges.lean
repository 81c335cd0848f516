/-!
# Sets of characters given by ranges

A character class beyond ASCII is data: a list of inclusive code point ranges.  A class is
decided by looking for a range that covers the character.
-/

namespace RequestLog
namespace Text

/-- Inclusive code point ranges, in ascending order and without overlap. -/
abbrev Ranges := List (Nat × Nat)

namespace Ranges

/-- Some range covers the code point. -/
def covers (ranges : Ranges) (code : Nat) : Bool :=
  ranges.any fun range => range.1 ≤ code && code ≤ range.2

theorem covers_iff {ranges : Ranges} {code : Nat} :
    ranges.covers code = true ↔ ∃ range ∈ ranges, range.1 ≤ code ∧ code ≤ range.2 := by
  simp [covers]

end Ranges

/-- A run of characters whose case mappings keep one distance. -/
structure CaseRun where
  /-- First code point of the run. -/
  first : Nat
  /-- Last code point of the run. -/
  last : Nat
  /-- Distance between neighbours of the run: one, or two where the cases alternate. -/
  stride : Nat
  /-- Image of the first code point. -/
  target : Nat

namespace CaseRun

/-- The image of a code point, when the run contains it. -/
def image? (run : CaseRun) (code : Nat) : Option Nat :=
  if run.first ≤ code ∧ code ≤ run.last ∧ (code - run.first) % run.stride = 0 then
    some (run.target + (code - run.first))
  else
    none

/-- The image of a character under the first run that contains it; other characters stay. -/
def apply (runs : List CaseRun) (c : Char) : Char :=
  match runs.findSome? fun run => run.image? c.toNat with
  | some code => Char.ofNat code
  | none => c

end CaseRun
end Text
end RequestLog
