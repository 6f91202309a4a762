/-! Sets of code points written as inclusive ranges, and maps of code points written
as runs with a common distance. Every character class of the library that reaches
beyond ASCII is one of these tables, so membership is a search through a list that
the kernel can evaluate. -/
namespace SchemaGuide.Text

/-- A set of code points as inclusive ranges in increasing order. -/
abbrev Ranges := List (Nat × Nat)

/-- Whether the code point lies in one of the ranges. -/
def Ranges.contains (ranges : Ranges) (code : Nat) : Bool :=
  ranges.any fun range => range.1 ≤ code && code ≤ range.2

/-- Whether the character lies in one of the ranges. -/
def Ranges.has (ranges : Ranges) (c : Char) : Bool :=
  ranges.contains c.toNat

/-- Every `step`-th code point from `first` to `last`, each mapped the same distance:
`first` goes to `target`. -/
structure MapRun where
  first : Nat
  last : Nat
  step : Nat
  target : Nat

/-- The image of a code point under the run, if the run holds it. -/
def MapRun.image? (run : MapRun) (code : Nat) : Option Nat :=
  if run.first ≤ code && code ≤ run.last && (code - run.first) % run.step == 0 then
    some (run.target + (code - run.first))
  else none

/-- The image under the first run that holds the code point. -/
def MapRun.lookup (runs : List MapRun) (code : Nat) : Option Nat :=
  runs.findSome? (·.image? code)

end SchemaGuide.Text
