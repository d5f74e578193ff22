/-!
# Heights of expressions

How deeply the parts of an expression contain each other. A character has height zero. A group, a
repetition, a class and a series of two or more parts are one higher than the highest part in them.
An expression may be at most `heightLimit` high.
-/

namespace BufferKeeper.Pattern

def heightLimit : Nat := 250

/-! ## 1. Series -/

/-- Parts one after another: how many there are, the height of the last, and that of the highest
before it. -/
structure Series where
  count : Nat
  highest : Nat
  last : Nat
  deriving DecidableEq

namespace Series

def empty : Series := ⟨0, 0, 0⟩

def characters (count : Nat) : Series := ⟨count, 0, 0⟩

def add (series : Series) (height : Nat) : Series :=
  ⟨series.count + 1, max series.highest series.last, height⟩

def repeatLast (series : Series) : Series :=
  { series with last := series.last + 1 }

def height (series : Series) : Nat :=
  if series.count ≤ 1 then series.last else max series.highest series.last + 1

end Series

/-! ## 2. Levels -/

/-- What stands directly in one pair of brackets: the series since the last bar or set operation,
and the height of what stands before that. -/
structure Level where
  earlier : Option Nat
  series : Series
  deriving DecidableEq

namespace Level

def ofSeries (series : Series) : Level := ⟨none, series⟩

def add (level : Level) (height : Nat) : Level :=
  { level with series := level.series.add height }

def repeatLast (level : Level) : Level :=
  { level with series := level.series.repeatLast }

def height (level : Level) : Nat :=
  match level.earlier with
  | none => level.series.height
  | some earlier => max earlier level.series.height + 1

/-- All alternatives stand next to each other. -/
def bar (level : Level) : Level :=
  ⟨some (max (level.earlier.getD 0) level.series.height), .empty⟩

/-- What stands before the operation is its left operand. -/
def operation (level : Level) : Level :=
  ⟨some level.height, .empty⟩

end Level

end BufferKeeper.Pattern
