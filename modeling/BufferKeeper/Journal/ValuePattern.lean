import BufferKeeper.Pattern.Expression

/-!
# Patterns for values

A log directive may ask for the value of a field. The value is a number, or a regular expression.
`checkValuePattern` tells which texts are either; what an expression matches does not matter here,
because a directive about values concerns spans only.
-/

namespace BufferKeeper.Journal

open Text

/-! ## 1. Numbers -/

def isExponent : List Char → Bool
  | [] => true
  | c :: rest => (c = 'e' || c = 'E') && (ofSigned? rest).isSome

/-- Whether a text without a sign is a number: digits with at most one point among, before or
behind them and perhaps an exponent, or a word for infinity or for no number. -/
def isUnsignedNumber (s : List Char) : Bool :=
  let whole := s.takeWhile Char.isDigit
  let rest := s.drop whole.length
  let point := rest.head? = some '.'
  let fraction := if point then rest.tail.takeWhile Char.isDigit else []
  let rest := if point then rest.tail.drop fraction.length else rest
  ((whole ≠ [] ∨ fraction ≠ []) ∧ isExponent rest) ∨
    ["inf", "infinity", "nan"].contains (String.ofList (s.map Char.toLower))

/-! ## 2. Patterns -/

/-- Whether a text is a number or a regular expression. Of the numbers only those with a plus sign
are no expressions by themselves. -/
def checkValuePattern (s : List Char) : Except Pattern.Flaw Unit :=
  match s with
  | '+' :: number => if isUnsignedNumber number then .ok () else .error .malformed
  | _ => Pattern.check s

end BufferKeeper.Journal
