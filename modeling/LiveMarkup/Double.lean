/-!
The range of numbers with fifty-three significant bits.
-/

namespace LiveMarkup.Double

/-- The nearest number with fifty-three significant bits, ties to even. -/
def round (n : Nat) : Nat :=
  if n < Nat.pow 2 53 then n
  else
    let unit := Nat.pow 2 (Nat.log2 n - 52)
    let quotient := n / unit
    let rest := n % unit
    if 2 * rest > unit || (2 * rest == unit && quotient % 2 == 1) then (quotient + 1) * unit
    else quotient * unit

/-- The first number that is rounded to infinity. -/
def overflow : Nat :=
  Nat.pow 2 1024 - Nat.pow 2 970

end LiveMarkup.Double
