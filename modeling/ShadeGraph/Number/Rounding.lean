import ShadeGraph.Number.Single

/-! # Rounding quotients -/

namespace ShadeGraph

/-- The integer nearest to `num / den`; of two as near, the even one. -/
def roundHalfEven (num den : Nat) : Nat :=
  let below := num / den
  let twice := 2 * (num % den)
  if twice < den then below
  else if den < twice then below + 1
  else if below % 2 = 0 then below else below + 1

namespace Single

/-- The magnitude field of the number nearest to `num / den`.

With `step` the exponent of a last place, in steps of `2 ^ -149`, a significand `m` of 24 bits has the
field `step * 2 ^ 23 + m`; a significand rounded up to 25 bits carries into the exponent. -/
def nearestMagnitude (num den : Nat) : Nat :=
  let scaled := num * 2 ^ (149 : Nat)
  let step := (scaled / den).log2 - 23
  min (step * 2 ^ (23 : Nat) + roundHalfEven scaled (den * 2 ^ step)) infinityMagnitude

def nearest (negative : Bool) (num den : Nat) : Single :=
  ofMagnitude negative (nearestMagnitude num den)

end Single

end ShadeGraph
