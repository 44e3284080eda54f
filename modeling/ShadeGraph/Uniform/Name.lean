/-!
# Names of uniforms

A uniform's name is an identifier that starts with a letter. `sanitize` turns any text into one, `unique`
keeps a name apart from those that are taken.
-/

namespace ShadeGraph.UniformName

/-- The name used when nothing else is left. -/
def fallback : String := "uniform"

/-- What a character contributes to a name: a space an underscore, a character that no name has nothing. -/
def nameChar? (c : Char) : Option Char :=
  if c = ' ' then some '_'
  else if c.isAlphanum || c = '_' then some c
  else none

/-- Drops what stands before the first letter and every character that no name has. -/
def sanitize (raw : String) : String :=
  match (raw.toList.dropWhile (!·.isAlpha)).filterMap nameChar? with
  | [] => fallback
  | name => String.ofList name

/-- A name without the digits at its end. -/
def stem (name : String) : String :=
  match (name.toList.reverse.dropWhile Char.isDigit).reverse with
  | [] => fallback
  | stem => String.ofList stem

/-- The first free name among `attempts` numbered ones from `number` on. -/
def numbered (stem : String) (taken : List String) : Nat → Nat → String
  | 0, number => stem ++ Nat.repr number
  | attempts + 1, number =>
    let candidate := stem ++ Nat.repr number
    if taken.contains candidate then numbered stem taken attempts (number + 1) else candidate

/-- The wanted name if it is free; else its stem with the least number from 2 on that makes it free. Among
one more number than there are taken names, one is free. -/
def unique (wanted : String) (taken : List String) : String :=
  if taken.contains wanted then numbered (stem wanted) taken taken.length 2 else wanted

end ShadeGraph.UniformName
