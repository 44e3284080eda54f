import ShadeGraph.Text.Numeral

/-!
# Single precision numbers

A number is held as the three fields of its 32-bit format, so two numbers are equal exactly when their
bits are. `Single.units` measures a finite magnitude in steps of `2 ^ -149`, the smallest positive number.
-/

namespace ShadeGraph

structure Single where
  negative : Bool
  exponent : Fin 256
  fraction : Fin 8388608
  deriving DecidableEq, Repr

namespace Single

/-- The number whose exponent and fraction fields together read `bits`. -/
def ofMagnitude (negative : Bool) (bits : Nat) : Single :=
  ⟨negative, Fin.ofNat 256 (bits / 2 ^ (23 : Nat)), Fin.ofNat 8388608 bits⟩

def ofBits (bits : Nat) : Single :=
  ofMagnitude (bits / 2 ^ (31 : Nat) % 2 = 1) (bits % 2 ^ (31 : Nat))

/-- The exponent and fraction fields read as one number: the order of the magnitudes. -/
def magnitude (x : Single) : Nat := x.exponent.val * 2 ^ (23 : Nat) + x.fraction.val

/-- The fields of an infinite number; greater ones belong to no number. -/
def infinityMagnitude : Nat := 255 * 2 ^ (23 : Nat)

def zero : Single := ⟨false, 0, 0⟩

def half : Single := ⟨false, 126, 0⟩

def one : Single := ⟨false, 127, 0⟩

def nan : Single := ⟨false, 255, 4194304⟩

def infinity (negative : Bool) : Single := ⟨negative, 255, 0⟩

instance : Inhabited Single := ⟨zero⟩

def isFinite (x : Single) : Bool := x.exponent.val < 255

def isNaN (x : Single) : Bool := x.exponent.val = 255 && x.fraction.val ≠ 0

def isZero (x : Single) : Bool := x.exponent.val = 0 && x.fraction.val = 0

/-- The magnitude of a finite number, in steps of `2 ^ -149`. -/
def units (x : Single) : Nat :=
  if x.exponent.val = 0 then x.fraction.val
  else (2 ^ (23 : Nat) + x.fraction.val) * 2 ^ (x.exponent.val - 1)

/-- Equality of the numbers meant: the zeros are equal, and no number equals one that is not a number. -/
def agrees (x y : Single) : Bool :=
  !x.isNaN && !y.isNaN && (x = y || x.isZero && y.isZero)

end Single

end ShadeGraph
