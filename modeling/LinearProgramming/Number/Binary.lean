/-!
# Binary floating-point numbers

A format lays a number out as a word: a sign bit, an exponent field and a
significand whose leading bit is implicit. `BinaryFormat.decode` reads a word as
the exact number it stands for, `BinaryFormat.nearest` finds the word whose number
is nearest to a quotient of naturals, halves going to the even word.
-/

namespace LinearProgramming

/-- The power of two with this exponent. -/
def twoTo (n : Nat) : Nat := Nat.pow 2 n

/-- A division rounded to the nearest natural number, halves to the even one. -/
def roundHalfEven (num den : Nat) : Nat :=
  let quotient := num / den
  let rest := num % den
  if 2 * rest < den then quotient
  else if den < 2 * rest then quotient + 1
  else quotient + quotient % 2

/-- What a word of a floating-point format stands for. -/
inductive Binary where
  | nan
  | infinite (negative : Bool)
  /-- The number `significand * 2 ^ exponent`, zero included, with a sign. -/
  | finite (negative : Bool) (significand : Nat) (exponent : Int)
  deriving DecidableEq, Repr

/-- Sizes of a floating-point format. -/
structure BinaryFormat where
  /-- Bits of the significand, the implicit one included. -/
  precision : Nat
  exponentBits : Nat
  deriving DecidableEq, Repr

namespace BinaryFormat

def binary64 : BinaryFormat := ⟨53, 11⟩
def binary32 : BinaryFormat := ⟨24, 8⟩

/-- Weight of the implicit leading bit, counted in the last place. -/
def leadingBit (f : BinaryFormat) : Nat := twoTo (f.precision - 1)

/-- Exponent of the last place of the smallest numbers. -/
def leastExponent (f : BinaryFormat) : Int :=
  3 - (twoTo (f.exponentBits - 1) : Int) - f.precision

/-- The word of positive infinity. Larger words without a sign are not numbers. -/
def infinityWord (f : BinaryFormat) : Nat := (twoTo f.exponentBits - 1) * f.leadingBit

/-- The word that holds the sign bit alone: negative zero. -/
def signWord (f : BinaryFormat) : Nat := twoTo f.exponentBits * f.leadingBit

/-- The number that a word stands for. -/
def decode (f : BinaryFormat) (word : Nat) : Binary :=
  let negative := decide (f.signWord ≤ word)
  let unsigned := word % f.signWord
  if f.infinityWord < unsigned then .nan
  else if unsigned = f.infinityWord then .infinite negative
  else
    let field := unsigned / f.leadingBit
    let fraction := unsigned % f.leadingBit
    if field = 0 then .finite negative fraction f.leastExponent
    else .finite negative (f.leadingBit + fraction) (f.leastExponent + (field - 1))

/-- Exponent of the last place of a positive quotient: small enough to keep all
places of the format, and never below the least one. -/
def placeOf (f : BinaryFormat) (num den : Nat) : Int :=
  let guess : Int := (num.log2 : Int) - den.log2
  let below : Bool := if 0 ≤ guess then num < den * twoTo guess.toNat
    else num * twoTo (-guess).toNat < den
  let log := if below then guess - 1 else guess
  max f.leastExponent (log - f.precision + 1)

/-- The unsigned word nearest to `num / den`, infinity if that is too large. A
significand that rounds up to the next power of two carries into the exponent field
by itself. -/
def nearest (f : BinaryFormat) (num den : Nat) : Nat :=
  if num = 0 then 0
  else
    let place := f.placeOf num den
    let significand := if 0 ≤ place then roundHalfEven num (den * twoTo place.toNat)
      else roundHalfEven (num * twoTo (-place).toNat) den
    min f.infinityWord (significand + (place - f.leastExponent).toNat * f.leadingBit)

end BinaryFormat

/-- Numbers that are stored in a floating-point format. -/
class Floating (F : Type) where
  format : BinaryFormat
  toWord : F → Nat
  ofWord : Nat → F

instance : Floating Float where
  format := .binary64
  toWord x := x.toBits.toNat
  ofWord word := Float.ofBits (UInt64.ofNat word)

instance : Floating Float32 where
  format := .binary32
  toWord x := x.toBits.toNat
  ofWord word := Float32.ofBits (UInt32.ofNat word)

namespace Floating

variable {F : Type} [Floating F]

/-- The exact number that is stored. -/
def toBinary (x : F) : Binary := (format F).decode (toWord x)

/-- Neither infinite nor a NaN. -/
def isFinite (x : F) : Bool :=
  match toBinary x with
  | .finite .. => true
  | _ => false

end Floating

end LinearProgramming
