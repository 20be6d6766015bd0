import LinearProgramming.Number.Binary

/-!
# Decimal texts of floating-point numbers

Three rules for going between a stored number and its decimal text. `Binary.fixed`
shows a fixed count of decimal places of the exact number, halves going to the even
digit. `Binary.shortest` shows the fewest digits that read back as the same number,
and of those the nearest. `Numeral.read?` reads a text, and `Numeral.round` gives the
stored number nearest to it.
-/

namespace LinearProgramming

/-- The power of ten with this exponent. -/
def tenTo (n : Nat) : Nat := Nat.pow 10 n

/-- The decimal digits of a natural number. -/
def digits (n : Nat) : List Char := Nat.toDigits 10 n

/-- The text of `count / 10 ^ places`, with all its places and at least one digit
before the point. -/
def positional (count places : Nat) : String :=
  if places = 0 then String.ofList (digits count)
  else
    let text := digits count
    let padded := List.replicate (places + 1 - text.length) '0' ++ text
    let whole := padded.length - places
    String.ofList (padded.take whole ++ '.' :: padded.drop whole)

/-- The sign that is written before a number. -/
def signText (negative : Bool) : String := if negative then "-" else ""

namespace Binary

/-- The exact number, without its sign, as a quotient of naturals. -/
def quotient (significand : Nat) (exponent : Int) : Nat × Nat :=
  if 0 ≤ exponent then (significand * twoTo exponent.toNat, 1)
  else (significand, twoTo (-exponent).toNat)

/-- A number with the given count of decimal places. A negative zero keeps its sign. -/
def fixed (places : Nat) : Binary → String
  | nan => "NaN"
  | infinite negative => signText negative ++ "inf"
  | finite negative significand exponent =>
    let (num, den) := quotient significand exponent
    signText negative ++ positional (roundHalfEven (num * tenTo places) den) places

/-- The numbers that round to one stored number: those between two ends over a common
denominator. The ends belong to it exactly if the significand is even. -/
structure Interval where
  low : Nat
  value : Nat
  high : Nat
  den : Nat
  closed : Bool

/-- The interval of a positive stored number. The gap below a power of two is half the
gap above it. -/
def interval (f : BinaryFormat) (significand : Nat) (exponent : Int) : Interval :=
  let below := if significand = f.leadingBit ∧ f.leastExponent < exponent then 1 else 2
  let (scale, den) := quotient 1 (exponent - 2)
  { low := (4 * significand - below) * scale
    value := 4 * significand * scale
    high := (4 * significand + 2) * scale
    den
    closed := significand % 2 = 0 }

/-- Whether `count * 10 ^ place` lies in an interval. -/
def Interval.contains (i : Interval) (count : Nat) (place : Int) : Bool :=
  let up := tenTo place.toNat
  let down := tenTo (-place).toNat
  let point := count * up * i.den
  if i.closed then i.low * down ≤ point && point ≤ i.high * down
  else i.low * down < point && point < i.high * down

/-- The multiple of `10 ^ place` in an interval that is nearest to its value, if there
is one. Of two at the same distance the larger is taken. -/
def Interval.onGrid? (i : Interval) (place : Int) : Option Nat :=
  let num := i.value * tenTo (-place).toNat
  let den := i.den * tenTo place.toNat
  let below := num / den
  let first := if num % den * 2 < den then below else below + 1
  let second := if num % den * 2 < den then below + 1 else below
  [first, second].find? fun count => i.contains count place

/-- The coarsest decimal grid that meets an interval, going down from a given place. -/
def Interval.coarsest (i : Interval) : Nat → Int → Nat × Int
  | 0, place => (i.value * tenTo (-place).toNat / (i.den * tenTo place.toNat), place)
  | fuel + 1, place =>
    match i.onGrid? place with
    | some count => (count, place)
    | none => i.coarsest fuel (place - 1)

/-- A number with the fewest digits that read back as the same number, never with an
exponent and without a point if it is whole. -/
def shortest (f : BinaryFormat) : Binary → String
  | nan => "NaN"
  | infinite negative => signText negative ++ "inf"
  | finite negative 0 _ => signText negative ++ "0"
  | finite negative significand exponent =>
    let i := interval f significand exponent
    let bits : Int := significand.log2 + exponent + 1
    let start : Int := bits * 30103 / 100000 + 2
    let (count, place) := i.coarsest (f.precision + 3) start
    signText negative ++
      positional (count * tenTo place.toNat) (-place).toNat

end Binary

/-- A number as it is written. -/
inductive Numeral where
  | nan
  | infinite (negative : Bool)
  /-- The number `count * 10 ^ exponent` with a sign. -/
  | decimal (negative : Bool) (count : Nat) (exponent : Int)
  deriving DecidableEq, Repr

/-- The value of a run of decimal digits. -/
def digitsValue (text : List Char) : Nat :=
  text.foldl (fun value c => 10 * value + (c.toNat - '0'.toNat)) 0

/-- The value of the digits of an exponent. Once it has reached `2 ^ 16` further digits do
not count, for it is larger than any exponent that matters to a text of common length. -/
def exponentValue (text : List Char) : Nat :=
  text.foldl
    (fun value c => if value < 0x10000 then 10 * value + (c.toNat - '0'.toNat) else value) 0

/-- Splits an optional sign off. -/
def splitSign : List Char → Bool × List Char
  | '-' :: rest => (true, rest)
  | '+' :: rest => (false, rest)
  | text => (false, text)

namespace Numeral

/-- The exponent at the end of a number: nothing, or a mark, an optional sign and digits. -/
def readExponent? : List Char → Option Int
  | [] => some 0
  | mark :: rest =>
    let (negative, text) := splitSign rest
    if (mark = 'e' ∨ mark = 'E') ∧ text ≠ [] ∧ text.all Char.isDigit then
      some (if negative then -(exponentValue text : Int) else exponentValue text)
    else none

/-- An unsigned number: digits with an optional point among them, and an exponent. -/
def readDecimal? (negative : Bool) (text : List Char) : Option Numeral :=
  let whole := text.takeWhile Char.isDigit
  let afterWhole := text.dropWhile Char.isDigit
  let (fraction, rest) := match afterWhole with
    | '.' :: more => (more.takeWhile Char.isDigit, more.dropWhile Char.isDigit)
    | _ => ([], afterWhole)
  if whole = [] ∧ fraction = [] then none
  else (readExponent? rest).map fun exponent =>
    .decimal negative (digitsValue (whole ++ fraction)) (exponent - fraction.length)

/-- A number: an optional sign, then digits, or a word for infinity or for a NaN in
upper or lower case. -/
def read? (text : List Char) : Option Numeral :=
  let (negative, unsigned) := splitSign text
  match String.ofList (unsigned.map Char.toLower) with
  | "nan" => some .nan
  | "inf" => some (.infinite negative)
  | "infinity" => some (.infinite negative)
  | _ => readDecimal? negative unsigned

/-- The unsigned word nearest to `count * 10 ^ exponent`. The first tests keep powers of
ten from growing without need: beyond them the number is too large or too small for
the format. -/
def roundDecimal (f : BinaryFormat) (count : Nat) (exponent : Int) : Nat :=
  let limit : Int := twoTo f.exponentBits
  let magnitude : Int := (digits count).length + exponent
  if count = 0 ∨ magnitude < -limit then 0
  else if limit < magnitude then f.infinityWord
  else f.nearest (count * tenTo exponent.toNat) (tenTo (-exponent).toNat)

/-- The word of a format that is nearest to a number as it is written. -/
def round (f : BinaryFormat) : Numeral → Nat
  | nan => f.infinityWord + 1
  | infinite negative => f.infinityWord + (if negative then f.signWord else 0)
  | decimal negative count exponent =>
    roundDecimal f count exponent + (if negative then f.signWord else 0)

end Numeral

namespace Floating

variable {F : Type} [Floating F]

/-- Reads a decimal text, correctly rounded. -/
def read? (text : List Char) : Option F :=
  (Numeral.read? text).map fun numeral => ofWord (numeral.round (format F))

/-- The exact number with a fixed count of decimal places. -/
def fixed (places : Nat) (x : F) : String := (toBinary x).fixed places

/-- The fewest digits that read back as the same number. -/
def shortest (x : F) : String := (toBinary x).shortest (format F)

end Floating

end LinearProgramming
