import PhraseStructure.Decimal

/-!
# Numbers with a point

A number with a point is held as the nearest number of 53 binary digits. All of these are multiples
of one unit, `1 / 2 ^ 1074`, so they are compared and added as whole numbers of units. In text a
number has as few digits as are needed to read it back.
-/

namespace PhraseStructure

/-- A number with a point. -/
inductive Binary64
  /-- A sign and a magnitude in units; zero has a sign as well. -/
  | finite (negative : Bool) (units : Nat)
  /-- What is too large is infinite. -/
  | infinite (negative : Bool)
  /-- What is no number. -/
  | undefined
  deriving DecidableEq, Repr

namespace Binary64

/-- The units in the number one. -/
def unitsOfOne : Nat := Nat.pow 2 1074

/-- The least magnitude, in units, that is too large. -/
def unitsOfInfinity : Nat := Nat.pow 2 1024 * unitsOfOne

/-- The magnitude of 53 binary digits that is nearest to `num / den` units. -/
def roundUnits (num den : Nat) : Nat :=
  let spacing := Nat.pow 2 (Nat.log2 (num / den) - 52)
  Decimal.roundHalfEven num (den * spacing) * spacing

/-- A number of a given magnitude, unless that is too large. -/
def ofUnits (negative : Bool) (units : Nat) : Binary64 :=
  if unitsOfInfinity ≤ units then infinite negative else finite negative units

/-- The number nearest to `mantissa * 10 ^ exponent`. What is far out of range is not worked out. -/
def ofScientific (negative : Bool) (mantissa : Nat) (exponent : Int) : Binary64 :=
  let size := (Nat.toDigits 10 mantissa).length + exponent
  if mantissa = 0 ∨ size < -330 then finite negative 0
  else if 310 < size then infinite negative
  else
    let (num, den) := Decimal.scale 10 exponent mantissa 1
    ofUnits negative (roundUnits (num * unitsOfOne) den)

/-- The value of decimal digits. -/
def digitsValue (digits : List Char) : Nat :=
  digits.foldl (fun n d => n * 10 + (d.toNat - '0'.toNat)) 0

/-- The exponent that is written behind a letter; none is zero. -/
def readExponent : List Char → Int
  | [] => 0
  | '-' :: digits => -digitsValue digits
  | '+' :: digits => digitsValue digits
  | digits => digitsValue digits

/-- The number that a magnitude in decimal stands for: digits with a point, and an exponent behind a
letter. -/
def readMagnitude (negative : Bool) (cs : List Char) : Binary64 :=
  let number := cs.takeWhile fun c => c ≠ 'e' ∧ c ≠ 'E'
  let whole := number.takeWhile (· ≠ '.')
  let fraction := (number.drop whole.length).drop 1
  let exponent := readExponent ((cs.drop number.length).drop 1)
  ofScientific negative (digitsValue (whole ++ fraction)) (exponent - fraction.length)

/-- The number that a literal stands for. -/
def ofLiteral (s : String) : Binary64 :=
  match s with
  | "NaN" => undefined
  | "Infinity" => infinite false
  | "-Infinity" => infinite true
  | _ =>
      match s.toList with
      | '-' :: cs => readMagnitude true cs
      | cs => readMagnitude false cs

/-- The units with their sign. -/
def signed (negative : Bool) (units : Nat) : Int := if negative then -units else units

/-- Zero, whatever its sign. -/
def isZero : Binary64 → Bool
  | finite _ units => units == 0
  | _ => false

/-- The sum with a whole number. -/
def addWhole (x : Binary64) (n : Int) : Binary64 :=
  match x with
  | finite negative units =>
      let sum := signed negative units + n * unitsOfOne
      ofUnits (sum < 0) (roundUnits sum.natAbs 1)
  | _ => x

/-- The sum of two numbers. Two zeros make a zero with a sign only if both have it, and two infinite
numbers that differ make no number. -/
def add (x y : Binary64) : Binary64 :=
  match x, y with
  | finite s m, finite t n =>
      let sum := signed s m + signed t n
      ofUnits (sum < 0 || (sum == 0 && s && t)) (roundUnits sum.natAbs 1)
  | infinite s, infinite t => if s = t then infinite s else undefined
  | infinite s, finite _ _ | finite _ _, infinite s => infinite s
  | undefined, _ | _, undefined => undefined

/-- The number with the other sign. -/
def neg : Binary64 → Binary64
  | finite negative units => finite (!negative) units
  | infinite negative => infinite (!negative)
  | undefined => undefined

/-- The number nearest to a whole number, unless that is too large. -/
def ofInt? (n : Int) : Option Binary64 :=
  match ofUnits (n < 0) (roundUnits (n.natAbs * unitsOfOne) 1) with
  | finite negative units => some (finite negative units)
  | _ => none

/-- The whole number without the digits after the point. -/
def truncate? : Binary64 → Option Int
  | finite negative units => some (signed negative (units / unitsOfOne))
  | _ => none

/-- The least whole number that is not below. -/
def ceiling? : Binary64 → Option Int
  | finite negative units => some (-(-signed negative units).fdiv unitsOfOne)
  | _ => none

/-! ## Decimal text -/

/-- Whether `digits`, the first of which has a decimal exponent and `count` of which are written,
are read as a given magnitude. -/
def readsAs (units count digits : Nat) (exponent : Int) : Bool :=
  let (num, den) := Decimal.scale 10 (exponent + 1 - count) digits 1
  roundUnits (num * unitsOfOne) den == units

/-- The number of `count` digits nearest to a magnitude, among its two neighbours, that is read as
this magnitude. -/
def digitsOf? (units : Nat) (exponent : Int) (count : Nat) : Option Nat :=
  let (num, den) := Decimal.scale 10 (count - 1 - exponent) units unitsOfOne
  let below := num / den
  let nearest := Decimal.roundHalfEven num den
  let other := if nearest = below then below + 1 else below
  if readsAs units count nearest exponent then some nearest
  else if readsAs units count other exponent then some other
  else none

/-- The fewest digits that are read as a magnitude, and the decimal exponent of the first one.
Seventeen are always enough. Rounding up may lead to one digit more. -/
def shortest (units : Nat) : List Char × Int :=
  let exponent := Decimal.decimalExponent units unitsOfOne
  let found := (List.range 17).findSome? fun fewer =>
    (digitsOf? units exponent (fewer + 1)).map fun digits => (fewer + 1, digits)
  let (count, digits) := found.getD (1, 0)
  let written := Nat.toDigits 10 digits
  (Decimal.dropZeros written, exponent + written.length - count)

/-- Digits with a point, at least one digit on each side of it. -/
def positional (digits : List Char) (exponent : Int) : List Char :=
  if exponent < 0 then '0' :: '.' :: (List.replicate (-exponent - 1).toNat '0' ++ digits)
  else
    let whole := exponent.toNat + 1
    let fraction := digits.drop whole
    digits.take whole ++ List.replicate (whole - digits.length) '0' ++ '.' ::
      (if fraction.isEmpty then ['0'] else fraction)

/-- A magnitude in text. Numbers below `1 / 10000`, and those with more than sixteen digits before
the point, get an exponent. -/
def magnitudeText (units : Nat) : List Char :=
  if units = 0 then ['0', '.', '0']
  else
    let (digits, exponent) := shortest units
    if exponent < -4 ∨ 16 ≤ exponent then
      Decimal.withPoint 1 digits ++ Decimal.exponentText exponent
    else positional digits exponent

/-- The number in text. -/
def text : Binary64 → String
  | finite negative units =>
      String.ofList ((if negative then ['-'] else []) ++ magnitudeText units)
  | infinite false => "inf"
  | infinite true => "-inf"
  | undefined => "nan"

end Binary64

/-- A number: a whole one, or one with a point. -/
inductive Number
  | whole (n : Int)
  | binary (x : Binary64)
  deriving DecidableEq, Repr

namespace Number

/-- Where a number lies: before, among or behind the finite numbers, and there at how many units. -/
def rank? : Number → Option (Int × Int)
  | whole n => some (0, n * Binary64.unitsOfOne)
  | binary (.finite negative units) => some (0, Binary64.signed negative units)
  | binary (.infinite negative) => some (if negative then -1 else 1, 0)
  | binary .undefined => none

/-- Whether two numbers are worth the same. -/
def same (a b : Number) : Bool := a.rank?.isSome && a.rank? == b.rank?

/-- Whether a number is worth less than another one. -/
def less (a b : Number) : Bool :=
  match a.rank?, b.rank? with
  | some (i, m), some (j, n) => i < j || (i == j && m < n)
  | _, _ => false

/-- The sum with a whole number. -/
def addWhole (a : Number) (n : Int) : Number :=
  match a with
  | whole m => whole (m + n)
  | binary x => binary (x.addWhole n)

/-- The number as one with a point, unless it is too large. -/
def toBinary? : Number → Option Binary64
  | whole n => Binary64.ofInt? n
  | binary x => some x

/-- The sum of two numbers. It has a point if one of them has, which the other one may be too large
for. -/
def add? (a b : Number) : Option Number :=
  match a, b with
  | whole m, whole n => some (whole (m + n))
  | _, _ => do return binary ((← a.toBinary?).add (← b.toBinary?))

/-- The number with the other sign. -/
def neg : Number → Number
  | whole n => whole (-n)
  | binary x => binary x.neg

/-- The least whole number that is not below. -/
def ceiling? : Number → Option Int
  | whole n => some n
  | binary x => x.ceiling?

end Number

end PhraseStructure
