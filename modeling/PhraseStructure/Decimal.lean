/-!
# Numbers in decimal

A quotient is written with a fixed number of significant digits, after it was rounded to a binary
number of 53 digits. Rounding is to the nearest, and a tie goes to the even neighbour.
-/

namespace PhraseStructure.Decimal

/-- The sum of some numbers. -/
def total : List Nat → Nat
  | [] => 0
  | n :: ns => n + total ns

/-- The integer nearest to `num / den`; of two that are equally near, the even one. -/
def roundHalfEven (num den : Nat) : Nat :=
  let floor := num / den
  let rest := 2 * (num % den)
  if rest < den || (rest == den && floor % 2 == 0) then floor else floor + 1

/-- A fraction multiplied by a power of the base, the exponent of which may be negative. -/
def scale (base : Nat) (exponent : Int) (num den : Nat) : Nat × Nat :=
  if 0 ≤ exponent then (num * Nat.pow base exponent.toNat, den)
  else (num, den * Nat.pow base (-exponent).toNat)

/-- The binary exponent `e` for which `num / den` lies between `2 ^ 52 * 2 ^ e` and
`2 ^ 53 * 2 ^ e`. -/
def binaryExponent (num den : Nat) : Int :=
  let guess : Int := (Nat.log2 num : Int) - (Nat.log2 den : Int) - 52
  let (n, d) := scale 2 (-guess) num den
  if n < Nat.pow 2 52 * d then guess - 1 else guess

/-- The number of 53 binary digits nearest to `num / den`, as a fraction. -/
def nearestBinary (num den : Nat) : Nat × Nat :=
  let exponent := binaryExponent num den
  let (n, d) := scale 2 (-exponent) num den
  scale 2 exponent (roundHalfEven n d) 1

/-- The decimal exponent of the first digit of `num / den`, found from a bound by counting down. -/
def decimalExponentFrom (num den : Nat) : Nat → Int → Int
  | 0, exponent => exponent
  | steps + 1, exponent =>
      let (n, d) := scale 10 (-exponent) num den
      if d ≤ n then exponent else decimalExponentFrom num den steps (exponent - 1)

/-- The decimal exponent of the first digit of `num / den`. -/
def decimalExponent (num den : Nat) : Int :=
  let digits := (Nat.toDigits 10 num).length
  decimalExponentFrom num den (digits + (Nat.toDigits 10 den).length + 1) digits

/-- A number of given significant digits: the integer of the digits, and the decimal exponent of the
first one. Rounding up may lead to one digit more. -/
def significant (count num den : Nat) : Nat × Int :=
  let exponent := decimalExponent num den
  let (n, d) := scale 10 (count - 1 - exponent) num den
  let digits := roundHalfEven n d
  if digits = Nat.pow 10 count then (Nat.pow 10 (count - 1), exponent + 1) else (digits, exponent)

/-- The digits without the zeros at their end. -/
def dropZeros (digits : List Char) : List Char := (digits.reverse.dropWhile (· = '0')).reverse

/-- Digits with a point after the first `whole` of them; no point without digits behind it. -/
def withPoint (whole : Nat) (digits : List Char) : List Char :=
  let fraction := dropZeros (digits.drop whole)
  digits.take whole ++ (if fraction.isEmpty then [] else '.' :: fraction)

/-- A decimal exponent: its sign and at least two digits. -/
def exponentText (exponent : Int) : List Char :=
  let digits := Nat.toDigits 10 exponent.natAbs
  'e' :: (if exponent < 0 then '-' else '+') :: (List.replicate (2 - digits.length) '0' ++ digits)

/-- Writes `num / den` with `count` significant digits and no needless zeros. Numbers below
`1 / 10000`, and those with more than `count` digits before the point, get an exponent. -/
def general (count num den : Nat) : String :=
  if num = 0 then "0"
  else
    let (n, d) := nearestBinary num den
    let (digits, exponent) := significant count n d
    let digits := Nat.toDigits 10 digits
    String.ofList <|
      if exponent < -4 || (count : Int) ≤ exponent then
        withPoint 1 digits ++ exponentText exponent
      else if exponent < 0 then
        withPoint 1 (List.replicate (-exponent).toNat '0' ++ digits)
      else withPoint (exponent.toNat + 1) digits

end PhraseStructure.Decimal
