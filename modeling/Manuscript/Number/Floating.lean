import Manuscript.Number.Double

/-! Floating point numbers with a sign, infinities included: reading, writing and rounding them. -/

namespace Manuscript

/-- A floating point number of 64 bits. -/
inductive Floating where
  /-- A finite number, by its sign and its size. -/
  | finite (isNegative : Bool) (size : Double)
  | infinite (isNegative : Bool)
  | notANumber
  deriving DecidableEq

namespace Floating

/-- The power of ten beyond which every number is infinite or zero. -/
def decimalRange : Nat := 400

/-- The number nearest to a decimal, which is digits times a power of ten. -/
def ofDecimal (isNegative : Bool) (digits : Nat) (exponent : Int) : Floating :=
  let count : Int := (toString digits).length
  -- Far out of range the answer is known, and powers of ten would be too large to work with.
  if digits = 0 ∨ exponent + count < -decimalRange then .finite isNegative .zero
  else if decimalRange < exponent + count then .infinite isNegative
  else
    let fraction := (Double.Decimal.mk digits exponent).toFraction
    match Double.ofFraction? fraction.1 fraction.2 with
    | some size => .finite isNegative size
    | none => .infinite isNegative

/-- The number that digits stand for. -/
def numberOf (digits : List Char) : Nat :=
  digits.foldl (fun acc c => acc * 10 + (c.toNat - '0'.toNat)) 0

/-- The exponent that a text stands for, behind its letter; digits are needed. -/
def exponent? (text : List Char) : Option Int :=
  let (down, digits) : Bool × List Char :=
    match text with
    | '-' :: rest => (true, rest)
    | '+' :: rest => (false, rest)
    | _ => (false, text)
  if digits ≠ [] ∧ digits.all Char.isDigit then
    some (if down then -(numberOf digits : Int) else numberOf digits)
  else none

/-- The number that a text without a sign stands for: a decimal, or the name of a special one. -/
def unsigned? (isNegative : Bool) (text : List Char) : Option Floating :=
  let folded := text.map Char.toLower
  if folded = "inf".toList ∨ folded = "infinity".toList then some (.infinite isNegative)
  else if folded = "nan".toList then some .notANumber
  else
    let whole := text.takeWhile Char.isDigit
    let behindWhole := text.dropWhile Char.isDigit
    let (part, behindPart) : List Char × List Char :=
      match behindWhole with
      | '.' :: rest => (rest.takeWhile Char.isDigit, rest.dropWhile Char.isDigit)
      | _ => ([], behindWhole)
    let power? : Option Int :=
      match behindPart with
      | [] => some 0
      | c :: rest => if c = 'e' ∨ c = 'E' then exponent? rest else none
    -- One digit is needed, on either side of the point.
    if whole = [] ∧ part = [] then none
    else
      power?.map fun power =>
        ofDecimal isNegative (numberOf (whole ++ part)) (power - part.length)

/-- The number that a text stands for. -/
def ofText? (text : List Char) : Option Floating :=
  match text with
  | '-' :: rest => unsigned? true rest
  | '+' :: rest => unsigned? false rest
  | _ => unsigned? false text

/-- A finite number without its sign, in as few digits as read back, and with no exponent. -/
def plainText (size : Double) : String :=
  let decimal := Double.Decimal.strip decimalRange size.shortest
  let digits := (toString decimal.digits).toList
  if 0 ≤ decimal.exponent then
    String.ofList (digits ++ List.replicate decimal.exponent.toNat '0')
  else
    -- One digit at least stands in front of the point.
    let places := (-decimal.exponent).toNat
    let padded := List.replicate (places + 1 - digits.length) '0' ++ digits
    let cut := padded.length - places
    String.ofList (padded.take cut ++ '.' :: padded.drop cut)

/-- A number as text. -/
def text : Floating → String
  | .finite isNegative size => (if isNegative then "-" else "") ++ plainText size
  | .infinite isNegative => if isNegative then "-inf" else "inf"
  | .notANumber => "NaN"

/-- A number is zero. -/
def isZero : Floating → Bool
  | .finite _ size => size.mantissa = 0
  | _ => false

/-- The natural number nearest to a finite one, away from zero when two are equally near. -/
def roundedSize (size : Double) : Nat :=
  let fraction := size.toFraction
  -- One half is added before the fraction is cut off.
  (2 * fraction.1 + fraction.2) / (2 * fraction.2)

/-- The natural number up to a bound that is nearest to a number. -/
def roundTo (bound : Nat) : Floating → Nat
  | .finite isNegative size => if isNegative then 0 else min (roundedSize size) bound
  | .infinite isNegative => if isNegative then 0 else bound
  | .notANumber => 0

end Floating

end Manuscript
