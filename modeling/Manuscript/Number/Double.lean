/-! Floating point numbers of 64 bits without a sign, in exact natural arithmetic. -/

namespace Manuscript

/--
A finite floating point number of 64 bits that is not negative: its value is the mantissa times the
power of two. The mantissa has 53 bits, or fewer at the least exponent.
-/
structure Double where
  /-- The significant bits. -/
  mantissa : Nat
  /-- The power of two that the last of them counts. -/
  exponent : Int
  deriving DecidableEq

namespace Double

/-- The power of two of the last bit of the smallest numbers. -/
def leastExponent : Int := -1074

/-- The power of two of the last bit of the largest numbers. -/
def greatestExponent : Int := 971

/-- Zero. -/
def zero : Double := ⟨0, leastExponent⟩

/-- The quotient that is nearest to a fraction, the even one of two that are equally near. -/
def nearestQuotient (num den : Nat) : Nat :=
  let quotient := num / den
  let doubled := 2 * (num % den)
  -- The remainder is compared with half of the divisor.
  if doubled < den ∨ (doubled = den ∧ quotient % 2 = 0) then quotient else quotient + 1

/-- A fraction in units of a power of two. -/
def scale (num den : Nat) (power : Int) : Nat × Nat :=
  if 0 ≤ power then (num, den * Nat.pow 2 power.toNat) else (num * Nat.pow 2 (-power).toNat, den)

/-- The power of two at or below a positive fraction. -/
def binaryOrder (num den : Nat) : Int :=
  let guess : Int := Nat.log2 num - Nat.log2 den
  -- The fraction lies between half of this power and twice of it.
  let scaled := scale num den guess
  if scaled.2 ≤ scaled.1 then guess else guess - 1

/-- The number that is nearest to a fraction, nothing when it is too large. -/
def ofFraction? (num den : Nat) : Option Double :=
  if num = 0 then some zero
  else
    -- 53 bits are kept, or as many as there are above the last bit of the smallest number.
    let power := max (binaryOrder num den - 52) leastExponent
    let scaled := scale num den power
    let mantissa := nearestQuotient scaled.1 scaled.2
    let rounded : Double :=
      -- Rounding up may take one bit more.
      if mantissa = 0x20000000000000 then ⟨0x10000000000000, power + 1⟩ else ⟨mantissa, power⟩
    if rounded.exponent ≤ greatestExponent then some rounded else none

/-- A number as a fraction. -/
def toFraction (x : Double) : Nat × Nat :=
  if 0 ≤ x.exponent then (x.mantissa * Nat.pow 2 x.exponent.toNat, 1)
  else (x.mantissa, Nat.pow 2 (-x.exponent).toNat)

/-- The integer part. -/
def floor (x : Double) : Nat :=
  let fraction := x.toFraction
  fraction.1 / fraction.2

/-- The largest number. -/
def greatest : Double := ⟨0x1fffffffffffff, greatestExponent⟩

/-- The number nearest to a natural number; numbers without one become the largest. -/
def ofNat (n : Nat) : Double := (ofFraction? n 1).getD greatest

/-- The number nearest to a power of ten. -/
def powerOfTen (k : Nat) : Double := ofNat (Nat.pow 10 k)

/-- The product, rounded; nothing when it is too large. -/
def mul? (x y : Double) : Option Double :=
  let a := x.toFraction
  let b := y.toFraction
  ofFraction? (a.1 * b.1) (a.2 * b.2)

/-- The quotient, rounded; nothing when it is too large or the divisor is zero. -/
def div? (x y : Double) : Option Double :=
  let a := x.toFraction
  let b := y.toFraction
  if b.1 = 0 then none else ofFraction? (a.1 * b.2) (a.2 * b.1)

/-- The digits and the power of ten of the shortest decimal that rounds to a positive number. -/
structure Decimal where
  /-- The digits as a number. -/
  digits : Nat
  /-- The power of ten that the last digit counts. -/
  exponent : Int
  deriving DecidableEq

/-- A decimal as a fraction. -/
def Decimal.toFraction (d : Decimal) : Nat × Nat :=
  if 0 ≤ d.exponent then (d.digits * Nat.pow 10 d.exponent.toNat, 1)
  else (d.digits, Nat.pow 10 (-d.exponent).toNat)

/-- A decimal reads as a number. -/
def Decimal.readsAs (d : Decimal) (x : Double) : Bool :=
  let fraction := d.toFraction
  ofFraction? fraction.1 fraction.2 = some x

/-- A fraction in units of a power of ten. -/
def scaleTen (num den : Nat) (power : Int) : Nat × Nat :=
  if 0 ≤ power then (num, den * Nat.pow 10 power.toNat) else (num * Nat.pow 10 (-power).toNat, den)

/-- The decimals on the grid of a power of ten next to a number, the nearer one first. -/
def neighbours (x : Double) (power : Int) : List Decimal :=
  let fraction := x.toFraction
  let scaled := scaleTen fraction.1 fraction.2 power
  let below := scaled.1 / scaled.2
  let doubled := 2 * (scaled.1 % scaled.2)
  -- Of two that are equally near the even one comes first.
  if doubled < scaled.2 ∨ (doubled = scaled.2 ∧ below % 2 = 0) then
    [⟨below, power⟩, ⟨below + 1, power⟩]
  else [⟨below + 1, power⟩, ⟨below, power⟩]

/-- The first decimal that reads back, on ever finer grids. -/
def shortestFrom (x : Double) : Nat → Int → Decimal
  -- Seventeen digits are always enough, so that this end is not reached.
  | 0, power => ⟨(neighbours x power).head?.elim 0 (·.digits), power⟩
  | steps + 1, power =>
    -- If any decimal of this grid reads back, one of the two next to the number does.
    match (neighbours x power).find? (·.readsAs x) with
    | some d => d
    | none => shortestFrom x steps (power - 1)

/-- The decimal order of a positive number, at most one too large. -/
def decimalOrder (x : Double) : Int :=
  let fraction := x.toFraction
  if fraction.2 ≤ fraction.1 then ((toString (fraction.1 / fraction.2)).length : Int)
  else 1 - ((toString (fraction.2 / fraction.1)).length : Int) + 1

/-- The shortest decimal that reads as a number. -/
def shortest (x : Double) : Decimal :=
  if x.mantissa = 0 then ⟨0, 0⟩ else shortestFrom x 20 (decimalOrder x)

/-- A decimal without zeros at its end. -/
def Decimal.strip : Nat → Decimal → Decimal
  | 0, d => d
  | steps + 1, d =>
    if d.digits ≠ 0 ∧ d.digits % 10 = 0 then strip steps ⟨d.digits / 10, d.exponent + 1⟩ else d

/--
A number as text: with a point when it lies between a hundred thousandth and ten to the sixteenth,
else in scientific form; a whole number keeps one zero behind the point.
-/
def text (x : Double) : String :=
  let d := Decimal.strip 400 x.shortest
  let digits := toString d.digits
  let count := digits.length
  let point : Int := count + d.exponent
  if d.digits = 0 then "0.0"
  -- Zeros fill the places up to the point.
  else if 0 ≤ d.exponent ∧ point ≤ 16 then
    digits ++ String.ofList (List.replicate d.exponent.toNat '0') ++ ".0"
  else if 0 < point ∧ point ≤ 16 then
    String.ofList (digits.toList.take point.toNat) ++ "." ++
      String.ofList (digits.toList.drop point.toNat)
  -- Zeros fill the places behind the point.
  else if -5 < point ∧ point ≤ 0 then
    "0." ++ String.ofList (List.replicate (-point).toNat '0') ++ digits
  else
    -- One digit stands in front of the point.
    let lead := String.ofList (digits.toList.take 1)
    let rest := String.ofList (digits.toList.drop 1)
    lead ++ (if rest.isEmpty then "" else "." ++ rest) ++ "e" ++
      (if 0 < point then "+" else "") ++ toString (point - 1)

end Double

end Manuscript
