/-! Double-precision numbers as exact values: a whole significand times a power of two. A decimal is
read to the nearest of them, an exact half to the even significand. -/
namespace HeaderOutline.Decimal

inductive Binary64 where
  | finite (negative : Bool) (significand : Nat) (exponent : Int)
  | infinite (negative : Bool)
  | nan
  deriving DecidableEq, Repr

def leastExponent : Int := -1074

def greatestExponent : Int := 971

def precision : Nat := 53

def roundQuotient (numerator denominator : Nat) : Nat :=
  let below := numerator / denominator
  let twice := 2 * (numerator % denominator)
  if twice < denominator ∨ (twice = denominator ∧ below % 2 = 0) then below else below + 1

def inUnits (numerator denominator : Nat) (exponent : Int) : Nat × Nat :=
  match exponent with
  | .ofNat e => (numerator, denominator * Nat.pow 2 e)
  | .negSucc e => (numerator * Nat.pow 2 (e + 1), denominator)

def unitExponent (numerator denominator : Nat) : Int :=
  let guess : Int := (numerator.log2 : Int) - denominator.log2 - 52
  let scaled := inUnits numerator denominator guess
  let exact := if scaled.1 < scaled.2 * Nat.pow 2 (precision - 1) then guess - 1 else guess
  max exact leastExponent

def nearest (negative : Bool) (numerator denominator : Nat) : Binary64 :=
  if numerator = 0 then .finite negative 0 leastExponent
  else
    let exponent := unitExponent numerator denominator
    let scaled := inUnits numerator denominator exponent
    let rounded := roundQuotient scaled.1 scaled.2
    let (significand, exponent) :=
      if rounded = Nat.pow 2 precision then (Nat.pow 2 (precision - 1), exponent + 1) else (rounded, exponent)
    if greatestExponent < exponent then .infinite negative else .finite negative significand exponent

/-- The number `significand` times ten to the `exponent`. Powers far outside the range are not formed. -/
def ofDecimal (negative : Bool) (significand : Nat) (exponent : Int) : Binary64 :=
  let magnitude := exponent + (Nat.toDigits 10 significand).length
  if significand = 0 ∨ magnitude < -400 then .finite negative 0 leastExponent
  else if 400 < magnitude then .infinite negative
  else match exponent with
    | .ofNat e => nearest negative (significand * Nat.pow 10 e) 1
    | .negSucc e => nearest negative significand (Nat.pow 10 (e + 1))

end HeaderOutline.Decimal
