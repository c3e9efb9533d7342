import HeaderOutline.Decimal.Binary64

/-! Numerals: ASCII digits with a sign, a fraction and an exponent, read in full or not at all. -/
namespace HeaderOutline.Decimal

def digitValue (c : Char) : Nat := c.toNat - '0'.toNat

def ofDigits (digits : List Char) : Nat := digits.foldl (fun n c => 10 * n + digitValue c) 0

def splitSign : List Char → Bool × List Char
  | '-' :: rest => (true, rest)
  | '+' :: rest => (false, rest)
  | text => (false, text)

def natural? (text : List Char) : Option Nat :=
  if text ≠ [] ∧ text.all Char.isDigit then some (ofDigits text) else none

def unsigned? (text : List Char) : Option Nat := do
  let n ← natural? (match text with
    | '+' :: rest => rest
    | _ => text)
  if n < Nat.pow 2 64 then some n else none

def signed? (text : List Char) : Option Int := do
  let (negative, digits) := splitSign text
  let n ← natural? digits
  let value : Int := if negative then -n else n
  let bound : Int := Nat.pow 2 63
  if -bound ≤ value ∧ value < bound then some value else none

def splitExponent? (text : List Char) : Option (List Char × Int) :=
  let isMark := fun c : Char => c = 'e' ∨ c = 'E'
  match text.dropWhile fun c => ¬isMark c with
  | [] => some (text, 0)
  | _ :: rest => do
      let (negative, digits) := splitSign rest
      let n ← natural? digits
      some (text.takeWhile fun c => ¬isMark c, if negative then -n else n)

def float? (text : List Char) : Option Binary64 := do
  let (negative, magnitude) := splitSign text
  let (mantissa, exponent) ← splitExponent? magnitude
  let whole := mantissa.takeWhile (· ≠ '.')
  let fraction := (mantissa.dropWhile (· ≠ '.')).drop 1
  let significand ← natural? (whole ++ fraction)
  some (ofDecimal negative significand (exponent - fraction.length))

end HeaderOutline.Decimal
