import HeaderOutline.Decimal.Binary64

/-! A double written in full with the fewest digits that read back: positional at every size, without a
point when the value is whole. -/
namespace HeaderOutline.Decimal

structure Neighbourhood where
  low : Nat
  value : Nat
  high : Nat
  scale : Nat
  closed : Bool
  deriving DecidableEq, Repr

/-- Below a power of two the next double is half as far away as above it. -/
def neighbourhood (significand : Nat) (exponent : Int) : Neighbourhood :=
  let narrow := significand = Nat.pow 2 (precision - 1) ∧ leastExponent < exponent
  let low := if narrow then 4 * significand - 1 else 4 * significand - 2
  let high := 4 * significand + 2
  let even := significand % 2 = 0
  match exponent - 2 with
  | .ofNat e => ⟨low * Nat.pow 2 e, 4 * significand * Nat.pow 2 e, high * Nat.pow 2 e, 1, even⟩
  | .negSucc e => ⟨low, 4 * significand, high, Nat.pow 2 (e + 1), even⟩

def Neighbourhood.has (n : Neighbourhood) (numerator denominator : Nat) : Bool :=
  let point := numerator * n.scale
  if n.closed then n.low * denominator ≤ point && point ≤ n.high * denominator
  else n.low * denominator < point && point < n.high * denominator

def leadingPlace (value scale : Nat) : Int :=
  if scale ≤ value then (Nat.toDigits 10 (value / scale)).length
  else 1 - (Nat.toDigits 10 ((scale + value - 1) / value - 1)).length

def Neighbourhood.onGrid? (n : Neighbourhood) (place : Int) : Option Nat :=
  let (numerator, denominator, up, down) := match place with
    | .ofNat e => (n.value, n.scale * Nat.pow 10 e, Nat.pow 10 e, 1)
    | .negSucc e => (n.value * Nat.pow 10 (e + 1), n.scale, 1, Nat.pow 10 (e + 1))
  let below := numerator / denominator
  let twice := 2 * (numerator % denominator)
  let (first, second) := if twice < denominator then (below, below + 1) else (below + 1, below)
  if n.has (first * up) down then some first
  else if n.has (second * up) down then some second
  else none

/-- Digits and the place of the last one. Seventeen digits always read back. -/
def Neighbourhood.shortest (n : Neighbourhood) (place : Int) : Nat → Nat × Int
  | 0 => (n.value / n.scale, 0)
  | tries + 1 =>
      match n.onGrid? place with
      | some digits => (digits, place)
      | none => n.shortest (place - 1) tries

def withoutTrailingZeros (digits : List Char) : List Char :=
  (digits.reverse.dropWhile (· = '0')).reverse

def positional (digits : Nat) (place : Int) : List Char :=
  let text := Nat.toDigits 10 digits
  match place with
  | .ofNat e => text ++ List.replicate e '0'
  | .negSucc e =>
      let padded := List.replicate (e + 2 - text.length) '0' ++ text
      let whole := padded.take (padded.length - (e + 1))
      match withoutTrailingZeros (padded.drop (padded.length - (e + 1))) with
      | [] => whole
      | fraction => whole ++ '.' :: fraction

def Binary64.text : Binary64 → String
  | .nan => "NaN"
  | .infinite negative => (if negative then "-" else "") ++ "inf"
  | .finite negative significand exponent =>
      let magnitude :=
        if significand = 0 then ['0']
        else
          let n := neighbourhood significand exponent
          let (digits, place) := n.shortest (leadingPlace n.value n.scale - 1) 18
          positional digits place
      (if negative then "-" else "") ++ String.ofList magnitude

end HeaderOutline.Decimal
