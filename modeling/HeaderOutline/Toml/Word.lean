import HeaderOutline.Decimal.Numeral
import HeaderOutline.Settings.Setting
import HeaderOutline.Text.Escaped
import HeaderOutline.Toml.Moment

/-! Values that are written as one word: truth values, numbers, dates and times. An underline may stand
between two digits; a number has no zero in front of its first digit. -/
namespace HeaderOutline.Toml

def groupedDigits? (isDigit : Char → Bool) (text : List Char) : Option (List Char) :=
  let groups := text.splitOn '_'
  if groups.all fun group => group ≠ [] ∧ group.all isDigit then some groups.flatten else none

def wholeDigits? (text : List Char) : Option (List Char) := do
  let digits ← groupedDigits? Char.isDigit text
  if digits.head? = some '0' ∧ digits ≠ ['0'] then none else some digits

def decimalInteger? (word : List Char) : Option Int := do
  let (negative, magnitude) := Decimal.splitSign word
  let digits ← wholeDigits? magnitude
  Decimal.signed? (if negative then '-' :: digits else digits)

def ofBase? (base : Nat) (text : List Char) : Option Int := do
  let isDigit := fun c => match Text.hexDigit? c with
    | some value => decide (value < base)
    | none => false
  let digits ← groupedDigits? isDigit text
  let value := digits.foldl (fun n c => base * n + (Text.hexDigit? c).getD 0) 0
  if value < Nat.pow 2 63 then some value else none

def integer? : List Char → Option Int
  | '0' :: 'x' :: rest => ofBase? 16 rest
  | '0' :: 'o' :: rest => ofBase? 8 rest
  | '0' :: 'b' :: rest => ofBase? 2 rest
  | word => decimalInteger? word

def splitAt (isMark : Char → Bool) (text : List Char) : List Char × Option (List Char) :=
  match text.dropWhile fun c => ¬isMark c with
  | [] => (text, none)
  | _ :: rest => (text.takeWhile fun c => ¬isMark c, some rest)

def exponent? (text : List Char) : Option Int := do
  let (negative, magnitude) := Decimal.splitSign text
  let digits ← groupedDigits? Char.isDigit magnitude
  some (if negative then -Decimal.ofDigits digits else Decimal.ofDigits digits)

/-- A number with a fraction, an exponent or both. One too large is refused, one too far below zero is not. -/
def decimalFloat? (word : List Char) : Option Decimal.Binary64 := do
  let (negative, magnitude) := Decimal.splitSign word
  let (mantissa, exponentText) := splitAt (fun c => c = 'e' ∨ c = 'E') magnitude
  let (wholeText, fractionText) := splitAt (· = '.') mantissa
  if fractionText.isNone ∧ exponentText.isNone then none
  else
    let whole ← wholeDigits? wholeText
    let fraction ← match fractionText with
      | none => some []
      | some text => groupedDigits? Char.isDigit text
    let exponent ← match exponentText with
      | none => some 0
      | some text => exponent? text
    let value := Decimal.ofDecimal negative (Decimal.ofDigits (whole ++ fraction)) (exponent - fraction.length)
    if value = .infinite false then none else some value

def float? (word : List Char) : Option Decimal.Binary64 :=
  let (negative, magnitude) := Decimal.splitSign word
  if magnitude = "inf".toList then some (.infinite negative)
  else if magnitude = "nan".toList then some .nan
  else decimalFloat? word

def momentKey : String := "$__toml_private_datetime"

def ofWord? (word : List Char) : Option Setting :=
  if word = "true".toList then some (.scalar (.bool true))
  else if word = "false".toList then some (.scalar (.bool false))
  else match moment? word with
    | some moment => some (.table [(momentKey, .text moment.text)])
    | none => match float? word with
        | some value => some (.scalar (.float value))
        | none => (integer? word).map fun value => .scalar (.signed value)

end HeaderOutline.Toml
