/-! Text between double quotes, in which a backslash begins an escape and no control character but the tab
may stand as itself. -/
namespace HeaderOutline.Text

def hexDigit? (c : Char) : Option Nat :=
  if c.isDigit then some (c.toNat - '0'.toNat)
  else if 'a' ≤ c ∧ c ≤ 'f' then some (c.toNat - 'a'.toNat + 10)
  else if 'A' ≤ c ∧ c ≤ 'F' then some (c.toNat - 'A'.toNat + 10)
  else none

def ofHexDigits? : Nat → List Char → Option Nat
  | value, [] => some value
  | value, c :: rest => do ofHexDigits? (16 * value + (← hexDigit? c)) rest

def numbered? (digits : Nat) (text : List Char) : Option (Char × List Char) := do
  if text.length < digits then none
  else
    let value ← ofHexDigits? 0 (text.take digits)
    if value.isValidChar then some (Char.ofNat value, text.drop digits) else none

def escape? : List Char → Option (Char × List Char)
  | '"' :: rest => some ('"', rest)
  | '\\' :: rest => some ('\\', rest)
  | 'b' :: rest => some ('\x08', rest)
  | 'f' :: rest => some ('\x0c', rest)
  | 'n' :: rest => some ('\n', rest)
  | 'r' :: rest => some ('\r', rest)
  | 't' :: rest => some ('\t', rest)
  | 'u' :: rest => numbered? 4 rest
  | 'U' :: rest => numbered? 8 rest
  | _ => none

def isControl (c : Char) : Bool := c ≠ '\t' && (c < ' ' || c = '\x7f')

def escapedUpTo : Nat → List Char → Option (List Char × List Char)
  | 0, _ => none
  | bound + 1, text => match text with
      | [] => none
      | '"' :: rest => some ([], rest)
      | '\\' :: rest => do
          let (c, rest) ← escape? rest
          let (content, rest) ← escapedUpTo bound rest
          some (c :: content, rest)
      | c :: rest =>
          if isControl c then none
          else do
            let (content, rest) ← escapedUpTo bound rest
            some (c :: content, rest)

def escapedContent? (text : List Char) : Option (List Char × List Char) := escapedUpTo text.length text

end HeaderOutline.Text
