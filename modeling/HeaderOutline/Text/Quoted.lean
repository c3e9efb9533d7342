import HeaderOutline.Text.Unprintable

/-! Text quoted for a message: between two marks, with the marks, backslashes and the common controls
escaped and every character that does not show by itself written as its number in hexadecimal. -/
namespace HeaderOutline.Text

def hexDigits (n : Nat) : List Char := Nat.toDigits 16 n

def escaped (mark c : Char) : List Char :=
  if c = mark ∨ c = '\\' then ['\\', c]
  else if c = '\x00' then ['\\', '0']
  else if c = '\t' then ['\\', 't']
  else if c = '\n' then ['\\', 'n']
  else if c = '\r' then ['\\', 'r']
  else if isUnprintable c then ['\\', 'u', '{'] ++ hexDigits c.toNat ++ ['}']
  else [c]

def quotedBy (mark : Char) (s : List Char) : String :=
  String.ofList (mark :: s.flatMap (escaped mark) ++ [mark])

def quoted (s : String) : String := quotedBy '"' s.toList

def quotedChar (c : Char) : String := quotedBy '\'' [c]

end HeaderOutline.Text
