/-! White space as the Unicode property White_Space has it: 25 characters, no more.
A text is blank when nothing is left after trimming it. -/
namespace HeaderOutline.Text

def whiteSpaceRanges : List (Nat × Nat) :=
  [(0x09, 0x0D), (0x20, 0x20), (0x85, 0x85), (0xA0, 0xA0), (0x1680, 0x1680), (0x2000, 0x200A),
   (0x2028, 0x2029), (0x202F, 0x202F), (0x205F, 0x205F), (0x3000, 0x3000)]

def isWhiteSpace (c : Char) : Bool :=
  whiteSpaceRanges.any fun range => range.1 ≤ c.toNat && c.toNat ≤ range.2

def trimStart (s : List Char) : List Char := s.dropWhile isWhiteSpace

def trimEnd (s : List Char) : List Char := (s.reverse.dropWhile isWhiteSpace).reverse

def trim (s : List Char) : List Char := trimEnd (trimStart s)

def IsBlank (s : String) : Prop := trim s.toList = []

instance (s : String) : Decidable (IsBlank s) := inferInstanceAs (Decidable (trim s.toList = []))

end HeaderOutline.Text
