import HeaderOutline.Decimal.Numeral
import HeaderOutline.Settings.Setting
import HeaderOutline.Text.Blank
import HeaderOutline.Text.Escaped

/-! The small notation for the value of a variable: truth values, numbers, quoted texts and characters,
lists and tables, and words for all else. A text that is no such value as a whole is taken as it stands. -/
namespace HeaderOutline.Literal

def isSpace (c : Char) : Bool := c ∈ [' ', '\t', '\n', '\x0c', '\r']

def skipSpace (text : List Char) : List Char := text.dropWhile isSpace

def isSeparator (c : Char) : Bool := c ∈ [',', '\x7b', '\x7d', '[', ']']

def isKeyCharacter (c : Char) : Bool := c.isAlphanum || c = '_' || c = '-'

def ofWord (word : List Char) : Scalar :=
  match (if '.' ∈ word then Decimal.float? word else none) with
  | some value => .float value
  | none => match Decimal.unsigned? word with
      | some value => .unsigned value
      | none => match Decimal.signed? word with
          | some value => .signed value
          | none => .text (String.ofList word)

def items {α : Type} (close : Char) (item : List Char → Option (α × List Char)) :
    Nat → List Char → Option (List α × List Char)
  | 0, _ => none
  | bound + 1, text =>
      if text.head? = some close then some ([], text.drop 1)
      else do
        let (value, rest) ← item text
        match rest with
        | [] => none
        | c :: rest =>
            if c = ',' then
              let (others, rest) ← items close item bound rest
              some (value :: others, rest)
            else if c = close then some ([value], rest)
            else none

def key? : List Char → Option (String × List Char)
  | '"' :: rest => (Text.escapedContent? rest).map fun (content, rest) => (String.ofList content, rest)
  | text =>
      if text.takeWhile isKeyCharacter = [] then none
      else some (String.ofList (text.takeWhile isKeyCharacter), text.dropWhile isKeyCharacter)

def pair {α : Type} (item : List Char → Option (α × List Char)) (text : List Char) :
    Option ((String × α) × List Char) := do
  let (key, rest) ← key? (skipSpace text)
  match skipSpace rest with
  | '=' :: rest =>
      let (value, rest) ← item (skipSpace rest)
      some ((key, value), skipSpace rest)
  | _ => none

def core (item : List Char → Option (Setting × List Char)) : List Char → Option (Setting × List Char)
  | 't' :: 'r' :: 'u' :: 'e' :: rest => some (.scalar (.bool true), rest)
  | 'f' :: 'a' :: 'l' :: 's' :: 'e' :: rest => some (.scalar (.bool false), rest)
  | '"' :: rest => do
      let (content, rest) ← Text.escapedContent? rest
      some (.text (String.ofList content), rest)
  | '\'' :: c :: '\'' :: rest => some (.scalar (.char c), rest)
  | '[' :: rest => do
      let (settings, rest) ← items ']' item (rest.length + 1) rest
      some (.list settings, rest)
  | c :: rest =>
      if c = '\x7b' then do
        let (pairs, rest) ← items '\x7d' (pair item) (rest.length + 1) rest
        some (.table (pairs.foldl (fun entries (key, value) => insertEntry key value entries) []), rest)
      else if c = '\'' then none
      else
        let isWord := fun c : Char => ¬isSeparator c
        some (.scalar (ofWord (Text.trim ((c :: rest).takeWhile isWord))), (c :: rest).dropWhile isWord)
  | [] => some (.text "", [])

def value : Nat → List Char → Option (Setting × List Char)
  | 0, _ => none
  | depth + 1, text => (core (value depth) (skipSpace text)).map fun (setting, rest) =>
      (setting, skipSpace rest)

def read (text : String) : Setting :=
  match value (text.toList.length + 1) text.toList with
  | some (setting, []) => setting
  | _ => .text text

end HeaderOutline.Literal
