import HeaderOutline.Toml.Quotation
import HeaderOutline.Toml.Table
import HeaderOutline.Toml.Word

/-! Keys and values of a document. An array may spread over lines with comments between its values and ends
in a comma if it likes; an inline table does neither. Nesting is bounded. -/
namespace HeaderOutline.Toml

def depthLimit : Nat := 80

def isBareCharacter (c : Char) : Bool := c.isAlphanum || c = '_' || c = '-'

def simpleKey? (text : List Char) : Option (String × List Char) :=
  match text.takeWhile isBareCharacter with
  | [] => lineQuotation? text
  | bare => some (String.ofList bare, text.dropWhile isBareCharacter)

def keysUpTo : Nat → List Char → Option (List String × List Char)
  | 0, _ => none
  | bound + 1, text => do
      let (key, rest) ← simpleKey? (skipBlanks text)
      match skipBlanks rest with
      | '.' :: rest =>
          let (keys, rest) ← keysUpTo bound rest
          some (key :: keys, rest)
      | rest => some ([key], rest)

def keys? (text : List Char) : Option (List String × List Char) := keysUpTo (depthLimit - 1) text

def skipFiller (comment : Bool) : List Char → Option (List Char)
  | '\r' :: '\n' :: rest => skipFiller false rest
  | '\n' :: rest => skipFiller false rest
  | c :: rest =>
      if comment then if Text.isControl c then none else skipFiller true rest
      else if c = '#' then skipFiller true rest
      else if isBlank c then skipFiller false rest
      else some (c :: rest)
  | [] => some []

abbrev Reader (α : Type) := List Char → Option (α × List Char)

def elements (item : Reader Setting) : Nat → Reader (List Setting)
  | 0, _ => none
  | bound + 1, text => do
      match ← skipFiller false text with
      | ']' :: rest => some ([], rest)
      | text =>
          let (value, rest) ← item text
          match ← skipFiller false rest with
          | ']' :: rest => some ([value], rest)
          | ',' :: rest =>
              let (others, rest) ← elements item bound rest
              some (value :: others, rest)
          | _ => none

def assignment? (item : Reader Setting) : Reader (List String × Setting) := fun text => do
  let (keys, rest) ← keys? text
  match rest with
  | '=' :: rest =>
      let (value, rest) ← item (skipBlanks rest)
      some ((keys, value), rest)
  | _ => none

def fields (item : Reader Setting) : Nat → Reader (List (List String × Setting))
  | 0, _ => none
  | bound + 1, text => do
      let (first, rest) ← assignment? item text
      match skipBlanks rest with
      | [] => none
      | c :: rest =>
          if c = '\x7d' then some ([first], rest)
          else if c = ',' then
            let (others, rest) ← fields item bound rest
            some (first :: others, rest)
          else none

def inlineTable? (assignments : List (List String × Setting)) : Option Setting := do
  let entries ← assignments.foldlM (fun entries (keys, value) => Node.assign keys value entries) []
  some (Node.table .declared entries).setting

def isWordCharacter (c : Char) : Bool := c ∉ [' ', '\t', '\n', '\r', ',', ']', '\x7d', '#']

def word (text : List Char) : List Char × List Char :=
  let first := text.takeWhile isWordCharacter
  match date? first, text.dropWhile isWordCharacter with
  | some (_, []), ' ' :: c :: rest =>
      if c.isDigit then
        (first ++ ' ' :: (c :: rest).takeWhile isWordCharacter, (c :: rest).dropWhile isWordCharacter)
      else (first, ' ' :: c :: rest)
  | _, rest => (first, rest)

def scalar? (text : List Char) : Option (Setting × List Char) :=
  match quotation? text with
  | some (content, rest) => some (.text content, rest)
  | none => (ofWord? (word text).1).map fun setting => (setting, (word text).2)

def value? : Nat → Reader Setting
  | 0, text => scalar? text
  | depth + 1, text => match text with
      | '[' :: rest => do
          let (settings, rest) ← elements (value? depth) (rest.length + 1) rest
          some (.list settings, rest)
      | c :: rest =>
          if c = '\x7b' then match skipBlanks rest with
            | [] => none
            | c :: rest =>
                if c = '\x7d' then some (.table [], rest)
                else do
                  let (assignments, rest) ← fields (value? depth) (rest.length + 2) (c :: rest)
                  some (← inlineTable? assignments, rest)
          else scalar? (c :: rest)
      | [] => none

end HeaderOutline.Toml
