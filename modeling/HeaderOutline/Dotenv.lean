import HeaderOutline.FileTree
import HeaderOutline.Settings.Environment
import HeaderOutline.Text.Alphanumeric

/-! Variables from a `.env` file. What is set already stays, and the first line that cannot be read ends the
reading; the lines before it count. A quoted value may go on over several lines. A value with a NUL breaks the
reading off: no environment can take it. -/
namespace HeaderOutline.Dotenv

inductive Place where
  | plain | escaped | single | singleEscaped | double | doubleEscaped | afterBlank
  deriving DecidableEq, Repr

namespace Place

def afterMark (c : Char) : Place :=
  if c = '\\' then escaped
  else if c = '"' then double
  else if c = '\'' then single
  else plain

/-- Only every other blank in a row counts as one before a comment. -/
def next (place : Place) (c : Char) : Place :=
  match place with
  | plain => if Text.isWhiteSpace c ∧ c ≠ '\n' ∧ c ≠ '\r' then afterBlank else afterMark c
  | afterBlank => afterMark c
  | escaped => plain
  | double => if c = '\\' then doubleEscaped else if c = '"' then plain else double
  | doubleEscaped => double
  | single => if c = '\\' then singleEscaped else if c = '\'' then plain else single
  | singleEscaped => single

end Place

def beforeComment? : Place → List Char → Option (List Char)
  | _, [] => none
  | place, c :: rest =>
      if place = .afterBlank ∧ c = '#' then some []
      else (beforeComment? (place.next c) rest).map (c :: ·)

def withoutNewline (line : List Char) : List Char :=
  match line.reverse with
  | '\n' :: '\r' :: rest => rest.reverse
  | '\n' :: rest => rest.reverse
  | _ => line

def logicalLines (begun : List Char) (place : Place) : List (List Char) → List (List Char)
  | [] => []
  | line :: rest =>
      let whole := begun ++ line
      if (Text.trimStart whole).head? = some '#' then [] :: logicalLines [] .plain rest
      else match beforeComment? place line with
        | some kept => (begun ++ kept) :: logicalLines [] .plain rest
        | none =>
            let place := line.foldl Place.next place
            if place = .plain then withoutNewline whole :: logicalLines [] .plain rest
            else logicalLines whole place rest

def byteLines : List UInt8 → List (List UInt8)
  | [] => []
  | byte :: rest =>
      if byte = 10 then [byte] :: byteLines rest
      else match byteLines rest with
        | [] => [[byte]]
        | line :: lines => (byte :: line) :: lines

def byteOrderMark : List UInt8 := [0xEF, 0xBB, 0xBF]

def physicalLines (content : List UInt8) : List (List Char) :=
  let content := if byteOrderMark.isPrefixOf content then content.drop 3 else content
  let texts := (byteLines content).map fun line => String.fromUTF8? ⟨line.toArray⟩
  (texts.takeWhile Option.isSome).map fun text => (text.getD "").toList

inductive Mode where
  | plain
  | escaped
  | single
  | name (name : List Char)
  | bracedName (name : List Char)
  | ended
  | comment
  deriving DecidableEq, Repr

structure Reader where
  double : Bool
  mode : Mode
  deriving DecidableEq, Repr

def valueOf (environment : Environment) (name : List Char) : List Char :=
  ((environment.lookup (String.ofList name)).getD "").toList

namespace Reader

abbrev Step := List Char × Reader

def push (reader : Reader) (c : Char) : Step := ([c], { reader with mode := .plain })

def turn (reader : Reader) (mode : Mode) : Step := ([], { reader with mode := mode })

def takePlain (reader : Reader) (c : Char) : Step :=
  if c = '$' then reader.turn (.name [])
  else if c = '\\' then reader.turn .escaped
  else if reader.double then if c = '"' then ([], ⟨false, .plain⟩) else reader.push c
  else if c = '\'' then reader.turn .single
  else if c = '"' then ([], ⟨true, .plain⟩)
  else if c = ' ' ∨ c = '\t' then reader.turn .ended
  else reader.push c

def takeName (environment : Environment) (reader : Reader) (name : List Char) (c : Char) : Step :=
  if Text.isAlphanumeric c then reader.turn (.name (name ++ [c]))
  else if c = '\x7b' ∧ name = [] then reader.turn (.bracedName [])
  else if c = '$' then (valueOf environment name, { reader with mode := .name [] })
  else (valueOf environment name ++ [c], { reader with mode := .plain })

def take (environment : Environment) (reader : Reader) (c : Char) : Option Step :=
  match reader.mode with
  | .plain => some (reader.takePlain c)
  | .escaped =>
      if c ∈ ['\\', '\'', '"', '$', ' '] then some (reader.push c)
      else if c = 'n' then some (reader.push '\n')
      else none
  | .single => some (if c = '\'' then reader.turn .plain else ([c], reader))
  | .name name => some (reader.takeName environment name c)
  | .bracedName name =>
      some (if c = '\x7d' then (valueOf environment name, { reader with mode := .plain })
        else reader.turn (.bracedName (name ++ [c])))
  | .ended =>
      if c = ' ' ∨ c = '\t' then some ([], reader)
      else if c = '#' then some (reader.turn .comment)
      else none
  | .comment => some ([], reader)

def finish (environment : Environment) (reader : Reader) : Option (List Char) :=
  match reader.mode with
  | .single => none
  | .bracedName _ => none
  | .name name => if reader.double then none else some (valueOf environment name)
  | _ => if reader.double then none else some []

def read (environment : Environment) (reader : Reader) : List Char → Option (List Char)
  | [] => reader.finish environment
  | c :: rest => do
      let (text, reader) ← reader.take environment c
      let more ← reader.read environment rest
      some (text ++ more)

end Reader

def value? (environment : Environment) (text : List Char) : Option (List Char) :=
  Reader.read environment ⟨false, .plain⟩ text

def isKeyStart (c : Char) : Bool := c.isAlpha || c = '_'

def isKeyCharacter (c : Char) : Bool := c.isAlphanum || c = '_' || c = '.'

def key? (text : List Char) : Option (List Char × List Char) :=
  match text with
  | c :: _ =>
      if isKeyStart c then some (text.takeWhile isKeyCharacter, text.dropWhile isKeyCharacter) else none
  | [] => none

def keyAndRest? (text : List Char) : Option (List Char × List Char) := do
  let (key, rest) ← key? text
  match Text.trimStart rest with
  | '=' :: rest => some (key, rest)
  | rest =>
      if key = "export".toList then
        let (key, rest) ← key? rest
        match Text.trimStart rest with
        | '=' :: rest => some (key, rest)
        | _ => none
      else none

inductive Line where
  | empty
  | variable (name value : String)
  deriving DecidableEq, Repr

def line? (environment : Environment) (line : List Char) : Option Line :=
  let text := Text.trimStart (Text.trimEnd line)
  if text = [] ∨ text.head? = some '#' then some .empty
  else do
    let (key, rest) ← keyAndRest? text
    let rest := Text.trimStart rest
    let value ← if rest = [] ∨ rest.head? = some '#' then some [] else value? environment rest
    some (.variable (String.ofList key) (String.ofList value))

structure Unsettable where
  name : String
  value : String
  deriving DecidableEq, Repr

def extendBy (environment : Environment) : List (List Char) → Except Unsettable Environment
  | [] => .ok environment
  | text :: rest => match line? environment text with
      | none => .ok environment
      | some .empty => extendBy environment rest
      | some (.variable name value) =>
          if (environment.lookup name).isSome then extendBy environment rest
          else if '\x00' ∈ value.toList then .error ⟨name, value⟩
          else extendBy (environment ++ [(name, value)]) rest

def firstContent? (tree : FileTree) : List Path → Option ByteArray
  | [] => none
  | path :: rest => match tree.locate path with
      | .ok (_, .file content) => content.toOption
      | .ok _ => firstContent? tree rest
      | .error .missing => firstContent? tree rest
      | .error _ => none

def fileName : Path := ⟨".env"⟩

def lines (tree : FileTree) : List (List Char) :=
  match firstContent? tree (tree.upward fileName) with
  | none => []
  | some content => logicalLines [] .plain (physicalLines content.toList)

def extend (tree : FileTree) (environment : Environment) : Except Unsettable Environment :=
  extendBy environment (lines tree)

end HeaderOutline.Dotenv
