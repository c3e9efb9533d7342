import HeaderOutline.Toml.Value

/-! A document: lines that assign values, lines that open a table or add one to an array, empty lines and
comments. It is read in full or not at all. -/
namespace HeaderOutline.Toml

inductive Statement where
  | assign (keys : List String) (value : Setting)
  | table (keys : List String)
  | element (keys : List String)
  deriving Repr

def lineEnd? (text : List Char) : Option (List Char) :=
  let text := match skipBlanks text with
    | '#' :: rest => rest.dropWhile fun c => ¬Text.isControl c
    | rest => rest
  match text with
  | [] => some []
  | text => newline? text

def header? (text : List Char) : Option (Statement × List Char) :=
  match text with
  | '[' :: rest => do
      let (keys, rest) ← keys? rest
      match rest with
      | ']' :: ']' :: rest => some (.element keys, rest)
      | _ => none
  | _ => do
      let (keys, rest) ← keys? text
      match rest with
      | ']' :: rest => some (.table keys, rest)
      | _ => none

def statement? (text : List Char) : Option (Statement × List Char) :=
  match skipBlanks text with
  | '[' :: rest => header? rest
  | text => (assignment? (value? (depthLimit - 1)) text).map fun ((keys, value), rest) =>
      (.assign keys value, rest)

def statementsUpTo : Nat → List Char → Option (List Statement)
  | _, [] => some []
  | 0, _ => none
  | bound + 1, text => match lineEnd? text with
      | some rest => statementsUpTo bound rest
      | none => do
          let (statement, rest) ← statement? text
          let statements ← statementsUpTo bound (← lineEnd? rest)
          some (statement :: statements)

def statements? (text : List Char) : Option (List Statement) :=
  let text := if text.head? = some '\ufeff' then text.drop 1 else text
  statementsUpTo text.length text

structure Progress where
  whole : Node.Entries
  current : List String

def Statement.perform (progress : Progress) : Statement → Option Progress
  | assign keys value => do
      let whole ← Node.within (Node.assign keys value) progress.current progress.whole
      some { progress with whole }
  | table keys => do
      let whole ← Node.within (Node.declareTable (keys.getLastD "")) keys.dropLast progress.whole
      some ⟨whole, keys⟩
  | element keys => do
      let whole ← Node.within (Node.declareElement (keys.getLastD "")) keys.dropLast progress.whole
      some ⟨whole, keys⟩

def entries? (statements : List Statement) : Option Setting.Entries := do
  let progress ← statements.foldlM Statement.perform ⟨[], []⟩
  some (Node.settingsOf progress.whole)

def read? (text : String) : Option Setting.Entries := do entries? (← statements? text.toList)

end HeaderOutline.Toml
