import HeaderOutline.Text.Escaped

/-! Quoted texts of a document: between double quotes with escapes, between single quotes as they stand, and
either of them over several lines between three quotes. -/
namespace HeaderOutline.Toml

def isBlank (c : Char) : Bool := c = ' ' || c = '\t'

def skipBlanks (text : List Char) : List Char := text.dropWhile isBlank

def newline? : List Char → Option (List Char)
  | '\n' :: rest => some rest
  | '\r' :: '\n' :: rest => some rest
  | _ => none

def skipLines : List Char → List Char
  | '\r' :: '\n' :: rest => skipLines rest
  | c :: rest => if isBlank c ∨ c = '\n' then skipLines rest else c :: rest
  | [] => []

def plainContent? (text : List Char) : Option (List Char × List Char) :=
  let content := text.takeWhile (· ≠ '\'')
  match text.dropWhile (· ≠ '\'') with
  | [] => none
  | _ :: rest => if content.any Text.isControl then none else some (content, rest)

def continued? (text : List Char) : Option (List Char × List Char) :=
  match newline? (skipBlanks text) with
  | some rest => some ([], skipLines rest)
  | none => (Text.escape? text).map fun (c, rest) => ([c], rest)

def linesUpTo (mark : Char) (escapes : Bool) : Nat → List Char → Option (List Char × List Char)
  | 0, _ => none
  | bound + 1, text => do
      let onward := fun (content rest : List Char) =>
        (linesUpTo mark escapes bound rest).map fun (more, rest) => (content ++ more, rest)
      match newline? text with
      | some rest => onward ['\n'] rest
      | none => match text with
          | [] => none
          | c :: rest =>
              if c = mark then
                let run := text.takeWhile (· = mark)
                if run.length < 3 then onward run (text.drop run.length)
                else if run.length ≤ 5 then some (run.drop 3, text.drop run.length)
                else none
              else if c = '\\' ∧ escapes then
                let (content, rest) ← continued? rest
                onward content rest
              else if Text.isControl c then none
              else onward [c] rest

def linesContent? (mark : Char) (escapes : Bool) (text : List Char) : Option (List Char × List Char) :=
  let text := (newline? text).getD text
  linesUpTo mark escapes (text.length + 1) text

def lineQuotation? : List Char → Option (String × List Char)
  | '"' :: rest => (Text.escapedContent? rest).map fun (content, rest) => (String.ofList content, rest)
  | '\'' :: rest => (plainContent? rest).map fun (content, rest) => (String.ofList content, rest)
  | _ => none

def quotation? : List Char → Option (String × List Char)
  | '"' :: '"' :: '"' :: rest =>
      (linesContent? '"' true rest).map fun (content, rest) => (String.ofList content, rest)
  | '\'' :: '\'' :: '\'' :: rest =>
      (linesContent? '\'' false rest).map fun (content, rest) => (String.ofList content, rest)
  | text => lineQuotation? text

end HeaderOutline.Toml
