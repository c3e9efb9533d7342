import HeaderOutline.Decimal.Numeral
import HeaderOutline.Text.Alphanumeric
import HeaderOutline.Text.Blank

/-! What a run says about itself, and the filter that picks from it. A filter is a list of directives, each a
level for the targets that begin with a name; of those that apply, the one with the longest name decides. -/
namespace HeaderOutline

inductive Level where
  | error | warn | info | debug | trace
  deriving DecidableEq, Repr

namespace Level

def rank : Level → Nat
  | error => 1
  | warn => 2
  | info => 3
  | debug => 4
  | trace => 5

def name : Level → String
  | error => "ERROR"
  | warn => "WARN"
  | info => "INFO"
  | debug => "DEBUG"
  | trace => "TRACE"

def all : List Level := [error, warn, info, debug, trace]

end Level

structure LogLine where
  level : Level
  target : String
  text : String
  deriving DecidableEq, Repr

def LogLine.render (line : LogLine) : String := line.level.name ++ " " ++ line.target ++ ": " ++ line.text

structure Threshold where
  level : Option Level
  deriving DecidableEq, Repr

namespace Threshold

def off : Threshold := ⟨none⟩

def upTo (level : Level) : Threshold := ⟨some level⟩

def passes (threshold : Threshold) (level : Level) : Bool :=
  match threshold.level with
  | none => false
  | some highest => level.rank ≤ highest.rank

def parse? (text : List Char) : Option Threshold :=
  match Decimal.unsigned? text with
  | some 0 => some off
  | some n => (Level.all[n - 1]?).map upTo
  | none =>
      let name := String.ofList (text.map Char.toUpper)
      if name = "OFF" then some off else (Level.all.find? fun level => level.name = name).map upTo

end Threshold

inductive Directive where
  | lines (target : Option String) (threshold : Threshold)
  | span
  deriving DecidableEq, Repr

namespace Directive

def threshold? (text : List Char) : Option Threshold :=
  if text = [] then some (.upTo .trace) else Threshold.parse? text

def afterSpan? : List Char → Option Directive
  | [] => some span
  | '=' :: rest => (threshold? rest).map fun _ => span
  | _ => none

def fields? (text : List Char) : Option Directive :=
  let content := text.takeWhile (· ≠ '\x7d')
  if (content.splitOn ',').any List.isEmpty then none
  else match text.dropWhile (· ≠ '\x7d') with
    | _ :: ']' :: rest => afterSpan? rest
    | _ => none

def span? (text : List Char) : Option Directive :=
  match text.dropWhile fun c => c ≠ ']' ∧ c ≠ '\x7b' with
  | [] => none
  | c :: rest => if c = ']' then afterSpan? rest else fields? rest

def parse? (text : List Char) : Option Directive :=
  match text with
  | [] => none
  | '[' :: rest => span? rest
  | first :: _ =>
      if ¬(Text.isAlphanumeric first ∨ first ∈ ['-', ':', '_']) then none
      else
        let name := text.takeWhile fun c => c ≠ '=' ∧ c ≠ '['
        match text.dropWhile fun c => c ≠ '=' ∧ c ≠ '[' with
        | [] => match Threshold.parse? name with
            | some threshold => some (lines none threshold)
            | none => some (lines (some (String.ofList name)) (.upTo .trace))
        | '=' :: rest => (threshold? rest).map (lines (some (String.ofList name)))
        | _ :: rest => span? rest

def closeness? (target : String) : Directive → Option Nat
  | lines none _ => some 0
  | lines (some name) _ => if name.toList.isPrefixOf target.toList then some (name.length + 1) else none
  | span => none

def passes (level : Level) : Directive → Bool
  | lines _ threshold => threshold.passes level
  | span => false

end Directive

abbrev Filter := List Directive

namespace Filter

def parse? (text : String) : Option Filter :=
  match (text.toList.splitOn ',').filter (· ≠ []) with
  | [] => some [.lines none (.upTo .error)]
  | pieces => pieces.mapM fun piece => Directive.parse? (Text.trim piece)

def closer (target : String) (best : Option (Nat × Directive)) (directive : Directive) :
    Option (Nat × Directive) :=
  match directive.closeness? target, best with
  | none, _ => best
  | some closeness, none => some (closeness, directive)
  | some closeness, some (previous, kept) =>
      if previous ≤ closeness then some (closeness, directive) else some (previous, kept)

def passes (filter : Filter) (line : LogLine) : Bool :=
  match filter.foldl (closer line.target) none with
  | none => false
  | some (_, directive) => directive.passes line.level

def choose (text : Option String) (otherwise : Level) : Filter :=
  (text.bind parse?).getD [.lines none (.upTo otherwise)]

end Filter

end HeaderOutline
