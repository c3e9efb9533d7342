/-! Paths keep their spelling. What a path means is its components: repeated and trailing slashes and any
`.` but a leading one do not count. Two spellings are the same path when their components agree, and paths
are ordered by components. -/
namespace HeaderOutline

structure Path where
  text : String
  deriving DecidableEq, Repr, Inhabited

inductive Component where
  | root | current | parent | normal (name : String)
  deriving DecidableEq, Repr

namespace Component

def rank : Component → Nat
  | root => 0
  | current => 1
  | parent => 2
  | normal _ => 3

def name : Component → String
  | normal name => name
  | _ => ""

instance : LT Component := ⟨fun a b => a.rank < b.rank ∨ (a.rank = b.rank ∧ a.name < b.name)⟩

instance (a b : Component) : Decidable (a < b) :=
  inferInstanceAs (Decidable (a.rank < b.rank ∨ (a.rank = b.rank ∧ a.name < b.name)))

def text : Component → String
  | root => "/"
  | current => "."
  | parent => ".."
  | normal name => name

def ofSegment? (segment : List Char) : Option Component :=
  if segment = [] ∨ segment = ['.'] then none
  else if segment = ['.', '.'] then some parent
  else some (normal (String.ofList segment))

end Component

namespace Path

inductive Start where
  | root | current | name
  deriving DecidableEq, Repr

def Start.component? : Start → Option Component
  | root => some .root
  | current => some .current
  | name => none

structure Parts where
  start : Start
  segments : List (List Char)
  deriving DecidableEq, Repr

namespace Parts

def ofText (text : List Char) : Parts :=
  match text.splitOn '/' with
  | [[]] => ⟨.name, []⟩
  | [] :: rest => ⟨.root, rest⟩
  | ['.'] :: rest => ⟨.current, rest⟩
  | segments => ⟨.name, segments⟩

def text : Parts → List Char
  | ⟨.root, segments⟩ => '/' :: ['/'].intercalate segments
  | ⟨.current, []⟩ => ['.']
  | ⟨.current, segments⟩ => '.' :: '/' :: ['/'].intercalate segments
  | ⟨.name, segments⟩ => ['/'].intercalate segments

def components (parts : Parts) : List Component :=
  parts.start.component?.toList ++ parts.segments.filterMap Component.ofSegment?

def splitLast (parts : Parts) : List (List Char) × Option (List Char) :=
  match parts.segments.reverse.dropWhile fun segment => (Component.ofSegment? segment).isNone with
  | [] => ([], none)
  | last :: before => (before.reverse, some last)

def trimmed (parts : Parts) : Parts :=
  { parts with
    segments := (parts.segments.reverse.dropWhile fun s => (Component.ofSegment? s).isNone).reverse }

end Parts

def parts (path : Path) : Parts := Parts.ofText path.text.toList

def components (path : Path) : List Component := path.parts.components

def Same (p q : Path) : Prop := p.components = q.components

instance (p q : Path) : Decidable (p.Same q) := inferInstanceAs (Decidable (p.components = q.components))

def Before (p q : Path) : Prop := p.components < q.components

instance (p q : Path) : Decidable (p.Before q) := inferInstanceAs (Decidable (p.components < q.components))

def parent? (path : Path) : Option Path :=
  match path.parts.splitLast with
  | (before, some _) => some ⟨String.ofList (Parts.trimmed ⟨path.parts.start, before⟩).text⟩
  | (_, none) => if path.parts.start = .current then some ⟨""⟩ else none

def fileName? (path : Path) : Option String :=
  match path.parts.splitLast.2.bind Component.ofSegment? with
  | some (.normal name) => some name
  | _ => none

def extension? (path : Path) : Option String := do
  let reversed := (← path.fileName?).toList.reverse
  match reversed.dropWhile (· ≠ '.') with
  | _ :: _ :: _ => some (String.ofList (reversed.takeWhile (· ≠ '.')).reverse)
  | _ => none

def isAbsolute (path : Path) : Bool := path.parts.start = .root

def endsAsDirectory (path : Path) : Bool := path.parts.trimmed.segments ≠ path.parts.segments

/-- The components, and a last `.` where one is written: it asks to go on from the directory before it. -/
def steps (path : Path) : List Component :=
  if path.parts.segments.reverse.find? (· ≠ []) = some ['.'] then path.components ++ [.current]
  else path.components

def join (base other : Path) : Path :=
  if other.isAbsolute ∨ base.text = "" then other
  else if base.text.toList.getLast? = some '/' then ⟨base.text ++ other.text⟩
  else ⟨base.text ++ "/" ++ other.text⟩

def below (directory : Path) (names : List String) : Path :=
  names.foldl (fun path name => path.join ⟨name⟩) directory

def ofNames (names : List String) : Path := ⟨"/" ++ "/".intercalate names⟩

def stepsFrom : List Component → List Component → List Component
  | [], path => path
  | base, [] => base.map fun _ => .parent
  | b :: base, p :: path =>
      if p = b then stepsFrom base path else (b :: base).map (fun _ => .parent) ++ (p :: path)

def ofComponents (components : List Component) : Path :=
  components.foldl (fun path component => path.join ⟨component.text⟩) ⟨""⟩

def shortenedFrom (base path : Path) : Path :=
  if path.isAbsolute ≠ base.isAbsolute then path
  else
    let steps := stepsFrom base.components path.components
    if steps.length < path.components.length then ofComponents steps else path

end Path

end HeaderOutline
