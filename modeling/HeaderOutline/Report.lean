import HeaderOutline.Declaration.Basic

/-! The text report: one attribute to a line, children two spaces deeper than their owner. An attribute
is one line of the report whatever its value holds. -/
namespace HeaderOutline

def indentation (depth : Nat) : String := String.ofList (List.replicate (2 * depth) ' ')

structure Line where
  depth : Nat
  label : String
  value : String
  deriving DecidableEq, Repr

namespace Line

def text (line : Line) : String := indentation line.depth ++ line.label ++ ": " ++ line.value ++ "\n"

def deeper (by_ : Nat) (line : Line) : Line := { line with depth := line.depth + by_ }

end Line

def displayName (name : String) : String := if name = "" then "(anonymous)" else name

def Base.label (b : Base) : String := b.access.spelling ++ " " ++ b.typeSpelling

def RecordHead.label (key : ClassKey) (head : RecordHead) : String :=
  if head.truncated then "inner " ++ key.spelling else key.spelling

def EnumConstant.lines (depth : Nat) (c : EnumConstant) : List Line :=
  [⟨depth, "constant", displayName c.name⟩, ⟨depth + 1, "type", c.typeSpelling⟩,
   ⟨depth + 1, "value", toString c.value.toInt⟩]

def Parameter.lines (depth : Nat) (p : Parameter) : List Line :=
  ⟨depth, "param", displayName p.name⟩ :: ⟨depth + 1, "type", p.typeSpelling⟩ ::
    match p.default with
    | none => []
    | some default => [⟨depth + 1, "default", default⟩]

def Signature.lines (depth : Nat) (s : Signature) : List Line :=
  ⟨depth, "return", s.returnType⟩ :: ⟨depth, "storage", s.storage.spelling⟩ ::
    s.parameters.flatMap (Parameter.lines depth)

def ValueType.lines (depth : Nat) (t : ValueType) : List Line :=
  [⟨depth, "type", t.spelling⟩, ⟨depth, "storage", t.storage.spelling⟩]

mutual
def Declaration.lines (depth : Nat) : Declaration → List Line
  | .ns name children =>
      ⟨depth, "namespace", displayName name⟩ :: Declaration.linesAll (depth + 1) children
  | .record key head members =>
      ⟨depth, head.label key, displayName head.name⟩ :: ⟨depth + 1, "type", head.typeSpelling⟩ ::
        (head.bases.map (fun base => ⟨depth + 1, "base", base.label⟩) ++
          Declaration.linesAll (depth + 1) members)
  | .enum e =>
      ⟨depth, "enum", displayName e.name⟩ :: ⟨depth + 1, "type", e.typeSpelling⟩ ::
        ⟨depth + 1, "underlying", e.underlyingType⟩ :: e.constants.flatMap (EnumConstant.lines (depth + 1))
  | .func name signature => ⟨depth, "function", displayName name⟩ :: signature.lines (depth + 1)
  | .var name type => ⟨depth, "variable", displayName name⟩ :: type.lines (depth + 1)
  | .field name access type =>
      ⟨depth, "field", displayName name⟩ :: ⟨depth + 1, "access", access.spelling⟩ :: type.lines (depth + 1)
  | .method name access signature =>
      ⟨depth, "cxxmethod", displayName name⟩ :: ⟨depth + 1, "access", access.spelling⟩ ::
        signature.lines (depth + 1)
termination_by structural d => d

def Declaration.linesAll (depth : Nat) : List Declaration → List Line
  | [] => []
  | d :: rest => d.lines depth ++ Declaration.linesAll depth rest
termination_by structural ds => ds
end

namespace Outline

def lines (depth : Nat) (outline : Outline) : List Line :=
  ⟨depth, "translation unit", outline.name⟩ :: Declaration.linesAll depth outline.declarations

def renderAt (depth : Nat) (outline : Outline) : String :=
  String.join ((outline.lines depth).map Line.text)

def render (outline : Outline) : String := outline.renderAt 0

end Outline

end HeaderOutline
