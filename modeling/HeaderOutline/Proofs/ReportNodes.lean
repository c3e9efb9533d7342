import HeaderOutline.Proofs.ReportTree

/-! The tree form of the report. Each declaration is a node that owns its attributes, then its bases,
constants or parameters, then its members; the lines of the node are the lines of the declaration. -/
namespace HeaderOutline
open ReportNode (leaf linesAll leafLines linesAllAppend linesAllMap)

def Base.reportNode (b : Base) : ReportNode := leaf "base" b.label

def EnumConstant.reportNode (c : EnumConstant) : ReportNode :=
  .node "constant" (displayName c.name)
    [leaf "type" c.typeSpelling, leaf "value" (toString c.value.toInt)]

def Parameter.reportNode (p : Parameter) : ReportNode :=
  .node "param" (displayName p.name) (leaf "type" p.typeSpelling ::
    match p.default with
    | none => []
    | some default => [leaf "default" default])

def Signature.reportNodes (s : Signature) : List ReportNode :=
  leaf "return" s.returnType :: leaf "storage" s.storage.spelling ::
    s.parameters.map Parameter.reportNode

def ValueType.reportNodes (t : ValueType) : List ReportNode :=
  [leaf "type" t.spelling, leaf "storage" t.storage.spelling]

namespace Declaration

mutual
def reportNode : Declaration → ReportNode
  | ns name children => .node "namespace" (displayName name) (reportNodes children)
  | record key head members =>
      .node (head.label key) (displayName head.name)
        (leaf "type" head.typeSpelling :: (head.bases.map Base.reportNode ++ reportNodes members))
  | enum e =>
      .node "enum" (displayName e.name) (leaf "type" e.typeSpelling ::
        leaf "underlying" e.underlyingType :: e.constants.map EnumConstant.reportNode)
  | func name signature => .node "function" (displayName name) signature.reportNodes
  | var name type => .node "variable" (displayName name) type.reportNodes
  | field name access type =>
      .node "field" (displayName name) (leaf "access" access.spelling :: type.reportNodes)
  | method name access signature =>
      .node "cxxmethod" (displayName name) (leaf "access" access.spelling :: signature.reportNodes)
termination_by structural d => d

def reportNodes : List Declaration → List ReportNode
  | [] => []
  | d :: rest => d.reportNode :: reportNodes rest
termination_by structural ds => ds
end

theorem reportNodesMap (ds : List Declaration) : reportNodes ds = ds.map reportNode := by
  induction ds with
  | nil => rfl
  | cons d rest ih => rw [reportNodes, ih, List.map_cons]

end Declaration

theorem baseLines (depth : Nat) (bases : List Base) :
    linesAll depth (bases.map Base.reportNode) = bases.map fun base => ⟨depth, "base", base.label⟩ := by
  have lines : linesAll depth (bases.map Base.reportNode) =
      bases.flatMap fun base => [⟨depth, "base", base.label⟩] := linesAllMap (fun _ => rfl) bases
  rw [lines, List.map_eq_flatMap]

theorem constantLines (depth : Nat) (constants : List EnumConstant) :
    linesAll depth (constants.map EnumConstant.reportNode) = constants.flatMap (EnumConstant.lines depth) :=
  linesAllMap (fun _ => rfl) constants

theorem parameterLines (depth : Nat) (parameters : List Parameter) :
    linesAll depth (parameters.map Parameter.reportNode) = parameters.flatMap (Parameter.lines depth) := by
  refine linesAllMap (fun p => ?_) parameters
  obtain ⟨name, typeSpelling, default⟩ := p
  cases default <;> rfl

theorem signatureLines (depth : Nat) (s : Signature) : linesAll depth s.reportNodes = s.lines depth := by
  have parameters := parameterLines depth s.parameters
  simp only [Signature.reportNodes, Signature.lines, leafLines, parameters]

namespace Declaration

mutual
theorem nodeLines (depth : Nat) : (d : Declaration) → d.reportNode.lines depth = d.lines depth
  | ns name children => by
      simp only [reportNode, ReportNode.lines, lines]
      rw [nodesLines]
  | record key head members => by
      simp only [reportNode, ReportNode.lines, lines, leafLines, linesAllAppend, baseLines]
      rw [nodesLines]
  | enum e => by
      simp only [reportNode, ReportNode.lines, lines, leafLines, constantLines]
  | func name signature => by
      simp only [reportNode, ReportNode.lines, lines, signatureLines]
  | var .. => rfl
  | field .. => rfl
  | method name access signature => by
      simp only [reportNode, ReportNode.lines, lines, leafLines, signatureLines]

theorem nodesLines (depth : Nat) :
    (ds : List Declaration) → ReportNode.linesAll depth (reportNodes ds) = linesAll depth ds
  | [] => rfl
  | d :: rest => by
      simp only [reportNodes, ReportNode.linesAll, linesAll]
      rw [nodeLines, nodesLines]
end

end Declaration

def Outline.reportNodes (outline : Outline) : List ReportNode :=
  leaf "translation unit" outline.name :: Declaration.reportNodes outline.declarations

theorem outlineLines (depth : Nat) (outline : Outline) :
    linesAll depth outline.reportNodes = outline.lines depth := by
  rw [Outline.reportNodes, leafLines, Declaration.nodesLines, Outline.lines]

end HeaderOutline
