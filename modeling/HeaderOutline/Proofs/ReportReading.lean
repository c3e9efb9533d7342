import HeaderOutline.Declaration.Walk
import HeaderOutline.Proofs.ReportNodes

/-! Declarations read back from the tree of a report. The reader takes attributes by their labels and
bases, constants, parameters and members in their order. It gives back the declaration that a node was
made of unless a name in it is the very word that stands for an empty one. -/
namespace HeaderOutline
open ReportNode (leaf)

def plainName (value : String) : String := if value = "(anonymous)" then "" else value

theorem plainDisplayName {name : String} (named : name ≠ "(anonymous)") :
    plainName (displayName name) = name := by
  unfold displayName
  split
  · rename_i empty
    rw [empty]
    rfl
  · exact if_neg named

def Base.ofLabel? (text : String) : Option Base := do
  let access ← Access.ofSpelling? (String.ofList (text.toList.takeWhile (· ≠ ' ')))
  some ⟨access, String.ofList ((text.toList.dropWhile (· ≠ ' ')).drop 1)⟩

theorem baseOfLabel (b : Base) : Base.ofLabel? b.label = some b := by
  obtain ⟨access, typeSpelling⟩ := b
  have split : (access.spelling.toList ++ ' ' :: typeSpelling.toList).takeWhile (· ≠ ' ') =
        access.spelling.toList ∧
      (access.spelling.toList ++ ' ' :: typeSpelling.toList).dropWhile (· ≠ ' ') =
        ' ' :: typeSpelling.toList := by
    refine Text.spanExact (fun c inside => ?_) (fun c first => ?_)
    · have blankless : ' ' ∉ access.spelling.toList := by cases access <;> decide
      exact decide_eq_true fun same => blankless (same ▸ inside)
    · cases first
      rfl
  have letters : (Base.label ⟨access, typeSpelling⟩).toList =
      access.spelling.toList ++ ' ' :: typeSpelling.toList := by
    simp [Base.label]
  simp only [Base.ofLabel?, letters, split, List.drop_one, List.tail_cons, String.ofList_toList,
    Access.ofSpellingSpelling]
  rfl

def numberOf : List Char → Int
  | '-' :: digits => -Nat.ofDigitChars 10 digits 0
  | digits => Nat.ofDigitChars 10 digits 0

theorem digitsRead (n : Nat) : Nat.ofDigitChars 10 n.repr.toList 0 = n := by
  rw [Nat.toList_repr, Nat.ofDigitChars_toDigits (by decide) (by decide)]

theorem numberRead (n : Int) : numberOf n.repr.toList = n := by
  cases n with
  | ofNat n =>
      show numberOf n.repr.toList = n
      unfold numberOf
      split
      · rename_i digits spelled
        have sign : '-' ∈ n.repr.toList := by simp [spelled]
        rw [Nat.toList_repr] at sign
        exact absurd (Nat.isDigit_of_mem_toDigits (by decide) (by decide) sign) (by decide)
      · rw [digitsRead]
  | negSucc n =>
      show numberOf ("-" ++ (n + 1).repr).toList = _
      rw [String.toList_append]
      show -(Nat.ofDigitChars 10 (n + 1).repr.toList 0 : Int) = _
      rw [digitsRead]
      rfl

namespace ReportNode

def attribute? (label : String) (nodes : List ReportNode) : Option String :=
  (nodes.find? (·.label = label)).map value

theorem attributeNone (label : String) : attribute? label [] = none := rfl

theorem attributeLeaf (label other value : String) (rest : List ReportNode) :
    attribute? label (leaf other value :: rest) =
      if other = label then some value else attribute? label rest := by
  by_cases same : other = label <;> simp [attribute?, leaf, ReportNode.label, ReportNode.value, same]

def base? : ReportNode → Option Base
  | node label value _ => if label = "base" then Base.ofLabel? value else none

def constant? : ReportNode → Option EnumConstant
  | node label value attributes =>
      if label = "constant" then do
        let typeSpelling ← attribute? "type" attributes
        let numeral ← attribute? "value" attributes
        some ⟨plainName value, typeSpelling, Int64.ofInt (numberOf numeral.toList)⟩
      else none

def parameter? : ReportNode → Option Parameter
  | node label value attributes =>
      if label = "param" then do
        let typeSpelling ← attribute? "type" attributes
        some ⟨plainName value, typeSpelling, attribute? "default" attributes⟩
      else none

theorem baseOther {n : ReportNode} (other : n.label ≠ "base") : n.base? = none := by
  obtain ⟨label, value, attributes⟩ := n
  exact if_neg other

theorem constantLeaf {label : String} (other : label ≠ "constant") (value : String) :
    (leaf label value).constant? = none := if_neg other

theorem parameterLeaf {label : String} (other : label ≠ "param") (value : String) :
    (leaf label value).parameter? = none := if_neg other

def access? (nodes : List ReportNode) : Option Access := (attribute? "access" nodes).bind Access.ofSpelling?

def storage? (nodes : List ReportNode) : Option Storage :=
  (attribute? "storage" nodes).bind Storage.ofSpelling?

def valueType? (nodes : List ReportNode) : Option ValueType := do
  let spelling ← attribute? "type" nodes
  let storage ← storage? nodes
  some ⟨spelling, storage⟩

def signature? (nodes : List ReportNode) : Option Signature := do
  let returnType ← attribute? "return" nodes
  let storage ← storage? nodes
  some ⟨returnType, storage, nodes.filterMap parameter?⟩

def recordHead? (name : String) (truncated : Bool) (nodes : List ReportNode) : Option RecordHead := do
  let typeSpelling ← attribute? "type" nodes
  some ⟨name, typeSpelling, nodes.filterMap base?, truncated⟩

def enumeration? (name : String) (nodes : List ReportNode) : Option Enumeration := do
  let typeSpelling ← attribute? "type" nodes
  let underlyingType ← attribute? "underlying" nodes
  some ⟨name, typeSpelling, underlyingType, nodes.filterMap constant?⟩

def readAs? (label name : String) (nodes : List ReportNode) (held : List Declaration) : Option Declaration :=
  match label with
  | "namespace" => some (.ns name held)
  | "class" => (recordHead? name false nodes).map fun head => .record .cls head held
  | "inner class" => (recordHead? name true nodes).map fun head => .record .cls head held
  | "struct" => (recordHead? name false nodes).map fun head => .record .struct head held
  | "inner struct" => (recordHead? name true nodes).map fun head => .record .struct head held
  | "enum" => (enumeration? name nodes).map .enum
  | "function" => (signature? nodes).map (.func name)
  | "variable" => (valueType? nodes).map (.var name)
  | "field" => do
      let access ← access? nodes
      let type ← valueType? nodes
      some (.field name access type)
  | "cxxmethod" => do
      let access ← access? nodes
      let signature ← signature? nodes
      some (.method name access signature)
  | _ => none

mutual
def declaration? : ReportNode → Option Declaration
  | node label value children => readAs? label (plainName value) children (declarations children)
termination_by structural n => n

def declarations : List ReportNode → List Declaration
  | [] => []
  | n :: rest => n.declaration?.toList ++ declarations rest
termination_by structural ns => ns
end

theorem declarationsAppend (xs ys : List ReportNode) :
    declarations (xs ++ ys) = declarations xs ++ declarations ys := by
  induction xs with
  | nil => rfl
  | cons n rest ih => rw [List.cons_append, declarations, declarations, ih, List.append_assoc]

end ReportNode

/-! What a declaration itself names: also its constants and parameters, which are no declarations. -/

def Declaration.names : Declaration → List String
  | .enum e => e.name :: e.constants.map EnumConstant.name
  | .func name signature => name :: signature.parameters.map Parameter.name
  | .method name _ signature => name :: signature.parameters.map Parameter.name
  | d => [d.name]

def Declaration.Named (d : Declaration) : Prop := ∀ name ∈ d.names, name ≠ "(anonymous)"

open ReportNode

theorem filterMapMade {α : Type} {make : α → ReportNode} {read : ReportNode → Option α} {items : List α}
    (each : ∀ item ∈ items, read (make item) = some item) : (items.map make).filterMap read = items := by
  induction items with
  | nil => rfl
  | cons item rest ih =>
      have first := each item List.mem_cons_self
      have later := ih fun other listed => each other (List.mem_cons_of_mem item listed)
      rw [List.map_cons, List.filterMap_cons_some first, later]

theorem constantOfNode {c : EnumConstant} (named : c.name ≠ "(anonymous)") :
    c.reportNode.constant? = some c := by
  have plain := plainDisplayName named
  simp [EnumConstant.reportNode, constant?, attributeLeaf, plain, numberRead]

theorem parameterOfNode {p : Parameter} (named : p.name ≠ "(anonymous)") :
    p.reportNode.parameter? = some p := by
  obtain ⟨name, typeSpelling, default⟩ := p
  have plain := plainDisplayName named
  cases default <;> simp [Parameter.reportNode, parameter?, attributeLeaf, attributeNone, plain]

theorem baseOfNode (b : Base) : b.reportNode.base? = some b := baseOfLabel b

theorem valueTypeOfNodes (t : ValueType) : valueType? t.reportNodes = some t := by
  simp [ValueType.reportNodes, valueType?, storage?, attributeLeaf]

theorem signatureOfNodes {s : Signature} (named : ∀ p ∈ s.parameters, p.name ≠ "(anonymous)") :
    signature? s.reportNodes = some s := by
  have parameters : s.reportNodes.filterMap parameter? = s.parameters := by
    rw [Signature.reportNodes, List.filterMap_cons_none (parameterLeaf (by decide) _),
      List.filterMap_cons_none (parameterLeaf (by decide) _)]
    exact filterMapMade fun p listed => parameterOfNode (named p listed)
  rw [signature?, parameters]
  simp [Signature.reportNodes, storage?, attributeLeaf]

theorem signatureBehindAccess (value : String) (nodes : List ReportNode) :
    signature? (leaf "access" value :: nodes) = signature? nodes := by
  have parameters : (leaf "access" value).parameter? = none := parameterLeaf (by decide) value
  simp [signature?, storage?, attributeLeaf, List.filterMap_cons_none parameters]

theorem valueTypeBehindAccess (value : String) (nodes : List ReportNode) :
    valueType? (leaf "access" value :: nodes) = valueType? nodes := by
  simp [valueType?, storage?, attributeLeaf]

theorem accessOfNodes (access : Access) (nodes : List ReportNode) :
    access? (leaf "access" access.spelling :: nodes) = some access := by
  simp [access?, attributeLeaf]

theorem enumerationOfNodes {e : Enumeration} (named : ∀ c ∈ e.constants, c.name ≠ "(anonymous)") :
    enumeration? e.name (leaf "type" e.typeSpelling :: leaf "underlying" e.underlyingType ::
      e.constants.map EnumConstant.reportNode) = some e := by
  have constants : (leaf "type" e.typeSpelling :: leaf "underlying" e.underlyingType ::
      e.constants.map EnumConstant.reportNode).filterMap constant? = e.constants := by
    rw [List.filterMap_cons_none (constantLeaf (by decide) _),
      List.filterMap_cons_none (constantLeaf (by decide) _)]
    exact filterMapMade fun c listed => constantOfNode (named c listed)
  rw [enumeration?, constants]
  simp [attributeLeaf]

theorem declarationNotBase (d : Declaration) : d.reportNode.label ≠ "base" := by
  cases d with
  | record key head members =>
      obtain ⟨name, typeSpelling, bases, truncated⟩ := head
      cases key <;> cases truncated <;> exact of_decide_eq_false rfl
  | _ => simp [Declaration.reportNode, ReportNode.label]

theorem recordHeadOfNodes (head : RecordHead) (members : List Declaration) :
    recordHead? head.name head.truncated (leaf "type" head.typeSpelling ::
      (head.bases.map Base.reportNode ++ Declaration.reportNodes members)) = some head := by
  have bases : (head.bases.map Base.reportNode).filterMap base? = head.bases :=
    filterMapMade fun base _ => baseOfNode base
  -- Members come after the bases and are no bases themselves.
  have noMember : (Declaration.reportNodes members).filterMap base? = [] := by
    rw [Declaration.reportNodesMap, List.filterMap_eq_nil_iff]
    intro n made
    obtain ⟨member, _, rfl⟩ := List.mem_map.mp made
    exact baseOther (declarationNotBase member)
  have typeNoBase : (leaf "type" head.typeSpelling).base? = none := rfl
  rw [recordHead?, List.filterMap_cons_none typeNoBase, List.filterMap_append, bases,
    noMember, List.append_nil]
  simp [attributeLeaf]

theorem basesDeclareNothing (bases : List Base) : declarations (bases.map Base.reportNode) = [] := by
  induction bases with
  | nil => rfl
  | cons base rest ih =>
      rw [List.map_cons, declarations, ih]
      rfl

theorem readAsRecord (key : ClassKey) (head : RecordHead) (name : String) (nodes : List ReportNode)
    (held : List Declaration) : readAs? (head.label key) name nodes held =
      (recordHead? name head.truncated nodes).map fun read => .record key read held := by
  obtain ⟨_, typeSpelling, bases, truncated⟩ := head
  cases key <;> cases truncated <;> rfl

namespace Declaration

mutual
theorem declarationOfNode : (d : Declaration) → (∀ e ∈ d.preorder, e.Named) →
    d.reportNode.declaration? = some d
  | ns name children, named => by
      have plain := plainDisplayName (named _ List.mem_cons_self name List.mem_cons_self)
      have held := declarationsOfNodes children fun e below => named e (List.mem_cons_of_mem _ below)
      rw [reportNode, declaration?, plain, held]
      rfl
  | record key head members, named => by
      have plain := plainDisplayName (named _ List.mem_cons_self head.name List.mem_cons_self)
      have held := declarationsOfNodes members fun e below => named e (List.mem_cons_of_mem _ below)
      have all : declarations (leaf "type" head.typeSpelling ::
          (head.bases.map Base.reportNode ++ reportNodes members)) = members := by
        rw [declarations, declarationsAppend, basesDeclareNothing, held]
        rfl
      rw [reportNode, declaration?, plain, all, readAsRecord, recordHeadOfNodes]
      rfl
  | enum e, named => by
      have own := named (enum e) List.mem_cons_self
      have plain := plainDisplayName (own e.name List.mem_cons_self)
      have read := enumerationOfNodes fun c listed =>
        own c.name (List.mem_cons_of_mem _ (List.mem_map_of_mem listed))
      rw [reportNode, declaration?, plain]
      exact congrArg (Option.map enum) read
  | func name signature, named => by
      have own := named (func name signature) List.mem_cons_self
      have plain := plainDisplayName (own name List.mem_cons_self)
      have read := signatureOfNodes fun p listed =>
        own p.name (List.mem_cons_of_mem _ (List.mem_map_of_mem listed))
      rw [reportNode, declaration?, plain]
      exact congrArg (Option.map (func name)) read
  | var name type, named => by
      have plain := plainDisplayName (named _ List.mem_cons_self name List.mem_cons_self)
      rw [reportNode, declaration?, plain]
      exact congrArg (Option.map (var name)) (valueTypeOfNodes type)
  | field name access type, named => by
      have plain := plainDisplayName (named _ List.mem_cons_self name List.mem_cons_self)
      rw [reportNode, declaration?, plain]
      simp only [readAs?, accessOfNodes, valueTypeBehindAccess, valueTypeOfNodes]
      rfl
  | method name access signature, named => by
      have own := named (method name access signature) List.mem_cons_self
      have plain := plainDisplayName (own name List.mem_cons_self)
      have read := signatureOfNodes fun p listed =>
        own p.name (List.mem_cons_of_mem _ (List.mem_map_of_mem listed))
      rw [reportNode, declaration?, plain]
      simp only [readAs?, accessOfNodes, signatureBehindAccess, read]
      rfl

theorem declarationsOfNodes : (ds : List Declaration) → (∀ e ∈ preorderAll ds, e.Named) →
    declarations (reportNodes ds) = ds
  | [], _ => rfl
  | d :: rest, named => by
      have first := declarationOfNode d fun e inside => named e (List.mem_append_left _ inside)
      have later := declarationsOfNodes rest fun e inside => named e (List.mem_append_right _ inside)
      rw [reportNodes, declarations, first, later]
      rfl
end

end Declaration

end HeaderOutline
