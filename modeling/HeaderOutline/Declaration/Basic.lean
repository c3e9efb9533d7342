import HeaderOutline.Declaration.Classification

/-! The declarations that a front end shows in one unit, children in source order. Namespaces and records own
declarations; enumerations own constants and functions own parameters, which are no declarations. -/
namespace HeaderOutline

structure Base where
  access : Access
  typeSpelling : String
  deriving DecidableEq, Repr

structure EnumConstant where
  name : String
  typeSpelling : String
  value : Int64
  deriving DecidableEq, Repr

structure Enumeration where
  name : String
  typeSpelling : String
  underlyingType : String
  constants : List EnumConstant
  deriving DecidableEq, Repr

structure Parameter where
  name : String
  typeSpelling : String
  default : Option String
  deriving DecidableEq, Repr

structure Signature where
  returnType : String
  storage : Storage
  parameters : List Parameter
  deriving DecidableEq, Repr

structure ValueType where
  spelling : String
  storage : Storage
  deriving DecidableEq, Repr

def ValueType.lambda : String := "lambda"

def ValueType.isLambda (t : ValueType) : Bool := t.spelling = lambda

structure RecordHead where
  name : String
  typeSpelling : String
  bases : List Base
  truncated : Bool
  deriving DecidableEq, Repr

/-- A namespace appears once for each of its fragments; fragments of one namespace are not merged. -/
inductive Declaration where
  | ns (name : String) (children : List Declaration)
  | record (key : ClassKey) (head : RecordHead) (members : List Declaration)
  | enum (enumeration : Enumeration)
  | func (name : String) (signature : Signature)
  | var (name : String) (type : ValueType)
  | field (name : String) (access : Access) (type : ValueType)
  | method (name : String) (access : Access) (signature : Signature)
  deriving Repr

structure Diagnostic where
  kind : String
  name : String
  deriving DecidableEq, Repr

def Diagnostic.message (d : Diagnostic) : String := s!"unrecognized declaration kind {d.kind} ({d.name})"

structure Outline where
  name : String
  declarations : List Declaration
  diagnostics : List Diagnostic
  deriving Repr

structure Fragment where
  name : String
  children : List Declaration
  deriving Repr

structure Record where
  head : RecordHead
  members : List Declaration
  deriving Repr

namespace Declaration

def kind : Declaration → DeclarationKind
  | ns .. => .ns
  | record key .. => .record key
  | enum .. => .enum
  | func .. => .func
  | var .. => .var
  | field .. => .field
  | method .. => .method

def name : Declaration → String
  | ns name _ => name
  | record _ head _ => head.name
  | enum e => e.name
  | func name _ => name
  | var name _ => name
  | field name .. => name
  | method name .. => name

def children : Declaration → List Declaration
  | ns _ children => children
  | record _ _ members => members
  | _ => []

def fragment? : Declaration → Option Fragment
  | ns name children => some ⟨name, children⟩
  | _ => none

def record? : Declaration → Option Record
  | record _ head members => some ⟨head, members⟩
  | _ => none

def enumeration? : Declaration → Option Enumeration
  | enum e => some e
  | _ => none

def valueType? : Declaration → Option ValueType
  | var _ type => some type
  | field _ _ type => some type
  | _ => none

theorem sizeOfChild {d child : Declaration} (member : child ∈ d.children) : sizeOf child < sizeOf d := by
  cases d with
  | ns name children =>
      have : sizeOf child < sizeOf children := List.sizeOf_lt_of_mem member
      simp only [ns.sizeOf_spec]
      omega
  | record key head members =>
      have : sizeOf child < sizeOf members := List.sizeOf_lt_of_mem member
      simp only [record.sizeOf_spec]
      omega
  | _ => simp [Declaration.children] at member

theorem childInduction {P : Declaration → Prop} (step : ∀ d, (∀ child ∈ d.children, P child) → P d)
    (d : Declaration) : P d :=
  step d fun child _ => childInduction step child
termination_by sizeOf d
decreasing_by exact sizeOfChild (by assumption)

end Declaration

end HeaderOutline
