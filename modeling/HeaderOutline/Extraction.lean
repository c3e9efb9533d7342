import HeaderOutline.Context
import HeaderOutline.Cursor
import HeaderOutline.Log

/-! From a cursor tree to the declarations of an outline. In a scope (the whole unit or a namespace)
every child outside system headers becomes one declaration or one diagnostic. A record keeps its bases
and members; a record inside it is truncated to its name and type. Nothing else is looked into. -/
namespace HeaderOutline

namespace Extraction

inductive Event where
  | unrecognized (kind name : String) (depth : Nat)
  | memberSkipped (kind name record : String)
  | finished (declarations diagnostics : Nat)
  deriving DecidableEq, Repr

def Event.level : Event → Level
  | unrecognized .. => .warn
  | memberSkipped .. => .trace
  | finished .. => .debug

structure Yield where
  declarations : List Declaration
  diagnostics : List Diagnostic
  events : List Event
  deriving Repr

namespace Yield

def nothing : Yield := ⟨[], [], []⟩

def append (first second : Yield) : Yield :=
  ⟨first.declarations ++ second.declarations, first.diagnostics ++ second.diagnostics,
   first.events ++ second.events⟩

instance : Append Yield := ⟨append⟩

def one (declaration : Declaration) (events : List Event) : Yield := ⟨[declaration], [], events⟩

end Yield

def parameter (cursor : Cursor) : Parameter :=
  ⟨cursor.head.name, cursor.head.typeSpelling, defaultValue? cursor.head.tokens⟩

def signature (cursor : Cursor) : Signature :=
  ⟨cursor.head.resultType, cursor.head.storage,
   (cursor.userChildren.filter (·.head.kind = .parmDecl)).map parameter⟩

def valueType (cursor : Cursor) : ValueType :=
  let closure := cursor.children.head?.any (·.head.kind = .lambdaExpr)
  ⟨if closure then ValueType.lambda else cursor.head.typeSpelling, cursor.head.storage⟩

def constantsFrom (next : Int64) : List Cursor → List EnumConstant
  | [] => []
  | cursor :: rest =>
      let value := cursor.head.enumValue.getD next
      ⟨cursor.head.name, cursor.head.typeSpelling, value⟩ :: constantsFrom (value + 1) rest

def enumeration (cursor : Cursor) : Enumeration :=
  ⟨cursor.head.name, cursor.head.typeSpelling, cursor.head.underlyingType,
   constantsFrom 0 (cursor.userChildren.filter (·.head.kind = .enumConstantDecl))⟩

inductive Member where
  | base (base : Base)
  | declared (declaration : Declaration)
  | skipped (event : Event)

def truncatedHead (head : CursorHead) : RecordHead := ⟨head.name, head.typeSpelling, [], true⟩

def member (record : String) (cursor : Cursor) : Member :=
  let head := cursor.head
  match head.kind with
  | .baseSpecifier => .base ⟨head.access, head.typeSpelling⟩
  | .method => .declared (.method head.name head.access (signature cursor))
  | .fieldDecl => .declared (.field head.name head.access (valueType cursor))
  | .varDecl => .declared (.field head.name head.access (valueType cursor))
  | .classDecl => .declared (.record .cls (truncatedHead head) [])
  | .structDecl => .declared (.record .struct (truncatedHead head) [])
  | kind => .skipped (.memberSkipped kind.spelling head.name record)

def Member.base? : Member → Option Base
  | base b => some b
  | _ => none

def Member.declared? : Member → Option Declaration
  | declared d => some d
  | _ => none

def Member.event? : Member → Option Event
  | skipped event => some event
  | _ => none

def members (cursor : Cursor) : List Member := cursor.userChildren.map (member cursor.head.name)

def record (key : ClassKey) (cursor : Cursor) : Declaration :=
  .record key ⟨cursor.head.name, cursor.head.typeSpelling, (members cursor).filterMap Member.base?, false⟩
    ((members cursor).filterMap Member.declared?)

def skippedMembers (cursor : Cursor) : List Event := (members cursor).filterMap Member.event?

def enter (context : Context) (isDefinition : Bool) (position : Position) (declaration : Declaration) :
    Context :=
  match context.index with
  | none => context
  | some index =>
      match declaration with
      | .ns name _ => { context with index := some (index.insertNamespace (context.qualify name) position) }
      | .record key head _ =>
          if isDefinition then
            { context with index := some (index.insertRecord key head.typeSpelling position) }
          else context
      | .enum e =>
          if isDefinition then { context with index := some (index.insertEnum e.typeSpelling position) }
          else context
      | _ => context

mutual
/-- One child of the scope at `outer`, where `number` declarations stand before it. What a record or an
enumeration holds is read one level deeper. -/
def cursor (outer : Position) (number : Nat) (context : Context) : Cursor → Yield × Context
  | .node head children =>
      let here := Cursor.node head children
      let declare (context : Context) (declaration : Declaration) (events : List Event) : Yield × Context :=
        (.one declaration events, enter context head.isDefinition (outer ++ [number]) declaration)
      if head.inSystemHeader then (.nothing, context)
      else match head.kind with
        | .ns =>
            let (inner, context) := scope (outer ++ [number]) 0 (context.enterNamespace head.name) children
            let declaration := Declaration.ns head.name inner.declarations
            ({ inner with declarations := [declaration] },
             enter context.exitNamespace head.isDefinition (outer ++ [number]) declaration)
        | .classDecl => declare context.indent.unindent (record .cls here) (skippedMembers here)
        | .structDecl => declare context.indent.unindent (record .struct here) (skippedMembers here)
        | .enumDecl => declare context.indent.unindent (.enum (enumeration here)) []
        | .varDecl => declare context (.var head.name (valueType here)) []
        | .functionDecl => declare context (.func head.name (signature here)) []
        | kind =>
            (⟨[], [⟨kind.spelling, head.name⟩], [.unrecognized kind.spelling head.name context.depth]⟩,
             context)
termination_by structural cursor => cursor

def scope (outer : Position) (number : Nat) (context : Context) : List Cursor → Yield × Context
  | [] => (.nothing, context)
  | first :: rest =>
      let (head, context) := cursor outer number context first
      let (tail, context) := scope outer (number + head.declarations.length) context rest
      (head ++ tail, context)
termination_by structural cursors => cursors
end

end Extraction

structure Extraction where
  outline : Outline
  events : List Extraction.Event
  context : Context
  deriving Repr

def extract (root : Cursor) (context : Context) : Extraction :=
  let (found, context) := Extraction.scope [] 0 context root.children
  { outline := ⟨root.head.name, found.declarations, found.diagnostics⟩
    events := found.events ++ [.finished found.declarations.length found.diagnostics.length]
    context := context }

end HeaderOutline
