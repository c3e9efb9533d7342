import HeaderOutline.Extraction
import HeaderOutline.Proofs.IndexLog
import HeaderOutline.Proofs.Places

/-! The cursors in scope position: outside system headers and reached from the root through namespaces
alone. They are listed in preorder, and an extraction is described by that list: what each cursor adds
to the outline, to the diagnostics and events, and to the index. -/
namespace HeaderOutline

/-- The position is that of the cursor's declaration, or of the next one if it has none. -/
structure Site where
  position : Position
  enclosing : List String
  cursor : Cursor
  deriving Repr

def CursorKind.declares : CursorKind → Bool
  | ns | classDecl | structDecl | enumDecl | varDecl | functionDecl => true
  | _ => false

namespace Cursor

def declares (cursor : Cursor) : Bool := !cursor.head.inSystemHeader && cursor.head.kind.declares

mutual
def declaration? : Cursor → Option Declaration
  | node head children =>
      let here := node head children
      if head.inSystemHeader then none
      else match head.kind with
        | .ns => some (.ns head.name (declarations children))
        | .classDecl => some (Extraction.record .cls here)
        | .structDecl => some (Extraction.record .struct here)
        | .enumDecl => some (.enum (Extraction.enumeration here))
        | .varDecl => some (.var head.name (Extraction.valueType here))
        | .functionDecl => some (.func head.name (Extraction.signature here))
        | _ => none
termination_by structural cursor => cursor

def declarations : List Cursor → List Declaration
  | [] => []
  | first :: rest => first.declaration?.toList ++ declarations rest
termination_by structural cursors => cursors
end

mutual
def sites (outer : Position) (number : Nat) (enclosing : List String) : Cursor → List Site
  | node head children =>
      if head.inSystemHeader then []
      else ⟨outer ++ [number], enclosing, node head children⟩ ::
        if head.kind = .ns then sitesAll (outer ++ [number]) 0 (enclosing ++ [head.name]) children
        else []
termination_by structural cursor => cursor

def sitesAll (outer : Position) (number : Nat) (enclosing : List String) : List Cursor → List Site
  | [] => []
  | first :: rest =>
      first.sites outer number enclosing ++
        sitesAll outer (number + first.declares.toNat) enclosing rest
termination_by structural cursors => cursors
end

def scopeSites (root : Cursor) : List Site := sitesAll [] 0 [] root.children

end Cursor

namespace Site

def head (site : Site) : CursorHead := site.cursor.head

def diagnostic? (site : Site) : Option Diagnostic :=
  if site.head.kind.declares then none else some ⟨site.head.kind.spelling, site.head.name⟩

def events (depth : Nat) (site : Site) : List Extraction.Event :=
  match site.head.kind with
  | .classDecl | .structDecl => Extraction.skippedMembers site.cursor
  | .ns | .enumDecl | .varDecl | .functionDecl => []
  | kind => [.unrecognized kind.spelling site.head.name (depth + site.enclosing.length)]

def slot? (site : Site) : Option Slot :=
  match site.head.kind with
  | .ns => some .ns
  | .classDecl => if site.head.isDefinition then some (.record .cls) else none
  | .structDecl => if site.head.isDefinition then some (.record .struct) else none
  | .enumDecl => if site.head.isDefinition then some .enum else none
  | _ => none

def key (scope : List String) (site : Site) : String :=
  if site.head.kind = .ns then qualifiedName scope site.enclosing site.head.name
  else site.head.typeSpelling

def entry? (scope : List String) (site : Site) : Option IndexEntry :=
  site.slot?.map fun slot => ⟨slot, site.key scope, site.position⟩

end Site

namespace Cursor

mutual
def entries (scope : List String) (outer : Position) (number : Nat) (enclosing : List String) :
    Cursor → List IndexEntry
  | node head children =>
      let here : Site := ⟨outer ++ [number], enclosing, node head children⟩
      if head.inSystemHeader then []
      else
        (if head.kind = .ns then
          entriesAll scope (outer ++ [number]) 0 (enclosing ++ [head.name]) children
        else []) ++ (here.entry? scope).toList
termination_by structural cursor => cursor

def entriesAll (scope : List String) (outer : Position) (number : Nat) (enclosing : List String) :
    List Cursor → List IndexEntry
  | [] => []
  | first :: rest =>
      first.entries scope outer number enclosing ++
        entriesAll scope outer (number + first.declares.toNat) enclosing rest
termination_by structural cursors => cursors
end

theorem declarationCount (cursor : Cursor) :
    cursor.declaration?.toList.length = cursor.declares.toNat := by
  obtain ⟨head, children⟩ := cursor
  obtain system | user := head.inSystemHeader.eq_false_or_eq_true
  · simp [declaration?, declares, Cursor.head, system]
  · cases kind : head.kind <;>
      simp [declaration?, declares, Cursor.head, CursorKind.declares, user, kind]

end Cursor

end HeaderOutline
