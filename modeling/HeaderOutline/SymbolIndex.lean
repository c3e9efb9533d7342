import HeaderOutline.Declaration.Walk
import HeaderOutline.Dictionary

/-! Where named declarations stand in an outline. A namespace key keeps every position put under it, in
order; a class, struct or enumeration key keeps the latest. The index holds positions only, so a look-up
takes the outline it was made for, and a position that leads nowhere or to another kind finds nothing. -/
namespace HeaderOutline

structure SymbolIndex where
  namespaces : Dictionary (List Position)
  classes : Dictionary Position
  structs : Dictionary Position
  enums : Dictionary Position
  deriving DecidableEq, Repr

structure SymbolCounts where
  namespaces : Nat
  classes : Nat
  structs : Nat
  enums : Nat
  deriving DecidableEq, Repr

namespace SymbolIndex

def empty : SymbolIndex := ⟨∅, ∅, ∅, ∅⟩

instance : EmptyCollection SymbolIndex := ⟨empty⟩

def positions (index : SymbolIndex) (key : String) : List Position := (index.namespaces.get? key).getD []

def insertNamespace (index : SymbolIndex) (key : String) (position : Position) : SymbolIndex :=
  { index with namespaces := index.namespaces.insert key (index.positions key ++ [position]) }

def insertRecord (index : SymbolIndex) (classKey : ClassKey) (key : String) (position : Position) :
    SymbolIndex :=
  match classKey with
  | .cls => { index with classes := index.classes.insert key position }
  | .struct => { index with structs := index.structs.insert key position }

def insertEnum (index : SymbolIndex) (key : String) (position : Position) : SymbolIndex :=
  { index with enums := index.enums.insert key position }

def fragments (index : SymbolIndex) (outline : Outline) (key : String) : List Fragment :=
  (index.positions key).filterMap fun position => (outline.at? position).bind Declaration.fragment?

/-- A class goes before a struct of the same key, even if nothing stands at the class's position. -/
def recordPosition? (index : SymbolIndex) (key : String) : Option Position :=
  (index.classes.get? key).or (index.structs.get? key)

def record? (index : SymbolIndex) (outline : Outline) (key : String) : Option Record :=
  ((index.recordPosition? key).bind outline.at?).bind Declaration.record?

def enumeration? (index : SymbolIndex) (outline : Outline) (key : String) : Option Enumeration :=
  ((index.enums.get? key).bind outline.at?).bind Declaration.enumeration?

def base? (index : SymbolIndex) (outline : Outline) (base : Base) : Option Record :=
  index.record? outline base.typeSpelling

def counts (index : SymbolIndex) : SymbolCounts :=
  ⟨index.namespaces.size, index.classes.size, index.structs.size, index.enums.size⟩

end SymbolIndex

end HeaderOutline
