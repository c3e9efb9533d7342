import HeaderOutline.Report
import HeaderOutline.SymbolIndex

/-! What a traversal carries along: how deep it is, the names of the namespaces around it, and an index
of what it finds if one is wanted. -/
namespace HeaderOutline

structure Context where
  depth : Nat
  scope : List String
  index : Option SymbolIndex
  deriving DecidableEq, Repr

namespace Context

def plain : Context := ⟨0, [], none⟩

def indexed : Context := ⟨0, [], some ∅⟩

def indent (context : Context) : Context := { context with depth := context.depth + 1 }

def unindent (context : Context) : Context := { context with depth := context.depth - 1 }

def padding (context : Context) : String := indentation context.depth

def anonymousNamespace : String := "(anonymous namespace)"

def segment (name : String) : String := if name = "" then anonymousNamespace else name

def enterNamespace (context : Context) (name : String) : Context :=
  { context.indent with scope := context.scope ++ [segment name] }

def exitNamespace (context : Context) : Context :=
  { context.unindent with scope := context.scope.dropLast }

def qualify (context : Context) (name : String) : String :=
  String.intercalate "::" (context.scope ++ [segment name])

@[simp] theorem unindentIndent (context : Context) : context.indent.unindent = context := by
  simp [indent, unindent]

theorem exitEnter (context : Context) (name : String) :
    (context.enterNamespace name).exitNamespace = context := by
  simp [enterNamespace, exitNamespace, indent, unindent]

end Context

end HeaderOutline
