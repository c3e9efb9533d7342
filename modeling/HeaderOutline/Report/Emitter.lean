import HeaderOutline.Report
import HeaderOutline.Text.Utf8

/-! Writing reports into a sink that may fill up. A full sink takes no more bytes and the writing stops
there; the emitter keeps the depth it had reached, so what it writes next starts at that depth. -/
namespace HeaderOutline

structure Sink where
  room : Option Nat
  written : List UInt8
  deriving DecidableEq, Repr

structure Emitter where
  depth : Nat
  sink : Sink
  deriving DecidableEq, Repr

inductive WriteError where
  | writeZero
  deriving DecidableEq, Repr

abbrev Emission := EStateM WriteError Emitter Unit

namespace Sink

def accepts (sink : Sink) (bytes : List UInt8) : List UInt8 :=
  match sink.room with
  | none => bytes
  | some room => bytes.take room

def put (sink : Sink) (bytes : List UInt8) : Sink :=
  let accepted := sink.accepts bytes
  ⟨sink.room.map (· - accepted.length), sink.written ++ accepted⟩

end Sink

namespace Emission

def indent : Emission := modify fun emitter => { emitter with depth := emitter.depth + 1 }

def unindent : Emission := modify fun emitter => { emitter with depth := emitter.depth - 1 }

def write (text : String) : Emission := fun emitter =>
  let bytes := Text.utf8 text
  let after := { emitter with sink := emitter.sink.put bytes }
  if (emitter.sink.accepts bytes).length < bytes.length then .error .writeZero after else .ok () after

def line (label value : String) : Emission := do
  let emitter ← get
  write (Line.text ⟨emitter.depth, label, value⟩)

def indented (inner : Emission) : Emission := do
  indent
  inner
  unindent

def parameter (p : Parameter) : Emission := do
  line "param" (displayName p.name)
  indented do
    line "type" p.typeSpelling
    match p.default with
    | none => pure ()
    | some default => line "default" default

def signature (s : Signature) : Emission := do
  line "return" s.returnType
  line "storage" s.storage.spelling
  s.parameters.forM parameter

def valueType (t : ValueType) : Emission := do
  line "type" t.spelling
  line "storage" t.storage.spelling

def constant (c : EnumConstant) : Emission := do
  line "constant" (displayName c.name)
  indented do
    line "type" c.typeSpelling
    line "value" (toString c.value.toInt)

mutual
def declaration : Declaration → Emission
  | .ns name children => do
      line "namespace" (displayName name)
      indented (declarations children)
  | .record key head members => do
      line (head.label key) (displayName head.name)
      indented do
        line "type" head.typeSpelling
        head.bases.forM fun base => line "base" base.label
        declarations members
  | .enum e => do
      line "enum" (displayName e.name)
      indented do
        line "type" e.typeSpelling
        line "underlying" e.underlyingType
        e.constants.forM constant
  | .func name s => do
      line "function" (displayName name)
      indented (signature s)
  | .var name type => do
      line "variable" (displayName name)
      indented (valueType type)
  | .field name access type => do
      line "field" (displayName name)
      indented do
        line "access" access.spelling
        valueType type
  | .method name access s => do
      line "cxxmethod" (displayName name)
      indented do
        line "access" access.spelling
        signature s
termination_by structural d => d

def declarations : List Declaration → Emission
  | [] => pure ()
  | d :: rest => do
      declaration d
      declarations rest
termination_by structural ds => ds
end

def outline (u : Outline) : Emission := do
  line "translation unit" u.name
  declarations u.declarations

end Emission

structure Delivery where
  accepted : List UInt8
  failure : Option WriteError
  deriving DecidableEq, Repr

def deliver (depth : Nat) (room : Option Nat) (outline : Outline) : Delivery × Nat :=
  match Emission.outline outline ⟨depth, ⟨room, []⟩⟩ with
  | .ok _ emitter => (⟨emitter.sink.written, none⟩, emitter.depth)
  | .error failure emitter => (⟨emitter.sink.written, some failure⟩, emitter.depth)

def deliverAll (depth : Nat) : List (Outline × Option Nat) → List Delivery
  | [] => []
  | (outline, room) :: rest =>
      let (delivery, after) := deliver depth room outline
      delivery :: deliverAll after rest

end HeaderOutline
