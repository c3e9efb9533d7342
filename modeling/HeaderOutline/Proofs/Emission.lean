import HeaderOutline.Report.Emitter

/-! What an emission does, told by lines. An emission writes certain lines if, from any depth and into any
sink, it goes through them in order, stops at the first that the sink cuts short and then stays at that
line's depth; if none is cut short it comes back to the depth it started from. -/
namespace HeaderOutline

def Line.bytes (line : Line) : List UInt8 := Text.utf8 line.text

namespace Emission

def follow (depth : Nat) : List Line → Sink → EStateM.Result WriteError Emitter Unit
  | [], sink => .ok () ⟨depth, sink⟩
  | line :: rest, sink =>
      if (sink.accepts line.bytes).length < line.bytes.length then
        .error .writeZero ⟨line.depth, sink.put line.bytes⟩
      else follow depth rest (sink.put line.bytes)

def Writes (depth : Nat) (emission : Emission) (lines : List Line) : Prop :=
  ∀ sink, emission ⟨depth, sink⟩ = follow depth lines sink

theorem followDepth {depth : Nat} {lines : List Line} {sink : Sink} {after : Emitter}
    (done : follow depth lines sink = .ok () after) : after.depth = depth := by
  induction lines generalizing sink with
  | nil =>
      cases done
      rfl
  | cons line rest ih =>
      rw [follow] at done
      split at done
      · contradiction
      · exact ih done

theorem followAppend (depth other : Nat) (xs ys : List Line) (sink : Sink) :
    follow depth (xs ++ ys) sink =
      match follow other xs sink with
      | .ok _ after => follow depth ys after.sink
      | .error failure after => .error failure after := by
  induction xs generalizing sink with
  | nil => rfl
  | cons line rest ih =>
      rw [List.cons_append, follow, follow]
      split
      · rfl
      · exact ih _

variable {depth : Nat} {emission next : Emission} {xs ys : List Line}

theorem writesThen (first : Writes depth emission xs) (second : Writes depth next ys) :
    Writes depth (do emission; next) (xs ++ ys) := by
  intro sink
  show EStateM.bind emission (fun _ => next) ⟨depth, sink⟩ = _
  rw [EStateM.bind, first, followAppend depth depth]
  cases done : follow depth xs sink with
  | error failure after => rfl
  | ok _ after =>
      obtain ⟨depthAfter, sinkAfter⟩ := after
      cases followDepth done
      exact second sinkAfter

theorem writesNothing : Writes depth (pure ()) [] := fun _ => rfl

theorem writesLine (label value : String) : Writes depth (line label value) [⟨depth, label, value⟩] := by
  intro sink
  simp only [follow]
  rfl

theorem writesBefore (label value : String) (later : Writes depth next ys) :
    Writes depth (do line label value; next) (⟨depth, label, value⟩ :: ys) :=
  writesThen (writesLine label value) later

theorem writesIndented (inner : Writes (depth + 1) emission xs) : Writes depth (indented emission) xs := by
  intro sink
  show EStateM.bind emission (fun _ => unindent) ⟨depth + 1, sink⟩ = _
  have same := followAppend depth (depth + 1) xs [] sink
  rw [List.append_nil] at same
  rw [EStateM.bind, inner, same]
  cases done : follow (depth + 1) xs sink with
  | error failure after => rfl
  | ok _ after =>
      obtain ⟨depthAfter, sinkAfter⟩ := after
      cases followDepth done
      rfl

theorem writesOwning (label value : String) (inner : Writes (depth + 1) emission xs) :
    Writes depth (do line label value; indented emission) (⟨depth, label, value⟩ :: xs) :=
  writesBefore label value (writesIndented inner)

theorem writesEach {α : Type} {emit : α → Emission} {lines : α → List Line}
    (each : ∀ item, Writes depth (emit item) (lines item)) :
    (items : List α) → Writes depth (items.forM emit) (items.flatMap lines)
  | [] => writesNothing
  | item :: rest => writesThen (each item) (writesEach each rest)

theorem writesParameter (p : Parameter) : Writes depth (parameter p) (p.lines depth) := by
  obtain ⟨name, typeSpelling, default⟩ := p
  cases default with
  | none => exact writesOwning _ _ (writesBefore _ _ writesNothing)
  | some default => exact writesOwning _ _ (writesBefore _ _ (writesLine _ _))

theorem writesSignature (s : Signature) : Writes depth (signature s) (s.lines depth) :=
  writesBefore _ _ (writesBefore _ _ (writesEach writesParameter s.parameters))

theorem writesValueType (t : ValueType) : Writes depth (valueType t) (t.lines depth) :=
  writesBefore _ _ (writesLine _ _)

theorem writesConstant (c : EnumConstant) : Writes depth (constant c) (c.lines depth) :=
  writesOwning _ _ (writesBefore _ _ (writesLine _ _))

theorem writesBases (bases : List Base) : Writes depth (bases.forM fun base => line "base" base.label)
    (bases.map fun base => ⟨depth, "base", base.label⟩) := by
  have each (base : Base) : Writes depth (line "base" base.label) [⟨depth, "base", base.label⟩] :=
    writesLine "base" base.label
  rw [List.map_eq_flatMap]
  exact writesEach each bases

mutual
theorem writesDeclaration (depth : Nat) : (d : Declaration) → Writes depth (declaration d) (d.lines depth)
  | .ns name children => by
      simp only [declaration, Declaration.lines]
      exact writesOwning _ _ (writesDeclarations (depth + 1) children)
  | .record key head members => by
      have inner := writesThen (writesBases head.bases) (writesDeclarations (depth + 1) members)
      simp only [declaration, Declaration.lines]
      exact writesOwning _ _ (writesBefore _ _ inner)
  | .enum e => by
      simp only [declaration, Declaration.lines]
      exact writesOwning _ _ (writesBefore _ _ (writesBefore _ _ (writesEach writesConstant e.constants)))
  | .func name s => by
      simp only [declaration, Declaration.lines]
      exact writesOwning _ _ (writesSignature s)
  | .var name type => by
      simp only [declaration, Declaration.lines]
      exact writesOwning _ _ (writesValueType type)
  | .field name access type => by
      simp only [declaration, Declaration.lines]
      exact writesOwning _ _ (writesBefore _ _ (writesValueType type))
  | .method name access s => by
      simp only [declaration, Declaration.lines]
      exact writesOwning _ _ (writesBefore _ _ (writesSignature s))

theorem writesDeclarations (depth : Nat) : (ds : List Declaration) →
    Writes depth (declarations ds) (Declaration.linesAll depth ds)
  | [] => writesNothing
  | d :: rest => by
      simp only [declarations, Declaration.linesAll]
      exact writesThen (writesDeclaration depth d) (writesDeclarations depth rest)
end

theorem writesOutline (depth : Nat) (u : Outline) : Writes depth (outline u) (u.lines depth) :=
  writesBefore _ _ (writesDeclarations depth u.declarations)

end Emission

end HeaderOutline
