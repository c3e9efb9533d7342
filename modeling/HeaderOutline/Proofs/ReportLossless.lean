import HeaderOutline.Proofs.Places
import HeaderOutline.Proofs.ReportReading

/-! The report of an outline determines its name and its declarations. It is enough that no text in the
outline holds a line end and that nothing in it is named like the word for an empty name. -/
namespace HeaderOutline

def EnumConstant.texts (c : EnumConstant) : List String := [c.name, c.typeSpelling]

def Parameter.texts (p : Parameter) : List String := p.name :: p.typeSpelling :: p.default.toList

def Signature.texts (s : Signature) : List String := s.returnType :: s.parameters.flatMap Parameter.texts

def Declaration.texts : Declaration → List String
  | .ns name _ => [name]
  | .record _ head _ => head.name :: head.typeSpelling :: head.bases.map Base.typeSpelling
  | .enum e => e.name :: e.typeSpelling :: e.underlyingType :: e.constants.flatMap EnumConstant.texts
  | .func name signature => name :: signature.texts
  | .var name type => [name, type.spelling]
  | .field name _ type => [name, type.spelling]
  | .method name _ signature => name :: signature.texts

def Unbroken (texts : List String) : Prop := ∀ text ∈ texts, '\n' ∉ text.toList

structure Declaration.Legible (d : Declaration) : Prop where
  unbroken : Unbroken d.texts
  named : d.Named

structure Outline.Legible (outline : Outline) : Prop where
  unbroken : '\n' ∉ outline.name.toList
  inner : ∀ d ∈ outline.walk, d.Legible

instance (texts : List String) : Decidable (Unbroken texts) :=
  inferInstanceAs (Decidable (∀ text ∈ texts, '\n' ∉ text.toList))

instance (d : Declaration) : Decidable d.Legible :=
  decidable_of_iff (Unbroken d.texts ∧ ∀ name ∈ d.names, name ≠ "(anonymous)")
    ⟨fun h => ⟨h.1, h.2⟩, fun h => ⟨h.unbroken, h.named⟩⟩

theorem legiblePreorder {outline : Outline} :
    outline.Legible ↔ '\n' ∉ outline.name.toList ∧
      ∀ d ∈ Declaration.preorderAll outline.declarations, d.Legible := by
  rw [← Declaration.visitEq]
  exact ⟨fun h => ⟨h.unbroken, h.inner⟩, fun h => ⟨h.1, h.2⟩⟩

instance (outline : Outline) : Decidable outline.Legible := decidable_of_iff _ legiblePreorder.symm

theorem unbrokenCons {text : String} {texts : List String} :
    Unbroken (text :: texts) ↔ '\n' ∉ text.toList ∧ Unbroken texts := List.forall_mem_cons

theorem displayUnbroken {name : String} (unbroken : '\n' ∉ name.toList) :
    '\n' ∉ (displayName name).toList := by
  unfold displayName
  split
  · decide
  · exact unbroken

theorem numeralUnbroken (number : Int) : '\n' ∉ (toString number).toList := by
  have digits (n : Nat) : '\n' ∉ n.repr.toList := by
    intro listed
    rw [Nat.toList_repr] at listed
    have digit := Nat.isDigit_of_mem_toDigits (by decide) (by decide) listed
    exact absurd digit (by decide)
  rw [Int.toString_eq_repr, Int.repr_eq_if]
  split
  · exact digits _
  · rw [String.toList_append]
    simpa using digits (-number).toNat

theorem cleanCons {depth : Nat} {label value : String} {later : List Line}
    (unbroken : '\n' ∉ value.toList) (rest : ∀ line ∈ later, line.Clean)
    (known : label ∈ reportLabels := by decide) :
    ∀ line ∈ ⟨depth, label, value⟩ :: later, line.Clean :=
  List.forall_mem_cons.mpr ⟨⟨known, unbroken⟩, rest⟩

theorem cleanFlatMap {α : Type} {texts : α → List String} {lines : α → List Line} {items : List α}
    (each : ∀ item, Unbroken (texts item) → ∀ line ∈ lines item, line.Clean)
    (unbroken : Unbroken (items.flatMap texts)) : ∀ line ∈ items.flatMap lines, line.Clean := by
  intro line listed
  obtain ⟨item, inItems, inLines⟩ := List.mem_flatMap.mp listed
  refine each item (fun text held => ?_) line inLines
  exact unbroken text (List.mem_flatMap.mpr ⟨item, inItems, held⟩)

theorem constantClean (depth : Nat) (c : EnumConstant) (unbroken : Unbroken c.texts) :
    ∀ line ∈ c.lines depth, line.Clean := by
  obtain ⟨name, rest⟩ := unbrokenCons.mp unbroken
  obtain ⟨typeSpelling, _⟩ := unbrokenCons.mp rest
  refine cleanCons (displayUnbroken name) ?_
  refine cleanCons typeSpelling ?_
  exact cleanCons (numeralUnbroken _) nofun

theorem parameterClean (depth : Nat) (p : Parameter) (unbroken : Unbroken p.texts) :
    ∀ line ∈ p.lines depth, line.Clean := by
  obtain ⟨name, typeSpelling, default⟩ := p
  obtain ⟨nameFree, rest⟩ := unbrokenCons.mp unbroken
  obtain ⟨typeFree, defaultFree⟩ := unbrokenCons.mp rest
  refine cleanCons (displayUnbroken nameFree) ?_
  refine cleanCons typeFree ?_
  cases default with
  | none => exact nofun
  | some default => exact cleanCons (defaultFree default List.mem_cons_self) nofun

theorem storageUnbroken (s : Storage) : '\n' ∉ s.spelling.toList := by
  cases s <;> decide

theorem accessUnbroken (a : Access) : '\n' ∉ a.spelling.toList := by
  cases a <;> decide

theorem signatureClean (depth : Nat) (s : Signature) (unbroken : Unbroken s.texts) :
    ∀ line ∈ s.lines depth, line.Clean := by
  obtain ⟨returnType, parameters⟩ := unbrokenCons.mp unbroken
  refine cleanCons returnType ?_
  refine cleanCons (storageUnbroken _) ?_
  exact cleanFlatMap (parameterClean depth) parameters

theorem valueTypeClean (depth : Nat) (t : ValueType) (spelling : '\n' ∉ t.spelling.toList) :
    ∀ line ∈ t.lines depth, line.Clean := by
  refine cleanCons spelling ?_
  exact cleanCons (storageUnbroken _) nofun

theorem baseClean (depth : Nat) {bases : List Base} (unbroken : Unbroken (bases.map Base.typeSpelling)) :
    ∀ line ∈ bases.map (fun base => (⟨depth, "base", base.label⟩ : Line)), line.Clean := by
  intro line listed
  obtain ⟨base, inBases, rfl⟩ := List.mem_map.mp listed
  have typeSpelling := unbroken base.typeSpelling (List.mem_map_of_mem inBases)
  have known : "base" ∈ reportLabels := by decide
  refine ⟨known, ?_⟩
  simp [Base.label, accessUnbroken, typeSpelling]

theorem recordLabelKnown (key : ClassKey) (head : RecordHead) : head.label key ∈ reportLabels := by
  obtain ⟨_, _, _, truncated⟩ := head
  cases key <;> cases truncated <;> exact of_decide_eq_true rfl

namespace Declaration

mutual
theorem linesClean (depth : Nat) : (d : Declaration) → (∀ e ∈ d.preorder, e.Legible) →
    ∀ line ∈ d.lines depth, line.Clean
  | ns name children, legible => by
      have own := (legible _ List.mem_cons_self).unbroken
      have below := linesAllClean (depth + 1) children fun e inside => legible e (List.mem_cons_of_mem _ inside)
      exact cleanCons (displayUnbroken (unbrokenCons.mp own).1) below
  | record key head members, legible => by
      have own := (legible _ List.mem_cons_self).unbroken
      obtain ⟨name, rest⟩ := unbrokenCons.mp own
      obtain ⟨typeSpelling, bases⟩ := unbrokenCons.mp rest
      have below := linesAllClean (depth + 1) members fun e inside => legible e (List.mem_cons_of_mem _ inside)
      refine cleanCons (displayUnbroken name) ?_ (recordLabelKnown key head)
      refine cleanCons typeSpelling ?_
      exact List.forall_mem_append.mpr ⟨baseClean (depth + 1) bases, below⟩
  | enum e, legible => by
      have own := (legible _ List.mem_cons_self).unbroken
      obtain ⟨name, rest⟩ := unbrokenCons.mp own
      obtain ⟨typeSpelling, rest⟩ := unbrokenCons.mp rest
      obtain ⟨underlyingType, constants⟩ := unbrokenCons.mp rest
      refine cleanCons (displayUnbroken name) ?_
      refine cleanCons typeSpelling ?_
      refine cleanCons underlyingType ?_
      exact cleanFlatMap (constantClean (depth + 1)) constants
  | func name signature, legible => by
      have own := (legible _ List.mem_cons_self).unbroken
      obtain ⟨nameFree, signatureFree⟩ := unbrokenCons.mp own
      exact cleanCons (displayUnbroken nameFree) (signatureClean (depth + 1) signature signatureFree)
  | var name type, legible => by
      have own := (legible _ List.mem_cons_self).unbroken
      obtain ⟨nameFree, rest⟩ := unbrokenCons.mp own
      have typeFree := (unbrokenCons.mp rest).1
      exact cleanCons (displayUnbroken nameFree) (valueTypeClean (depth + 1) type typeFree)
  | field name access type, legible => by
      have own := (legible _ List.mem_cons_self).unbroken
      obtain ⟨nameFree, rest⟩ := unbrokenCons.mp own
      have typeFree := (unbrokenCons.mp rest).1
      refine cleanCons (displayUnbroken nameFree) ?_
      exact cleanCons (accessUnbroken access) (valueTypeClean (depth + 1) type typeFree)
  | method name access signature, legible => by
      have own := (legible _ List.mem_cons_self).unbroken
      obtain ⟨nameFree, signatureFree⟩ := unbrokenCons.mp own
      refine cleanCons (displayUnbroken nameFree) ?_
      exact cleanCons (accessUnbroken access) (signatureClean (depth + 1) signature signatureFree)

theorem linesAllClean (depth : Nat) : (ds : List Declaration) → (∀ e ∈ preorderAll ds, e.Legible) →
    ∀ line ∈ linesAll depth ds, line.Clean
  | [], _ => nofun
  | d :: rest, legible => by
      have first := linesClean depth d fun e inside => legible e (List.mem_append_left _ inside)
      have later := linesAllClean depth rest fun e inside => legible e (List.mem_append_right _ inside)
      exact List.forall_mem_append.mpr ⟨first, later⟩
end

end Declaration

theorem outlineClean {outline : Outline} (legible : outline.Legible) (depth : Nat) :
    ∀ line ∈ outline.lines depth, line.Clean := by
  obtain ⟨name, inner⟩ := legiblePreorder.mp legible
  exact cleanCons name (Declaration.linesAllClean depth outline.declarations inner)

def readReport (report : String) : Option (String × List Declaration) :=
  match ReportNode.forest (readLines report) with
  | .node "translation unit" name _ :: nodes => some (name, ReportNode.declarations nodes)
  | _ => none

theorem renderRead {outline : Outline} (legible : outline.Legible) (depth : Nat) :
    readReport (outline.renderAt depth) = some (outline.name, outline.declarations) := by
  have nodes : ReportNode.forest (readLines (outline.renderAt depth)) = outline.reportNodes := by
    rw [Outline.renderAt, readLinesText (outlineClean legible depth), ← outlineLines,
      ReportNode.forestLines]
  have named : ∀ d ∈ Declaration.preorderAll outline.declarations, d.Named :=
    fun d listed => ((legiblePreorder.mp legible).2 d listed).named
  have declarations := Declaration.declarationsOfNodes outline.declarations named
  rw [readReport, nodes, Outline.reportNodes, ReportNode.leaf]
  exact congrArg (fun ds => some (outline.name, ds)) declarations

theorem reportLossless {u v : Outline} (uLegible : u.Legible) (vLegible : v.Legible) :
    u.render = v.render ↔ u.name = v.name ∧ u.declarations = v.declarations := by
  constructor
  · intro same
    have uRead := renderRead uLegible 0
    have vRead := renderRead vLegible 0
    rw [show u.renderAt 0 = v.renderAt 0 from same, vRead] at uRead
    obtain ⟨name, declarations⟩ := Prod.mk.inj (Option.some.inj uRead)
    exact ⟨name.symm, declarations.symm⟩
  · rintro ⟨name, declarations⟩
    unfold Outline.render Outline.renderAt Outline.lines
    rw [name, declarations]

def greeterOutline (default : Option String) : Outline :=
  ⟨"greeter.hpp", [
    .ns "" [
      .record .cls ⟨"Greeter", "Greeter", [⟨.pub, "Base<type: int>"⟩], false⟩ [
        .record .struct ⟨"Inner", "Greeter::Inner", [], true⟩ [],
        .method "greet" .pub ⟨"void", .static,
          [⟨"", "int", default⟩, ⟨"  times: ", "int", none⟩]⟩]],
    .enum ⟨"Tone", "Tone", "int", [⟨"Low", "Tone", -5⟩]⟩,
    .var "default" ⟨"", .external⟩], []⟩

theorem greeterReportsDiffer : (greeterOutline none).Legible ∧ (greeterOutline (some "")).Legible ∧
    (greeterOutline none).render ≠ (greeterOutline (some "")).render := by
  have absent : (greeterOutline none).Legible := by decide
  have empty : (greeterOutline (some "")).Legible := by decide
  refine ⟨absent, empty, fun same => ?_⟩
  obtain ⟨_, declarations⟩ := (reportLossless absent empty).mp same
  simp [greeterOutline] at declarations

end HeaderOutline
