import HeaderOutline.CommandLine
import HeaderOutline.Proofs.PathSplitting

/-! What the command line makes of valid settings. It adds to them and takes nothing away, so if they are at fault
afterwards, the fault is its own: that of the first macro without a name, or else of the first header path
without one. -/
namespace HeaderOutline

section
variable {α : Type} {kind : α → Prop} {xs : List α} {x : α}

structure FirstOf (kind : α → Prop) (xs : List α) (x : α) : Prop where
  holds : kind x
  place : ∃ before after, xs = before ++ x :: after ∧ ∀ other ∈ before, ¬kind other

theorem FirstOf.listed (first : FirstOf kind xs x) : x ∈ xs := by
  obtain ⟨before, after, rfl, -⟩ := first.place
  exact List.mem_append_right before List.mem_cons_self

theorem findFirstOf [DecidablePred kind] : xs.find? (fun x => kind x) = some x ↔ FirstOf kind xs x := by
  rw [List.find?_eq_some_iff_append]
  constructor
  · rintro ⟨holds, before, after, split, others⟩
    exact ⟨of_decide_eq_true holds, before, after, split, by simpa using others⟩
  · rintro ⟨holds, before, after, split, others⟩
    exact ⟨decide_eq_true holds, before, after, split, by simpa using others⟩

end

namespace Settings

structure Within (settings more : Settings) : Prop where
  predefined : more.predefined = settings.predefined
  frontEndArguments : more.frontEndArguments = settings.frontEndArguments
  inputName : more.inputName = settings.inputName
  headers : settings.headers <+: more.headers
  includeDirs : settings.includeDirs <+: more.includeDirs
  macros : settings.macros <+: more.macros
  indexSymbols : settings.indexSymbols = true → more.indexSymbols = true

def Refused (settings : Settings) (field reason : String) : Prop :=
  ∃ fault, settings.fault? = some fault ∧ fault.field = field ∧ fault.reason = reason

def UnnamedMacro (definition : String) : Prop := Text.IsBlank (macroName definition)

instance : DecidablePred UnnamedMacro := fun definition =>
  inferInstanceAs (Decidable (Text.IsBlank (macroName definition)))

end Settings

namespace CommandLine
open Settings (UnnamedMacro)

variable {settings : Settings} {line : CommandLine} {fault : Settings.Fault}

def UnnamedHeader (path : Path) : Prop :=
  ∀ name, path.components.getLast? = some (.normal name) → Text.IsBlank name

theorem unnamedHeader {path : Path} : UnnamedHeader path ↔ Text.IsBlank (path.fileName?.getD "") := by
  simp only [UnnamedHeader, ← Path.fileNameExact]
  cases path.fileName? with
  | none => exact iff_of_true nofun (by decide)
  | some name => simp

instance : DecidablePred UnnamedHeader := fun _ => decidable_of_iff _ unnamedHeader.symm

def fault? (line : CommandLine) : Option Settings.Fault :=
  match line.macros.find? fun definition => UnnamedMacro definition with
  | some definition => some (.namelessMacro definition)
  | none => (line.headers.find? fun path => UnnamedHeader path).map fun path =>
      .blankHeader (HeaderGroup.ofHeaderPath path).directory

theorem applyWithin (line : CommandLine) (settings : Settings) : settings.Within (line.apply settings) where
  predefined := rfl
  frontEndArguments := rfl
  inputName := rfl
  headers := List.prefix_append _ _
  includeDirs := List.prefix_append _ _
  macros := List.prefix_append _ _
  indexSymbols on := by simp [apply, on]

theorem headerPathBlank (path : Path) :
    ((HeaderGroup.ofHeaderPath path).headers.any fun h => Text.IsBlank h) = decide (UnnamedHeader path) := by
  simp [HeaderGroup.ofHeaderPath, unnamedHeader]

theorem faultOfApplied (valid : settings.Valid) : (line.apply settings).fault? = line.fault? := by
  obtain ⟨inputName, macros, predefined, headers⟩ := Settings.validNamed.mp valid
  have ownMacros : settings.macros.find? (fun m => Text.IsBlank (Settings.macroName m)) = none := by
    simpa using macros
  have ownHeaders : settings.headers.find? (fun group => group.headers.any fun h => Text.IsBlank h) = none := by
    simpa using headers
  have ownPredefined : (settings.predefined.keys.any fun name => Text.IsBlank name) = false := by
    simpa using predefined
  have kinds : (fun group : HeaderGroup => group.headers.any fun h => Text.IsBlank h) ∘ HeaderGroup.ofHeaderPath =
      fun path => decide (UnnamedHeader path) := by
    funext path
    rw [Function.comp_apply, headerPathBlank]
  unfold Settings.fault? fault? apply
  dsimp only
  rw [if_neg inputName, List.find?_append, ownMacros, Option.none_or, ownPredefined, if_neg Bool.false_ne_true,
    List.find?_append, ownHeaders, Option.none_or, List.find?_map, kinds, Option.map_map]
  rfl

theorem faultExactly : line.fault? = some fault ↔
    (∃ definition, FirstOf UnnamedMacro line.macros definition ∧ fault = .namelessMacro definition) ∨
    (∀ definition ∈ line.macros, ¬UnnamedMacro definition) ∧
      ∃ path, FirstOf UnnamedHeader line.headers path ∧
        fault = .blankHeader (HeaderGroup.ofHeaderPath path).directory := by
  unfold fault?
  cases found : line.macros.find? fun definition => UnnamedMacro definition with
  | some definition =>
      have first := findFirstOf.mp found
      constructor
      · intro same
        exact .inl ⟨definition, first, (Option.some.inj same).symm⟩
      · rintro (⟨other, firstOther, rfl⟩ | ⟨named, -⟩)
        · rw [findFirstOf.mpr firstOther] at found
          rw [Option.some.inj found]
        · exact absurd first.holds (named definition first.listed)
  | none =>
      have named : ∀ definition ∈ line.macros, ¬UnnamedMacro definition := by simpa using found
      constructor
      · intro failed
        obtain ⟨path, first, same⟩ := Option.map_eq_some_iff.mp failed
        exact .inr ⟨named, path, findFirstOf.mp first, same.symm⟩
      · rintro (⟨definition, first, -⟩ | ⟨-, path, first, rfl⟩)
        · exact absurd first.holds (named definition first.listed)
        · exact Option.map_eq_some_iff.mpr ⟨path, findFirstOf.mpr first, rfl⟩

theorem faultless : line.fault? = none ↔
    (∀ definition ∈ line.macros, ¬UnnamedMacro definition) ∧ ∀ path ∈ line.headers, ¬UnnamedHeader path := by
  unfold fault?
  cases found : line.macros.find? fun definition => UnnamedMacro definition with
  | some definition =>
      have first := findFirstOf.mp found
      exact iff_of_false nofun fun ⟨named, _⟩ => named definition first.listed first.holds
  | none =>
      have named : ∀ definition ∈ line.macros, ¬UnnamedMacro definition := by simpa using found
      rw [Option.map_eq_none_iff, and_iff_right named]
      simp

theorem overridesFault (settings : Settings) (valid : settings.Valid) (line : CommandLine) :
    settings.Within (line.apply settings) ∧
    (¬(line.apply settings).Valid ↔
      (∃ definition ∈ line.macros, UnnamedMacro definition) ∨ ∃ path ∈ line.headers, UnnamedHeader path) ∧
    (∀ definition, FirstOf UnnamedMacro line.macros definition →
      (line.apply settings).Refused "macros" ("'" ++ definition ++ "' has no macro name")) ∧
    ((∀ definition ∈ line.macros, ¬UnnamedMacro definition) → ∀ path, FirstOf UnnamedHeader line.headers path →
      (line.apply settings).Refused "headers"
        ("empty header path in group '" ++ (HeaderGroup.ofHeaderPath path).directory.text ++ "'")) := by
  have invalid : ¬(line.apply settings).Valid ↔
      (∃ definition ∈ line.macros, UnnamedMacro definition) ∨ ∃ path ∈ line.headers, UnnamedHeader path := by
    unfold Settings.Valid
    rw [faultOfApplied valid, faultless, not_and_or]
    simp only [not_forall, not_not, exists_prop]
  refine ⟨applyWithin line settings, invalid, ?_, ?_⟩
  · intro definition first
    exact ⟨_, (faultOfApplied valid).trans (faultExactly.mpr (.inl ⟨definition, first, rfl⟩)), rfl, rfl⟩
  · intro named path first
    exact ⟨_, (faultOfApplied valid).trans (faultExactly.mpr (.inr ⟨named, path, first, rfl⟩)), rfl, rfl⟩

def spoiling : CommandLine :=
  { empty with
    headers := [⟨"a.h"⟩, ⟨"inc//.."⟩, ⟨"sub/ "⟩]
    macros := ["A", " =1", "=2"] }

theorem spoilingRefused :
    Settings.default.Valid ∧ ¬(spoiling.apply .default).Valid ∧
    (spoiling.apply .default).Refused "macros" "' =1' has no macro name" ∧
    (CommandLine.apply { spoiling with macros := ["A"] } .default).Refused "headers"
      "empty header path in group 'inc'" := by
  have valid : Settings.default.Valid := by decide
  have unnamed : FirstOf UnnamedMacro spoiling.macros " =1" :=
    ⟨by decide, ["A"], ["=2"], rfl, by decide⟩
  have header : FirstOf UnnamedHeader spoiling.headers ⟨"inc//.."⟩ :=
    ⟨by decide +kernel, [⟨"a.h"⟩], [⟨"sub/ "⟩], rfl, by decide +kernel⟩
  obtain ⟨-, fails, ofMacro, -⟩ := overridesFault .default valid spoiling
  obtain ⟨-, -, -, ofHeader⟩ := overridesFault .default valid { spoiling with macros := ["A"] }
  have spoiled : ∃ definition ∈ spoiling.macros, UnnamedMacro definition := ⟨_, unnamed.listed, unnamed.holds⟩
  exact ⟨valid, fails.mpr (.inl spoiled), ofMacro _ unnamed, ofHeader (by decide) _ header⟩

end CommandLine

end HeaderOutline
