import HeaderOutline.Header.Unit
import HeaderOutline.Proofs.Texts

/-! What valid settings promise of the macros. The checks ask for a name of every macro, listed or predefined,
but of a predefined one they look at the whole of its name, which may begin with an equals sign. Such a name
is the only way to a definition that names nothing. -/
namespace HeaderOutline

namespace Settings

structure Named (settings : Settings) : Prop where
  inputName : ¬Text.IsBlank settings.inputName
  macros : ∀ m ∈ settings.macros, ¬Text.IsBlank (macroName m)
  predefined : ∀ name ∈ settings.predefined.keys, ¬Text.IsBlank name
  headers : ∀ group ∈ settings.headers, ∀ h ∈ group.headers, ¬Text.IsBlank h

theorem validNamed {settings : Settings} : settings.Valid ↔ settings.Named := by
  unfold Valid fault?
  constructor
  · intro valid
    split at valid
    · contradiction
    · rename_i inputName
      split at valid
      · contradiction
      · rename_i macros
        split at valid
        · contradiction
        · rename_i predefined
          rw [Option.map_eq_none_iff] at valid
          exact ⟨inputName, by simpa using macros, by simpa using predefined, by simpa using valid⟩
  · intro named
    have macros : settings.macros.find? (fun m => Text.IsBlank (macroName m)) = none := by
      simpa using named.macros
    have predefined : (settings.predefined.keys.any fun name => Text.IsBlank name) = false := by
      simpa using named.predefined
    have headers : settings.headers.find? (fun group => group.headers.any fun h => Text.IsBlank h) = none := by
      simpa using named.headers
    simp [named.inputName, macros, predefined, headers]

theorem macroNameSpliced (name value : String) : macroName (name ++ "=" ++ value) = macroName name := by
  unfold macroName
  rw [String.toList_append, String.toList_append, List.append_assoc, List.takeWhile_append]
  split
  · rename_i whole
    -- The name has no equals sign of its own, so the one behind it ends it.
    have kept := (List.takeWhile_prefix (· ≠ '=')).eq_of_length whole
    rw [kept]
    simp
  · rfl

def Nameless (name : String) : Prop :=
  ∃ space rest, name.toList = space ++ '=' :: rest ∧ ∀ c ∈ space, Text.isWhiteSpace c = true

theorem namelessName {name : String} (nameless : Nameless name) : Text.IsBlank (macroName name) := by
  obtain ⟨space, rest, split, blank⟩ := nameless
  have inside : ∀ c ∈ space, decide (c ≠ '=') = true := by
    intro c listed
    have white := blank c listed
    have equals : Text.isWhiteSpace '=' = false := by decide
    refine decide_eq_true fun same => ?_
    rw [same, equals] at white
    contradiction
  have cut : name.toList.takeWhile (· ≠ '=') = space := by
    rw [split]
    exact (Text.spanExact inside (by simp)).1
  rw [Text.isBlankIff, macroName, String.toList_ofList, cut]
  exact blank

theorem namelessOfBlank {name : String} (named : ¬Text.IsBlank name) (blank : Text.IsBlank (macroName name)) :
    Nameless name := by
  rw [Text.isBlankIff, macroName, String.toList_ofList] at blank
  have whole := List.takeWhile_append_dropWhile (p := (· ≠ '=')) (l := name.toList)
  cases rest : name.toList.dropWhile (· ≠ '=') with
  | nil =>
      rw [rest, List.append_nil] at whole
      rw [whole] at blank
      exact absurd (Text.isBlankIff.mpr blank) named
  | cons c tail =>
      have equals : c = '=' := by
        have first := List.head?_dropWhile_not (· ≠ '=') name.toList
        rw [rest] at first
        simpa using first
      rw [rest, equals] at whole
      exact ⟨_, tail, whole.symm, blank⟩

theorem spliced {settings : Settings} {d : String} (listed : d ∈ settings.macroDefinitions) :
    d ∈ settings.macros ∨ ∃ entry ∈ settings.predefined.entries, d = entry.1 ++ "=" ++ entry.2 := by
  rcases List.mem_append.mp listed with own | made
  · exact .inl own
  · obtain ⟨entry, held, same⟩ := List.mem_map.mp made
    exact .inr ⟨entry, held, same.symm⟩

theorem definitionsNamed (settings : Settings) (valid : settings.Valid) :
    (∀ d ∈ settings.macroDefinitions, Text.IsBlank (macroName d) ↔
      ∃ entry ∈ settings.predefined.entries, Nameless entry.1 ∧ d = entry.1 ++ "=" ++ entry.2) ∧
    ∀ tree unit, HeaderUnit.build tree settings = .ok (some unit) →
      unit.arguments = settings.frontEndArguments ++ unit.searchPaths.map (fun path => "-I" ++ path.text) ++
        settings.macroDefinitions.map ("-D" ++ ·) := by
  have named := validNamed.mp valid
  refine ⟨fun d listed => ⟨fun blank => ?_, ?_⟩, fun tree unit built => ?_⟩
  · rcases spliced listed with own | ⟨entry, held, rfl⟩
    · exact absurd blank (named.macros d own)
    · rw [macroNameSpliced] at blank
      have key : entry.1 ∈ settings.predefined.keys := List.mem_map_of_mem held
      exact ⟨entry, held, namelessOfBlank (named.predefined entry.1 key) blank, rfl⟩
  · rintro ⟨entry, -, nameless, rfl⟩
    rw [macroNameSpliced]
    exact namelessName nameless
  · obtain ⟨groups, source⟩ := HeaderUnit.builtSource built
    exact source.arguments

def equalsFirst : Settings :=
  { Settings.default with
    headers := [⟨⟨"d"⟩, ["a.h"], false⟩]
    predefined := (∅ : Dictionary String).insert "=WIN" "1" }

theorem equalsFirstDefined :
    equalsFirst.Valid ∧ "=WIN=1" ∈ equalsFirst.macroDefinitions ∧ Text.IsBlank (macroName "=WIN=1") ∧
    ∃ unit, HeaderUnit.build .empty equalsFirst = .ok (some unit) ∧
      unit.arguments = equalsFirst.frontEndArguments ++ ["-Id"] ++ ["-D=WIN=1"] := by
  have valid : equalsFirst.Valid := by decide
  have listed : "=WIN=1" ∈ equalsFirst.macroDefinitions := by decide
  have nameless : Nameless "=WIN" := ⟨[], ['W', 'I', 'N'], rfl, nofun⟩
  obtain ⟨blank, arguments⟩ := definitionsNamed equalsFirst valid
  refine ⟨valid, listed, (blank _ listed).mpr ⟨("=WIN", "1"), List.mem_singleton_self _, nameless, rfl⟩,
    _, rfl, ?_⟩
  exact arguments .empty _ rfl

theorem validYetNameless :
    ¬∀ settings : Settings, settings.Valid →
      ∀ d ∈ settings.macroDefinitions, ¬Text.IsBlank (macroName d) := by
  intro named
  exact named equalsFirst (by decide) "=WIN=1" (by decide) (by decide)

end Settings

end HeaderOutline
