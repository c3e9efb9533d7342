import HeaderOutline.Proofs.LiteralTexts
import HeaderOutline.Proofs.ValidSettings
import HeaderOutline.Proofs.VariableNames
import HeaderOutline.Settings.Load

/-! One variable that names a macro in the section of the predefined ones, and nothing else that settings come
from. It defines the macro, up to case, with the text that its value is read as. Any text can be written so. A
value of another type is refused, and a name with two underlines in a row leads too far down to define anything. -/
namespace HeaderOutline

structure OnlyVariable (tree : FileTree) (environment : Environment) (spelling value : String) : Prop where
  userFile : ∀ path ∈ userFile? tree.home environment, tree.has path = false
  projectFile : tree.has projectFile = false
  listed : ∃ before after, environment = before ++ (spelling, value) :: after ∧
    ∀ other ∈ before ++ after, Environment.keys? other.1 = none

namespace Environment

theorem silentEntries {environment : Environment} (silent : ∀ other ∈ environment, keys? other.1 = none)
    (entries : Setting.Entries) :
    environment.foldl (fun entries (name, value) => Setting.entriesOver entries (entriesOf name value)) entries =
      entries := by
  induction environment with
  | nil => rfl
  | cons first rest ih =>
      obtain ⟨name, value⟩ := first
      obtain ⟨here, later⟩ := List.forall_mem_cons.mp silent
      have nothing : entriesOf name value = [] := by rw [entriesOf, here]
      simp only [List.foldl_cons, nothing]
      exact ih later

theorem onlyEntries {tree : FileTree} {environment : Environment} {spelling value : String}
    (only : OnlyVariable tree environment spelling value) :
    environment.entries = Setting.entriesOver [] (entriesOf spelling value) := by
  obtain ⟨before, after, rfl, silent⟩ := only.listed
  rw [List.forall_mem_append] at silent
  rw [entries, List.foldl_append, silentEntries silent.1, List.foldl_cons, silentEntries silent.2]

end Environment

namespace Settings

variable {tree : FileTree} {environment : Environment} {spelling value : String}

theorem onlyLoad (only : OnlyVariable tree environment spelling value) :
    load tree environment none = ofLayers [environment.layer] := by
  have absent {path : Path} (missing : tree.has path = false) : tree.present? path = none := by
    simp [FileTree.present?, missing]
  have user : (userFile? tree.home environment).bind tree.present? = none :=
    Option.bind_eq_none_iff.mpr fun path asked => absent (only.userFile path asked)
  have files : settingsFiles tree environment none = [] := by
    rw [settingsFiles, user, absent only.projectFile]
    rfl
  rw [load, files]
  rfl

theorem soleEntry (key : String) (setting : Setting) :
    Setting.entriesOver [] [(key, setting)] = [(key, setting)] := by
  rw [Setting.entriesOver, Setting.entryOverEq]
  rfl

def predefining (key text : String) : Settings :=
  { default with predefined := (∅ : Dictionary String).insert key text }

theorem textMisread {setting : Setting} {misreading : Misreading}
    (refused : Reading.text setting = .error misreading) : misreading = ⟨[], .wrongType setting .text⟩ := by
  unfold Reading.text Reading.textAs at refused
  split at refused
  · contradiction
  · contradiction
  · exact (Except.error.inj refused).symm

theorem predefinedRead (key : String) (setting : Setting) :
    ofEntries [("predefined", .table [(key, setting)])] = match Reading.text setting with
      | .ok text => .ok (predefining key text)
      | .error _ => .error ⟨[.key "predefined", .key key], .wrongType setting .text⟩ := by
  simp only [ofEntries, Reading.entry?, lookupCons]
  cases read : Reading.text setting with
  | ok text =>
      simp [Reading.dictionary, Reading.pairs, Reading.below, read, bind, Except.bind, Except.map, predefining]
  | error misreading =>
      simp [Reading.dictionary, Reading.pairs, Reading.below, read, bind, Except.bind, Except.map,
        textMisread read]

theorem predefiningValid {key : String} (solid : ¬Text.IsBlank key) (text : String) :
    (predefining key text).Valid := by
  have keys : (predefining key text).predefined.keys = [key] := rfl
  refine validNamed.mpr ⟨?_, nofun, ?_, nofun⟩
  · show ¬Text.IsBlank default.inputName
    decide
  · simpa [keys] using solid

theorem predefinedLoad (only : OnlyVariable tree environment spelling value) {key : String} {setting : Setting}
    (entries : Environment.entriesOf spelling value = [("predefined", .table [(key, setting)])])
    (solid : ∀ text, Reading.text setting = .ok text → ¬Text.IsBlank key) :
    load tree environment none = match Reading.text setting with
      | .ok text => .ok (predefining key text)
      | .error _ => .error (.misread ⟨[.key "predefined", .key key], .wrongType setting .text⟩
          (some .environment)) := by
  have layer : environment.layer = ⟨.environment, [("predefined", .table [(key, setting)])]⟩ := by
    rw [Environment.layer, Environment.onlyEntries only, entries, soleEntry]
  have merged : Layer.merged [environment.layer] = [("predefined", .table [(key, setting)])] := by
    rw [layer]
    exact soleEntry _ _
  have origin : Layer.origin? [environment.layer] [.key "predefined", .key key] = some .environment := by
    rw [layer]
    simp [Layer.origin?, Layer.has, Setting.at?, Setting.next?]
  rw [onlyLoad only, ofLayers, merged, predefinedRead]
  cases read : Reading.text setting with
  | ok text =>
      have valid : (predefining key text).fault? = none := predefiningValid (solid text read) text
      simp only [valid]
  | error misreading => simp only [origin]

theorem nothingLoaded (only : OnlyVariable tree environment spelling value)
    (nothing : Environment.keys? spelling = none) : load tree environment none = .ok default := by
  have layer : environment.layer = ⟨.environment, []⟩ := by
    rw [Environment.layer, Environment.onlyEntries only, Environment.entriesOf, nothing]
    rfl
  have valid : default.fault? = none := by decide
  have read : ofEntries (Layer.merged [environment.layer]) = .ok default := by
    rw [layer]
    rfl
  rw [onlyLoad only, ofLayers, read]
  simp only [valid]

variable {name : String}

theorem definedLoad (identifier : IsIdentifier name) (apart : ¬['_', '_'] <:+: name.toList)
    (only : OnlyVariable tree environment (predefinedVariable name) value) :
    load tree environment none = match Reading.text (Literal.read value) with
      | .ok text => .ok (predefining (Environment.macroKey name) text)
      | .error _ => .error (.misread
          ⟨[.key "predefined", .key (Environment.macroKey name)], .wrongType (Literal.read value) .text⟩
          (some .environment)) := by
  have entries : Environment.entriesOf (predefinedVariable name) value =
      [("predefined", .table [(Environment.macroKey name, Literal.read value)])] := by
    rw [Environment.entriesOf, Environment.keysWhole identifier apart]
    rfl
  exact predefinedLoad only entries fun _ _ => macroKeySolid identifier

theorem dividedLoad (identifier : IsIdentifier name) (pair : ['_', '_'] <:+: name.toList)
    (only : OnlyVariable tree environment (predefinedVariable name) value) {settings : Settings}
    (loaded : load tree environment none = .ok settings) : settings.macroDefinitions = [] := by
  rcases Environment.keysDivided identifier pair with nothing | ⟨first, second, rest, keys⟩
  · rw [nothingLoaded only nothing] at loaded
    cases loaded
    rfl
  · have entries : Environment.entriesOf (predefinedVariable name) value =
        [("predefined", .table [(first, .under (second :: rest) (Literal.read value))])] := by
      rw [Environment.entriesOf, keys]
      rfl
    rw [predefinedLoad only entries nofun] at loaded
    contradiction

end Settings

theorem predefinedFromVariable {tree : FileTree} {environment : Environment} {name value : String}
    (identifier : IsIdentifier name) (only : OnlyVariable tree environment (predefinedVariable name) value) :
    (¬['_', '_'] <:+: name.toList → ∃ spelled, SameLetters spelled name ∧
      ((∀ c ∈ name.toList, c.isUpper = false) → spelled = name) ∧
      (∀ text, Reading.text (Literal.read value) = .ok text → ∃ settings,
        Settings.load tree environment none = .ok settings ∧
          settings.macroDefinitions = [spelled ++ "=" ++ text]) ∧
      ((∀ text, Reading.text (Literal.read value) ≠ .ok text) → Settings.load tree environment none =
        .error (.misread ⟨[.key "predefined", .key spelled], .wrongType (Literal.read value) .text⟩
          (some .environment)))) ∧
    (['_', '_'] <:+: name.toList → ∀ settings, Settings.load tree environment none = .ok settings →
      settings.macroDefinitions = []) ∧
    (∀ text, value = Literal.quotation text → Literal.read value = .text text) ∧
    (Literal.IsWord value.toList → Literal.read value = .text value) := by
  refine ⟨fun apart => ⟨Environment.macroKey name, macroKeyLetters name, macroKeyLow, ?_, ?_⟩,
    fun pair settings => Settings.dividedLoad identifier pair only, ?_, ?_⟩
  · intro text read
    have loaded := Settings.definedLoad identifier apart only
    rw [read] at loaded
    exact ⟨_, loaded, rfl⟩
  · intro unread
    have loaded := Settings.definedLoad identifier apart only
    cases read : Reading.text (Literal.read value) with
    | ok text => exact absurd read (unread text)
    | error misreading => rwa [read] at loaded
  · intro text quoted
    rw [quoted, Literal.readQuotation]
  · intro word
    have read := Literal.readWord word
    rwa [String.ofList_toList] at read

theorem quotedNumberDefined :
    IsIdentifier "_win64" ∧
    OnlyVariable .empty [("HOME", "/home"), (predefinedVariable "_win64", Literal.quotation "1")]
      (predefinedVariable "_win64") (Literal.quotation "1") ∧
    ¬['_', '_'] <:+: "_win64".toList ∧ Reading.text (Literal.read (Literal.quotation "1")) = .ok "1" ∧
    ∃ settings, Settings.load .empty
        [("HOME", "/home"), (predefinedVariable "_win64", Literal.quotation "1")] none = .ok settings ∧
      settings.macroDefinitions = ["_win64=1"] := by
  have identifier : IsIdentifier "_win64" := identifierSpelled rfl (by decide) (by decide)
  have file : userFile? FileTree.empty.home
      [("HOME", "/home"), (predefinedVariable "_win64", Literal.quotation "1")] =
      some ⟨"/home/.config/cxxmeta/config.toml"⟩ := by decide +kernel
  have only : OnlyVariable .empty [("HOME", "/home"), (predefinedVariable "_win64", Literal.quotation "1")]
      (predefinedVariable "_win64") (Literal.quotation "1") := by
    refine ⟨fun path asked => ?_, by decide +kernel, [("HOME", "/home")], [], rfl, by decide +kernel⟩
    rw [file] at asked
    cases asked
    decide +kernel
  have apart : ¬['_', '_'] <:+: "_win64".toList := by decide
  obtain ⟨defined, -, quoted, -⟩ := predefinedFromVariable identifier only
  have read : Reading.text (Literal.read (Literal.quotation "1")) = .ok "1" := by
    rw [quoted "1" rfl]
    rfl
  obtain ⟨spelled, -, asNamed, loads, -⟩ := defined apart
  obtain ⟨settings, loaded, definitions⟩ := loads "1" read
  rw [asNamed (List.all_iff_forall_prop.mp (by decide))] at definitions
  exact ⟨identifier, only, apart, read, settings, loaded, definitions⟩

def NotAsSpelled (name value : String) : Prop :=
  IsIdentifier name ∧
  OnlyVariable .empty [(predefinedVariable name, value)] (predefinedVariable name) value ∧
  ¬∃ settings, Settings.load .empty [(predefinedVariable name, value)] none = .ok settings ∧
    settings.macroDefinitions = [name ++ "=" ++ value]

theorem notAsSpelledBy {name value : String} (identifier : IsIdentifier name)
    (files : userFile? FileTree.empty.home [(predefinedVariable name, value)] = none)
    (other : (Settings.load .empty [(predefinedVariable name, value)] none).toOption.map
      Settings.macroDefinitions ≠ some [name ++ "=" ++ value]) : NotAsSpelled name value := by
  refine ⟨identifier, ⟨?_, by decide +kernel, [], [], rfl, nofun⟩, ?_⟩
  · rw [files]
    nofun
  · rintro ⟨settings, loaded, definitions⟩
    rw [loaded] at other
    exact other (congrArg some definitions)

/- Two underlines in a row lead to a table, a number is no text, quotes are taken off, and case is lost. -/
theorem variablesRespelled : NotAsSpelled "api__level" "on" ∧ NotAsSpelled "level" "1" ∧
    NotAsSpelled "level" "\"on\"" ∧ NotAsSpelled "LEVEL" "on" := by
  have level : IsIdentifier "level" := identifierSpelled rfl (by decide) (by decide)
  have divided : IsIdentifier "api__level" := identifierSpelled rfl (by decide) (by decide)
  have capital : IsIdentifier "LEVEL" := identifierSpelled rfl (by decide) (by decide)
  refine ⟨notAsSpelledBy divided ?_ ?_, notAsSpelledBy level ?_ ?_, notAsSpelledBy level ?_ ?_,
    notAsSpelledBy capital ?_ ?_⟩
  all_goals decide +kernel

end HeaderOutline
