import HeaderOutline.Proofs.FileChange
import HeaderOutline.Proofs.Layering
import HeaderOutline.Settings.Load

/-! What settings are loaded from. The user's file, the file that was asked for or else the project's, and the
environment give a layer each; all that counts of a layer is what it says of the fields. -/
namespace HeaderOutline

structure Layers where
  user : Option Layer
  own : Option Layer
  environment : Layer

namespace Layers

def all (layers : Layers) : List Layer := layers.user.toList ++ layers.own.toList ++ [layers.environment]

def read (tree : FileTree) (environment : Environment) (explicit : Option Path) : Except FileError Layers := do
  let user ← ((userFile? tree.home environment).bind tree.present?).mapM tree.layer
  let own ← (explicit.or (tree.present? projectFile)).mapM tree.layer
  .ok ⟨user, own, environment.layer⟩

def said (layer : Option Layer) : Setting.Entries := (layer.map Layer.entries).getD []

structure SameFields (layers other : Layers) : Prop where
  user : ∀ key ∈ Settings.fieldNames, (said other.user).lookup key = (said layers.user).lookup key
  own : ∀ key ∈ Settings.fieldNames, (said other.own).lookup key = (said layers.own).lookup key
  environment : ∀ key ∈ Settings.fieldNames,
    other.environment.entries.lookup key = layers.environment.entries.lookup key

end Layers

structure Unrelated (name : String) : Prop where
  home : name ≠ "HOME"
  configuration : name ≠ "XDG_CONFIG_HOME"
  field : ∀ key rest, Environment.keys? name = some (key :: rest) → key ∉ Settings.fieldNames

def soughtPaths (tree : FileTree) (environment : Environment) (path : Path) : List Path :=
  path :: match userFile? tree.home environment with
    | none => []
    | some file => file :: tree.upward file

def FileTree.projectPlace (tree : FileTree) : List String := tree.current ++ [projectFile.text]

namespace Layers

variable {tree : FileTree} {environment : Environment} {explicit : Option Path} {layers other : Layers}

theorem readLayersToList {file : Option Path} {layer : Option Layer} (reads : file.mapM tree.layer = .ok layer)
    {rest : List Path} {others : List Layer} (later : readLayers tree rest = (others, [])) :
    readLayers tree (file.toList ++ rest) = (layer.toList ++ others, []) := by
  cases file with
  | none =>
      cases reads
      exact later
  | some path =>
      cases held : tree.layer path with
      | error error => simp [held, Functor.map, Except.map] at reads
      | ok found =>
          have same : some found = layer := by simpa [held, Functor.map, Except.map] using reads
          subst same
          simp [readLayers, held, later]

theorem filesSought (tree : FileTree) (environment : Environment) (explicit : Option Path) :
    settingsFiles tree environment explicit = ((userFile? tree.home environment).bind tree.present?).toList ++
      (explicit.or (tree.present? projectFile)).toList := by
  cases explicit <;> rfl

theorem readLoads (reads : Layers.read tree environment explicit = .ok layers) :
    Settings.load tree environment explicit = Settings.ofLayers layers.all := by
  obtain ⟨user, userReads, reads⟩ := exceptBind.mp reads
  obtain ⟨own, ownReads, reads⟩ := exceptBind.mp reads
  cases Except.ok.inj reads
  have noFile : readLayers tree [] = ([], []) := rfl
  have ownLayers := readLayersToList ownReads noFile
  have fileLayers := readLayersToList userReads ownLayers
  rw [List.append_nil, List.append_nil] at fileLayers
  rw [Settings.load, filesSought, fileLayers]
  rfl

theorem saidHighest (layers : Layers) (key : String) (rest : List Setting.Step) :
    Layer.highest? layers.all (.key key :: rest) =
      (((layers.environment.entries.lookup key).bind fun setting => setting.at? rest).or
        (((said layers.own).lookup key).bind fun setting => setting.at? rest)).or
          (((said layers.user).lookup key).bind fun setting => setting.at? rest) := by
  obtain ⟨user, own, environment⟩ := layers
  have nothing : Layer.highest? [] (.key key :: rest) = none := rfl
  have step (layer : Layer) : (Setting.table layer.entries).at? (.key key :: rest) =
      (layer.entries.lookup key).bind fun setting => setting.at? rest := Setting.atStep _ _ _
  cases user <;> cases own <;> simp [all, Layer.highestCons, nothing, said, step]

theorem saidTyped (layers : Layers) : (∀ layer ∈ layers.all, layer.Typed) ↔
    (∀ entries ∈ [said layers.user, said layers.own, layers.environment.entries],
      (Settings.ofEntries entries).isOk) := by
  have nothing : (Settings.ofEntries []).isOk = true := rfl
  obtain ⟨user, own, environment⟩ := layers
  cases user <;> cases own <;> simp [all, said, Layer.Typed, nothing]

theorem sameTyped (same : layers.SameFields other) (typed : ∀ layer ∈ layers.all, layer.Typed) :
    ∀ layer ∈ other.all, layer.Typed := by
  rw [saidTyped] at typed ⊢
  simp only [List.forall_mem_cons] at typed ⊢
  rwa [Settings.namedRead same.user, Settings.namedRead same.own, Settings.namedRead same.environment]

theorem sameHighest (same : layers.SameFields other) {key : String} (field : key ∈ Settings.fieldNames)
    (rest : List Setting.Step) :
    Layer.highest? other.all (.key key :: rest) = Layer.highest? layers.all (.key key :: rest) := by
  simp only [saidHighest, same.user key field, same.own key field, same.environment key field]

theorem sameLayered (same : layers.SameFields other) {settings : Settings}
    (layered : Settings.Layered other.all settings) : Settings.Layered layers.all settings := by
  have field : ∀ key ∈ Settings.fieldNames, ∀ rest,
      Layer.highest? other.all (.key key :: rest) = Layer.highest? layers.all (.key key :: rest) :=
    fun key listed rest => sameHighest same listed rest
  simp only [Settings.fieldNames, List.forall_mem_cons] at field
  obtain ⟨frontEndArguments, headers, includeDirs, indexSymbols, inputName, macros, predefined, -⟩ := field
  obtain ⟨fields, names⟩ := layered
  refine ⟨⟨?_, ?_, ?_, ?_, ?_, ?_⟩, fun name => ?_⟩
  · exact headers [] ▸ fields.headers
  · exact includeDirs [] ▸ fields.includeDirs
  · exact macros [] ▸ fields.macros
  · exact frontEndArguments [] ▸ fields.frontEndArguments
  · exact inputName [] ▸ fields.inputName
  · exact indexSymbols [] ▸ fields.indexSymbols
  · exact predefined [.key name] ▸ names name

end Layers

namespace Environment

variable {key : String}

theorem keysNonempty (name : String) : keys? name ≠ some [] := by
  intro spelled
  unfold keys? at spelled
  dsimp only at spelled
  split at spelled
  · split at spelled
    · cases spelled
    · exact List.splitOn_ne_nil _ _ (List.map_eq_nil_iff.mp (Option.some.inj spelled))
  · cases spelled

theorem unrelatedEntries {name : String} (unrelated : Unrelated name) (field : key ∈ Settings.fieldNames)
    (value : String) : (entriesOf name value).lookup key = none := by
  unfold entriesOf
  split
  · rfl
  · rename_i keys spelled
    cases keys with
    | nil => exact absurd spelled (keysNonempty name)
    | cons first rest =>
        have other : key ≠ first := fun same => unrelated.field first rest spelled (same ▸ field)
        exact (lookupCons ..).trans (if_neg other)

theorem laterVariables (later : Environment) {entries entries' : Setting.Entries}
    (same : entries'.lookup key = entries.lookup key) :
    (later.foldl (fun entries (name, value) => Setting.entriesOver entries (entriesOf name value))
      entries').lookup key =
    (later.foldl (fun entries (name, value) => Setting.entriesOver entries (entriesOf name value))
      entries).lookup key := by
  induction later generalizing entries entries' with
  | nil => exact same
  | cons first rest ih =>
      refine ih ?_
      simp only [Setting.entriesOverLookup, same]

theorem insertedEntries {before after : Environment} {name : String} (unrelated : Unrelated name)
    (field : key ∈ Settings.fieldNames) (value : String) :
    (entries (before ++ (name, value) :: after)).lookup key = (entries (before ++ after)).lookup key := by
  rw [entries, entries, List.foldl_append, List.foldl_append, List.foldl_cons]
  -- What comes later is laid over key by key, so it is enough that no field has changed by then.
  refine laterVariables after ?_
  rw [Setting.entriesOverLookup, unrelatedEntries unrelated field]

theorem insertedLookup (before after : Environment) {name : String} (other : key ≠ name) (value : String) :
    (before ++ (name, value) :: after).lookup key = (before ++ after).lookup key := by
  rw [List.lookup_append, List.lookup_append, lookupCons, if_neg other]

theorem insertedUserFile {before after : Environment} {name : String} (unrelated : Unrelated name)
    (home : Option Path) (value : String) :
    userFile? home (before ++ (name, value) :: after) = userFile? home (before ++ after) := by
  have own := insertedLookup before after unrelated.home.symm value
  have configuration := insertedLookup before after unrelated.configuration.symm value
  simp only [userFile?, configurationDirectory?, configurationDirectory?.fromHome, own, configuration]

end Environment

section ProjectFile

variable {tree other : FileTree} {environment : Environment} {path : Path}

theorem sameLayers {files : List Path} (same : ∀ file ∈ files, other.layer file = tree.layer file) :
    readLayers other files = readLayers tree files := by
  induction files with
  | nil => rfl
  | cons file rest ih =>
      obtain ⟨here, later⟩ := List.forall_mem_cons.mp same
      rw [readLayers, readLayers, here, ih later]

theorem presentListed {file found : Path} (present : tree.present? file = some found) :
    found ∈ tree.upward file := by
  unfold FileTree.present? at present
  split at present
  · exact List.mem_of_find?_eq_some present
  · contradiction

theorem filesListed {file : Path} (listed : file ∈ settingsFiles tree environment (some path)) :
    file ∈ soughtPaths tree environment path := by
  rcases List.mem_append.mp listed with user | own
  · obtain ⟨asked, held, present⟩ := Option.bind_eq_some_iff.mp (Option.mem_toList.mp user)
    rw [soughtPaths, held]
    exact List.mem_cons_of_mem _ (List.mem_cons_of_mem _ (presentListed present))
  · cases List.mem_singleton.mp own
    exact List.mem_cons_self

theorem projectUnseen (alike : tree.AlikeBut tree.projectPlace other)
    (unseen : ∀ sought ∈ soughtPaths tree environment path, tree.projectPlace ∉ tree.lookedAt sought) :
    Settings.load other environment (some path) = Settings.load tree environment (some path) := by
  have outside : ¬tree.projectPlace <+: tree.current := by
    intro under
    have longer : tree.projectPlace.length = tree.current.length + 1 := List.length_append
    have shorter := under.length_le
    omega
  have agree : ∀ sought ∈ soughtPaths tree environment path,
      FileTree.Agree (tree.locate sought) (other.locate sought) :=
    fun sought listed => FileTree.locateAgree alike outside (unseen sought listed)
  have present : (userFile? tree.home environment).bind other.present? =
      (userFile? tree.home environment).bind tree.present? := by
    cases held : userFile? tree.home environment with
    | none => rfl
    | some file =>
        refine FileTree.presentSame alike fun candidate listed => agree candidate ?_
        rw [soughtPaths, held]
        exact List.mem_cons_of_mem _ listed
  have files : settingsFiles other environment (some path) = settingsFiles tree environment (some path) := by
    rw [settingsFiles, settingsFiles, alike.home, present]
  have layers : readLayers other (settingsFiles tree environment (some path)) =
      readLayers tree (settingsFiles tree environment (some path)) :=
    sameLayers fun file listed => FileTree.layerSame (agree file (filesListed listed))
  rw [Settings.load, Settings.load, files, layers]

end ProjectFile

namespace Settings

variable {tree : FileTree} {environment : Environment} {explicit : Option Path} {layers : Layers}

theorem mergedLoad (reads : Layers.read tree environment explicit = .ok layers)
    (typed : ∀ layer ∈ layers.all, layer.Typed) {merged : Settings} (layered : Layered layers.all merged) :
    load tree environment explicit = match merged.fault? with
      | none => .ok merged
      | some fault => .error (.invalid fault) := by
  obtain ⟨settings, mergedReads, settingsLayered⟩ := mergedLayered typed
  rw [Layers.readLoads reads, ofLayers, mergedReads, layeredOnly settingsLayered layered]
  dsimp only
  cases merged.fault? <;> rfl

theorem loadSame {tree' : FileTree} {environment' : Environment} {explicit' : Option Path} {layers' : Layers}
    (reads : Layers.read tree environment explicit = .ok layers) (typed : ∀ layer ∈ layers.all, layer.Typed)
    (reads' : Layers.read tree' environment' explicit' = .ok layers') (same : layers.SameFields layers') :
    load tree' environment' explicit' = load tree environment explicit := by
  have typed' := Layers.sameTyped same typed
  obtain ⟨merged, mergedReads, layered⟩ := mergedLayered typed'
  rw [mergedLoad reads' typed' layered, mergedLoad reads typed (Layers.sameLayered same layered)]

theorem loadInserted {before after : Environment} {name : String}
    (reads : Layers.read tree (before ++ after) explicit = .ok layers) (typed : ∀ layer ∈ layers.all, layer.Typed)
    (unrelated : Unrelated name) (value : String) :
    load tree (before ++ (name, value) :: after) explicit = load tree (before ++ after) explicit := by
  obtain ⟨user, userReads, rest⟩ := exceptBind.mp reads
  obtain ⟨own, ownReads, last⟩ := exceptBind.mp rest
  cases Except.ok.inj last
  have reads' : Layers.read tree (before ++ (name, value) :: after) explicit =
      .ok ⟨user, own, Environment.layer (before ++ (name, value) :: after)⟩ := by
    rw [Layers.read, Environment.insertedUserFile unrelated, userReads, ownReads]
    rfl
  exact loadSame reads typed reads' ⟨fun key _ => rfl, fun key _ => rfl,
    fun key field => Environment.insertedEntries unrelated field value⟩

/-- Settings are loaded when every layer could be read and is well typed: they are what the layers give field by
field, unless that is not valid. Nothing else counts: not what is said under other keys, and not the project's
file where another was asked for. A path that leads through the project's file does not ask for another. -/
theorem layeredLoad (reads : Layers.read tree environment explicit = .ok layers)
    (typed : ∀ layer ∈ layers.all, layer.Typed) :
    (∃! merged, Layered layers.all merged) ∧
    (∀ settings, load tree environment explicit = .ok settings ↔
      Layered layers.all settings ∧ settings.Valid) ∧
    (∀ merged fault, Layered layers.all merged → merged.fault? = some fault →
      load tree environment explicit = .error (.invalid fault)) ∧
    (∀ tree' environment' explicit' layers', Layers.read tree' environment' explicit' = .ok layers' →
      layers.SameFields layers' → load tree' environment' explicit' = load tree environment explicit) ∧
    (∀ before name value after, environment = before ++ after → Unrelated name →
      load tree (before ++ (name, value) :: after) explicit = load tree environment explicit) ∧
    (∀ path other, explicit = some path → tree.AlikeBut tree.projectPlace other →
      (∀ sought ∈ soughtPaths tree environment path, tree.projectPlace ∉ tree.lookedAt sought) →
      load other environment explicit = load tree environment explicit) := by
  obtain ⟨merged, -, layered⟩ := mergedLayered typed
  have loaded := mergedLoad reads typed layered
  refine ⟨⟨merged, layered, fun other layered' => layeredOnly layered' layered⟩, fun settings => ?_,
    fun settings fault layered' faulty => ?_, fun tree' environment' explicit' layers' => loadSame reads typed, ?_, ?_⟩
  · rw [loaded]
    constructor
    · intro succeeded
      cases valid : merged.fault? with
      | none =>
          rw [valid] at succeeded
          cases succeeded
          exact ⟨layered, valid⟩
      | some fault => simp [valid] at succeeded
    · rintro ⟨layered', valid⟩
      rw [layeredOnly layered layered', show settings.fault? = none from valid]
  · rw [loaded, layeredOnly layered layered', faulty]
  · rintro before name value after rfl unrelated
    exact loadInserted reads typed unrelated value
  · rintro path other rfl alike unseen
    exact projectUnseen alike unseen

def twoFiles : FileTree :=
  { root := .directory {}
      [("home", .directory {} [(".config", .directory {} [("cxxmeta", .directory {}
        [("config.toml", .file (.ok "macros = [\"U\"]\n[predefined]\nA = \"1\"\nB = \"1\"\n".toUTF8))])])]),
       ("w", .directory {}
        [("own.toml", .file (.ok "macros = [\"O\"]\nunknown = 1\n[predefined]\nB = \"2\"\n".toUTF8))])]
    current := ["w"] }

def twoVariables : Environment := [("HOME", "/home"), ("CXXMETA_INPUT_NAME", "e.h")]

def fromThreeLayers : Settings :=
  { default with
    macros := ["O"]
    inputName := "e.h"
    predefined := ((∅ : Dictionary String).insert "A" "1").insert "B" "2" }

theorem threeLayersLoaded : ∃ layers, Layers.read twoFiles twoVariables (some ⟨"own.toml"⟩) = .ok layers ∧
    (∀ layer ∈ layers.all, layer.Typed) ∧ Layered layers.all fromThreeLayers ∧ fromThreeLayers.Valid ∧
    load twoFiles (("CXXMETA_LOG", "debug") :: twoVariables) (some ⟨"own.toml"⟩) = .ok fromThreeLayers ∧
    load { twoFiles with root := (FileNode.file (.ok "[".toUTF8)).put ["w", "cxxmeta.toml"] twoFiles.root }
      twoVariables (some ⟨"own.toml"⟩) = .ok fromThreeLayers := by
  have held : ((Layers.read twoFiles twoVariables (some ⟨"own.toml"⟩)).toOption.map fun layers =>
      decide (∀ layer ∈ layers.all, layer.Typed)) = some true := by decide +kernel
  obtain ⟨layers, found, decided⟩ := Option.map_eq_some_iff.mp held
  have reads := toOptionOk.mp found
  have typed := of_decide_eq_true decided
  have loaded : load twoFiles twoVariables (some ⟨"own.toml"⟩) = .ok fromThreeLayers :=
    toOptionOk.mp (by decide +kernel)
  obtain ⟨-, succeeds, -, -, inserted, elsewhere⟩ := layeredLoad reads typed
  obtain ⟨layered, valid⟩ := (succeeds fromThreeLayers).mp loaded
  have log : Unrelated "CXXMETA_LOG" := by
    refine ⟨by decide, by decide, fun key rest spelled => ?_⟩
    rw [show Environment.keys? "CXXMETA_LOG" = some ["log"] by decide +kernel] at spelled
    cases spelled
    decide
  obtain ⟨entries, work⟩ : ∃ entries, twoFiles.root.at? ["w"] = some (.directory {} entries) := ⟨_, rfl⟩
  have written : twoFiles.AlikeBut twoFiles.projectPlace
      { twoFiles with root := (FileNode.file (.ok "[".toUTF8)).put ["w", "cxxmeta.toml"] twoFiles.root } :=
    ⟨rfl, rfl, FileNode.putAlike work "cxxmeta.toml" (.file (.ok "[".toUTF8))⟩
  refine ⟨layers, reads, typed, layered, valid, ?_, ?_⟩
  · exact (inserted [] _ "debug" twoVariables rfl log).trans loaded
  · exact (elsewhere _ _ rfl written (by decide +kernel)).trans loaded

end Settings

end HeaderOutline
