import HeaderOutline.Proofs.FieldReading
import HeaderOutline.Settings.Layer

/-! Settings that come from layers. Each field is what the highest layer that has it gives, whole; only of the
predefined macros each one is for itself. This is what reading the merged layers amounts to, once each layer
alone could be read. -/
namespace HeaderOutline

variable {α : Type}

namespace Setting

def Plain (setting : Setting) : Prop := ∀ entries, setting ≠ .table entries

theorem laidOverPlain (older : Setting) {newer : Setting} (plain : newer.Plain) :
    laidOver older newer = newer := by
  cases newer with
  | scalar s => rfl
  | list items => rfl
  | table entries => exact absurd rfl (plain entries)

theorem entriesOverPlain (older : Entries) {newer : Entries} {key : String}
    (plain : ∀ setting, newer.lookup key = some setting → setting.Plain) :
    (entriesOver older newer).lookup key = (newer.lookup key).or (older.lookup key) := by
  rw [entriesOverLookup]
  cases found : newer.lookup key with
  | none => rfl
  | some setting => cases older.lookup key with
    | none => rfl
    | some previous => simp [laidOverPlain previous (plain setting found)]

theorem insertEntryMember {key : String} {value : Setting} {entries : Entries} {entry : String × Setting}
    (listed : entry ∈ insertEntry key value entries) : entry = (key, value) ∨ entry ∈ entries := by
  induction entries with
  | nil => exact .inl (List.mem_singleton.mp listed)
  | cons first rest ih =>
      unfold insertEntry at listed
      split at listed
      · exact List.mem_cons.mp listed
      · split at listed
        · exact (List.mem_cons.mp listed).imp id (List.mem_cons_of_mem first)
        · rcases List.mem_cons.mp listed with rfl | later
          · exact .inr List.mem_cons_self
          · exact (ih later).imp id (List.mem_cons_of_mem first)

theorem entriesOverMember {older newer : Entries} (plain : ∀ entry ∈ newer, entry.2.Plain)
    {entry : String × Setting} (listed : entry ∈ entriesOver older newer) : entry ∈ older ∨ entry ∈ newer := by
  induction newer with
  | nil => exact .inl listed
  | cons first rest ih =>
      obtain ⟨key, value⟩ := first
      have whole (previous : Setting) : laidOver previous value = value :=
        laidOverPlain previous (plain (key, value) List.mem_cons_self)
      rw [entriesOver, entryOverEq] at listed
      have placed : entry ∈ insertEntry key value (entriesOver older rest) := by
        cases before : older.lookup key with
        | none => simpa [before] using listed
        | some previous => simpa [before, whole previous] using listed
      rcases insertEntryMember placed with rfl | under
      · exact .inr List.mem_cons_self
      · exact (ih (fun e held => plain e (List.mem_cons_of_mem _ held)) under).imp id
          (List.mem_cons_of_mem _)

theorem atStep (setting : Setting) (step : Step) (rest : List Step) :
    setting.at? (step :: rest) = (setting.next? step).bind fun next => next.at? rest := by
  rw [at?.eq_def]
  dsimp only
  cases setting.next? step <;> rfl

theorem atField (entries : Entries) (key : String) : (table entries).at? [.key key] = entries.lookup key := by
  rw [atStep]
  exact Option.bind_fun_some _

theorem atNamed (entries : Entries) (key name : String) :
    (table entries).at? [.key key, .key name] =
      (entries.lookup key).bind fun setting => setting.next? (.key name) := by
  rw [atStep]
  refine congrArg (Option.bind (entries.lookup key)) (funext fun setting => ?_)
  rw [atStep]
  exact Option.bind_fun_some _

end Setting

namespace Reading

theorem textPlain {expected : Expected} {setting : Setting} {value : String}
    (reads : textAs expected setting = .ok value) : setting.Plain := by
  rintro entries rfl
  contradiction

theorem booleanPlain {setting : Setting} {value : Bool} (reads : boolean setting = .ok value) :
    setting.Plain := by
  rintro entries rfl
  contradiction

theorem sequencePlain {read : Setting → Reading α} {setting : Setting} {values : List α}
    (reads : sequence read setting = .ok values) : setting.Plain := by
  rintro entries rfl
  contradiction

theorem textsPlain {entries : Setting.Entries} (texts : ∀ entry ∈ entries, ∃ value, text entry.2 = .ok value) :
    ∀ entry ∈ entries, entry.2.Plain := by
  intro entry listed
  obtain ⟨value, reads⟩ := texts entry listed
  exact textPlain reads

theorem textsOver {older newer : Setting.Entries} {key : String}
    (texts : ∀ setting, older.lookup key = some setting → Texts setting)
    (texts' : ∀ setting, newer.lookup key = some setting → Texts setting) :
    (∀ setting, (Setting.entriesOver older newer).lookup key = some setting → Texts setting) ∧
    ∀ name, (Setting.table (Setting.entriesOver older newer)).at? [.key key, .key name] =
      ((Setting.table newer).at? [.key key, .key name]).or
        ((Setting.table older).at? [.key key, .key name]) := by
  simp only [Setting.atNamed, Setting.entriesOverLookup]
  cases before : older.lookup key with
  | none =>
      cases now : newer.lookup key with
      | none => simp
      | some setting => simpa using texts' setting now
  | some previous =>
      cases now : newer.lookup key with
      | none => simpa using texts previous before
      | some setting =>
          obtain ⟨old, rfl, oldTexts⟩ := texts previous before
          obtain ⟨new, rfl, newTexts⟩ := texts' setting now
          have laid : Setting.laidOver (.table old) (.table new) = .table (Setting.entriesOver old new) := rfl
          have plain := textsPlain newTexts
          simp only [laid, Option.some.injEq, Option.bind_some, Setting.next?]
          refine ⟨?_, fun name => Setting.entriesOverPlain old fun setting found => plain _ (lookupListed found)⟩
          rintro setting rfl
          refine ⟨_, rfl, fun entry listed => ?_⟩
          rcases Setting.entriesOverMember plain listed with inOld | inNew
          · exact oldTexts entry inOld
          · exact newTexts entry inNew

end Reading

open Reading

namespace Layer

def highest? (layers : List Layer) (steps : List Setting.Step) : Option Setting :=
  layers.reverse.findSome? fun layer => (Setting.table layer.entries).at? steps

def Typed (layer : Layer) : Prop := (Settings.ofEntries layer.entries).isOk = true

instance (layer : Layer) : Decidable layer.Typed := inferInstanceAs (Decidable (_ = true))

theorem typedReads {layer : Layer} (typed : layer.Typed) :
    ∃ settings, Settings.ofEntries layer.entries = .ok settings := by
  unfold Typed at typed
  cases reads : Settings.ofEntries layer.entries with
  | error misreading => simp [reads, Except.isOk, Except.toBool] at typed
  | ok settings => exact ⟨settings, rfl⟩

theorem highestCons (layer : Layer) (rest : List Layer) (steps : List Setting.Step) :
    highest? (layer :: rest) steps = (highest? rest steps).or ((Setting.table layer.entries).at? steps) := by
  simp [highest?, List.findSome?_append]

theorem highestGiven {layers : List Layer} {key : String} {setting : Setting}
    (highest : highest? layers [.key key] = some setting) :
    ∃ layer ∈ layers, layer.entries.lookup key = some setting := by
  obtain ⟨layer, listed, given⟩ := List.exists_of_findSome?_eq_some highest
  rw [Setting.atField] at given
  exact ⟨layer, List.mem_reverse.mp listed, given⟩

variable {layers : List Layer} {key : String}

theorem overPlain (plain : ∀ layer ∈ layers, ∀ setting, layer.entries.lookup key = some setting → setting.Plain)
    (older : Setting.Entries) :
    (layers.foldl (fun older layer => Setting.entriesOver older layer.entries) older).lookup key =
      (highest? layers [.key key]).or (older.lookup key) := by
  induction layers generalizing older with
  | nil => rfl
  | cons layer rest ih =>
      obtain ⟨here, later⟩ := List.forall_mem_cons.mp plain
      rw [List.foldl_cons, ih later, highestCons, Setting.atField, Setting.entriesOverPlain older here,
        Option.or_assoc]

theorem overTexts (texts : ∀ layer ∈ layers, ∀ setting, layer.entries.lookup key = some setting → Texts setting)
    {older : Setting.Entries} (oldTexts : ∀ setting, older.lookup key = some setting → Texts setting) :
    let merged := layers.foldl (fun older layer => Setting.entriesOver older layer.entries) older
    (∀ setting, merged.lookup key = some setting → Texts setting) ∧
    ∀ name, (Setting.table merged).at? [.key key, .key name] =
      (highest? layers [.key key, .key name]).or ((Setting.table older).at? [.key key, .key name]) := by
  induction layers generalizing older with
  | nil => exact ⟨oldTexts, fun name => rfl⟩
  | cons layer rest ih =>
      obtain ⟨here, later⟩ := List.forall_mem_cons.mp texts
      obtain ⟨laidTexts, laidNames⟩ := textsOver oldTexts here
      obtain ⟨mergedTexts, mergedNames⟩ := ih later laidTexts
      refine ⟨mergedTexts, fun name => ?_⟩
      rw [List.foldl_cons, mergedNames, laidNames, highestCons, Option.or_assoc]

theorem highestTaken {read : Setting → Reading α} {builtIn : α}
    (reads : ∀ layer ∈ layers, ∃ value, Taken read builtIn (layer.entries.lookup key) value) :
    ∃ value, Taken read builtIn (highest? layers [.key key]) value := by
  cases highest : highest? layers [.key key] with
  | none => exact ⟨builtIn, rfl⟩
  | some setting =>
      obtain ⟨layer, listed, given⟩ := highestGiven highest
      obtain ⟨value, taken⟩ := reads layer listed
      rw [given] at taken
      exact ⟨value, taken⟩

theorem mergedTaken {read : Setting → Reading α} {builtIn : α}
    (plain : ∀ {setting value}, read setting = .ok value → setting.Plain)
    (reads : ∀ layer ∈ layers, ∃ value, Taken read builtIn (layer.entries.lookup key) value) :
    ∃ value, Taken read builtIn ((merged layers).lookup key) value ∧
      Taken read builtIn (highest? layers [.key key]) value := by
  have each : ∀ layer ∈ layers, ∀ setting, layer.entries.lookup key = some setting → setting.Plain := by
    intro layer listed setting given
    obtain ⟨value, taken⟩ := reads layer listed
    rw [given] at taken
    exact plain taken
  have whole : (merged layers).lookup key = highest? layers [.key key] :=
    (overPlain each []).trans Option.or_none
  obtain ⟨value, taken⟩ := highestTaken reads
  exact ⟨value, whole ▸ taken, taken⟩

theorem mergedTexts {builtIn : Dictionary String}
    (reads : ∀ layer ∈ layers, ∃ d, Taken dictionary builtIn (layer.entries.lookup key) d) :
    ∃ d, Taken dictionary ∅ ((merged layers).lookup key) d ∧
      ∀ name, TextTaken (highest? layers [.key key, .key name]) (d.get? name) := by
  have each : ∀ layer ∈ layers, ∀ setting, layer.entries.lookup key = some setting → Texts setting := by
    intro layer listed setting given
    obtain ⟨d, taken⟩ := reads layer listed
    rw [given] at taken
    exact dictionaryTexts taken
  -- Texts are never tables, so a table of texts is laid over another one name by name.
  have nothing : ∀ setting, ([] : Setting.Entries).lookup key = some setting → Texts setting := nofun
  obtain ⟨texts, names⟩ := overTexts each nothing
  have highest (name : String) : highest? layers [.key key, .key name] =
      ((merged layers).lookup key).bind fun setting => setting.next? (.key name) := by
    rw [← Setting.atNamed]
    exact ((names name).trans Option.or_none).symm
  cases held : (merged layers).lookup key with
  | none =>
      refine ⟨∅, rfl, fun name => ?_⟩
      rw [highest, held]
      rfl
  | some setting =>
      obtain ⟨entries, rfl, written⟩ := texts setting held
      obtain ⟨d, reads⟩ := textsPairs written
      refine ⟨d, reads, fun name => ?_⟩
      rw [highest, held]
      exact pairsTaken reads name

end Layer

/-- Settings as the layers give them. A field comes whole from the highest layer that has it; a predefined macro
comes from the highest layer that has a macro of its name. -/
structure Settings.Layered (layers : List Layer) (settings : Settings) : Prop where
  fields : Given (fun key => Layer.highest? layers [.key key]) settings
  predefined : ∀ name, TextTaken (Layer.highest? layers [.key "predefined", .key name])
    (settings.predefined.get? name)

namespace Settings

theorem layeredOnly {layers : List Layer} {a b : Settings} (one : Layered layers a) (other : Layered layers b) :
    a = b := by
  have headers := takenOnly one.fields.headers other.fields.headers
  have includeDirs := takenOnly one.fields.includeDirs other.fields.includeDirs
  have macros := takenOnly one.fields.macros other.fields.macros
  have frontEndArguments := takenOnly one.fields.frontEndArguments other.fields.frontEndArguments
  have inputName := takenOnly one.fields.inputName other.fields.inputName
  have indexSymbols := takenOnly one.fields.indexSymbols other.fields.indexSymbols
  have predefined : a.predefined = b.predefined :=
    Dictionary.eqOfGet fun name => takenOnly (one.predefined name) (other.predefined name)
  cases a
  cases b
  simp only at headers includeDirs macros frontEndArguments inputName indexSymbols predefined
  rw [headers, includeDirs, macros, frontEndArguments, inputName, indexSymbols, predefined]

theorem typedTaken {layers : List Layer} (typed : ∀ layer ∈ layers, layer.Typed) {read : Setting → Reading α}
    {builtIn : α} {key : String}
    (field : ∀ {entries : Setting.Entries} {settings : Settings}, ofEntries entries = .ok settings →
      ∃ value, Taken read builtIn (entries.lookup key) value) :
    ∀ layer ∈ layers, ∃ value, Taken read builtIn (layer.entries.lookup key) value := by
  intro layer listed
  obtain ⟨settings, reads⟩ := Layer.typedReads (typed layer listed)
  exact field reads

theorem mergedLayered {layers : List Layer} (typed : ∀ layer ∈ layers, layer.Typed) :
    ∃ settings, ofEntries (Layer.merged layers) = .ok settings ∧ Layered layers settings := by
  obtain ⟨headers, headersRead, headersTaken⟩ := Layer.mergedTaken sequencePlain <|
    typedTaken typed fun reads => ⟨_, (entriesGive reads).1.headers⟩
  obtain ⟨includeDirs, includeDirsRead, includeDirsTaken⟩ := Layer.mergedTaken sequencePlain <|
    typedTaken typed fun reads => ⟨_, (entriesGive reads).1.includeDirs⟩
  obtain ⟨macros, macrosRead, macrosTaken⟩ := Layer.mergedTaken sequencePlain <|
    typedTaken typed fun reads => ⟨_, (entriesGive reads).1.macros⟩
  obtain ⟨arguments, argumentsRead, argumentsTaken⟩ := Layer.mergedTaken sequencePlain <|
    typedTaken typed fun reads => ⟨_, (entriesGive reads).1.frontEndArguments⟩
  obtain ⟨inputName, inputNameRead, inputNameTaken⟩ := Layer.mergedTaken textPlain <|
    typedTaken typed fun reads => ⟨_, (entriesGive reads).1.inputName⟩
  obtain ⟨indexSymbols, indexSymbolsRead, indexSymbolsTaken⟩ := Layer.mergedTaken booleanPlain <|
    typedTaken typed fun reads => ⟨_, (entriesGive reads).1.indexSymbols⟩
  obtain ⟨predefined, predefinedRead, names⟩ := Layer.mergedTexts <|
    typedTaken typed fun reads => ⟨_, (entriesGive reads).2⟩
  exact ⟨⟨headers, includeDirs, macros, predefined, arguments, inputName, indexSymbols⟩,
    givenEntries ⟨headersRead, includeDirsRead, macrosRead, argumentsRead, inputNameRead, indexSymbolsRead⟩
      predefinedRead,
    ⟨headersTaken, includeDirsTaken, macrosTaken, argumentsTaken, inputNameTaken, indexSymbolsTaken⟩, names⟩

end Settings

end HeaderOutline
