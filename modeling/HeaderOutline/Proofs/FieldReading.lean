import HeaderOutline.Settings.Reading

/-! Settings read entry by entry: what each field holds once a table could be read. -/
namespace HeaderOutline

variable {α β : Type}

theorem exceptBind {ε : Type} {result : Except ε α} {next : α → Except ε β} {b : β} :
    (result >>= next) = .ok b ↔ ∃ a, result = .ok a ∧ next a = .ok b := by
  cases result with
  | error e => simp [bind, Except.bind]
  | ok a => simp [bind, Except.bind]

theorem toOptionOk {ε : Type} {result : Except ε α} {a : α} : result.toOption = some a ↔ result = .ok a := by
  cases result <;> simp [Except.toOption]

namespace Reading

def Taken (read : Setting → Reading α) (builtIn : α) (given : Option Setting) (value : α) : Prop :=
  match given with
  | none => value = builtIn
  | some setting => read setting = .ok value

theorem takenOnly {read : Setting → Reading α} {builtIn a b : α} {given : Option Setting}
    (one : Taken read builtIn given a) (other : Taken read builtIn given b) : a = b := by
  cases given with
  | none => exact one.trans other.symm
  | some setting => exact Except.ok.inj (one.symm.trans other)

theorem belowOk {step : Setting.Step} {reading : Reading α} {a : α} :
    below step reading = .ok a ↔ reading = .ok a := by
  cases reading <;> simp [below]

theorem entryTaken {read : Setting → Reading α} {key : String} {entries : Setting.Entries} {given : Option α}
    (reads : entry? read key entries = .ok given) (builtIn : α) :
    Taken read builtIn (entries.lookup key) (given.getD builtIn) := by
  unfold entry? at reads
  cases found : entries.lookup key with
  | none =>
      rw [found] at reads
      cases reads
      rfl
  | some setting =>
      rw [found] at reads
      cases inner : below (.key key) (read setting) with
      | error misreading => simp [inner, Except.map] at reads
      | ok value =>
          simp only [inner, Except.map, Except.ok.injEq] at reads
          subst reads
          exact belowOk.mp inner

theorem takenEntry {read : Setting → Reading α} {key : String} {entries : Setting.Entries} {builtIn value : α}
    (taken : Taken read builtIn (entries.lookup key) value) :
    ∃ given, entry? read key entries = .ok given ∧ given.getD builtIn = value := by
  unfold entry?
  cases found : entries.lookup key with
  | none =>
      rw [found] at taken
      exact ⟨none, rfl, taken.symm⟩
  | some setting =>
      rw [found] at taken
      have inner : below (.key key) (read setting) = .ok value := belowOk.mpr taken
      exact ⟨some value, by simp [inner, Except.map], rfl⟩

def TextTaken (given : Option Setting) (held : Option String) : Prop :=
  Taken (fun setting => (text setting).map some) none given held

theorem textTaken {setting : Setting} {value : String} (reads : text setting = .ok value) :
    TextTaken (some setting) (some value) := by
  show (text setting).map some = _
  rw [reads]
  rfl

theorem pairsTaken {entries : Setting.Entries} {d : Dictionary String} (reads : pairs entries = .ok d)
    (name : String) : TextTaken (entries.lookup name) (d.get? name) := by
  induction entries generalizing d with
  | nil =>
      cases reads
      rfl
  | cons entry rest ih =>
      obtain ⟨key, setting⟩ := entry
      obtain ⟨value, here, reads⟩ := exceptBind.mp reads
      obtain ⟨others, later, reads⟩ := exceptBind.mp reads
      cases Except.ok.inj reads
      rw [lookupCons, Dictionary.getInsert]
      by_cases same : name = key
      · rw [if_pos same, if_pos same]
        exact textTaken (belowOk.mp here)
      · rw [if_neg same, if_neg same]
        exact ih later

theorem pairsTexts {entries : Setting.Entries} {d : Dictionary String} (reads : pairs entries = .ok d) :
    ∀ entry ∈ entries, ∃ value, text entry.2 = .ok value := by
  induction entries generalizing d with
  | nil => nofun
  | cons entry rest ih =>
      obtain ⟨key, setting⟩ := entry
      obtain ⟨value, here, reads⟩ := exceptBind.mp reads
      obtain ⟨others, later, reads⟩ := exceptBind.mp reads
      exact List.forall_mem_cons.mpr ⟨⟨value, belowOk.mp here⟩, ih later⟩

theorem textsPairs {entries : Setting.Entries} (texts : ∀ entry ∈ entries, ∃ value, text entry.2 = .ok value) :
    ∃ d, pairs entries = .ok d := by
  induction entries with
  | nil => exact ⟨∅, rfl⟩
  | cons entry rest ih =>
      obtain ⟨key, setting⟩ := entry
      obtain ⟨⟨value, here⟩, later⟩ := List.forall_mem_cons.mp texts
      obtain ⟨others, reads⟩ := ih later
      have below : below (.key key) (text setting) = .ok value := belowOk.mpr here
      exact ⟨others.insert key value, by simp [pairs, below, reads, bind, Except.bind]⟩

def Texts (setting : Setting) : Prop :=
  ∃ entries, setting = .table entries ∧ ∀ entry ∈ entries, ∃ value, text entry.2 = .ok value

theorem dictionaryTexts {setting : Setting} {d : Dictionary String} (reads : dictionary setting = .ok d) :
    Texts setting := by
  cases setting with
  | table entries => exact ⟨entries, rfl, pairsTexts reads⟩
  | scalar s => contradiction
  | list items => contradiction

end Reading

open Reading

namespace Settings

structure Given (given : String → Option Setting) (settings : Settings) : Prop where
  headers : Taken (sequence group) default.headers (given "headers") settings.headers
  includeDirs : Taken (sequence path) default.includeDirs (given "include_dirs") settings.includeDirs
  macros : Taken (sequence text) default.macros (given "macros") settings.macros
  frontEndArguments : Taken (sequence text) default.frontEndArguments (given "clang_args")
    settings.frontEndArguments
  inputName : Taken text default.inputName (given "input_name") settings.inputName
  indexSymbols : Taken boolean default.indexSymbols (given "index_symbols") settings.indexSymbols

theorem entriesGive {entries : Setting.Entries} {settings : Settings} (reads : ofEntries entries = .ok settings) :
    Given (entries.lookup ·) settings ∧
      Taken dictionary default.predefined (entries.lookup "predefined") settings.predefined := by
  obtain ⟨frontEndArguments, front, reads⟩ := exceptBind.mp reads
  obtain ⟨headers, groups, reads⟩ := exceptBind.mp reads
  obtain ⟨includeDirs, directories, reads⟩ := exceptBind.mp reads
  obtain ⟨indexSymbols, index, reads⟩ := exceptBind.mp reads
  obtain ⟨inputName, input, reads⟩ := exceptBind.mp reads
  obtain ⟨macros, listed, reads⟩ := exceptBind.mp reads
  obtain ⟨predefined, table, reads⟩ := exceptBind.mp reads
  cases Except.ok.inj reads
  exact ⟨⟨entryTaken groups _, entryTaken directories _, entryTaken listed _, entryTaken front _,
    entryTaken input _, entryTaken index _⟩, entryTaken table _⟩

theorem givenEntries {entries : Setting.Entries} {settings : Settings} (given : Given (entries.lookup ·) settings)
    (predefined : Taken dictionary default.predefined (entries.lookup "predefined") settings.predefined) :
    ofEntries entries = .ok settings := by
  obtain ⟨frontEndArguments, front, frontSame⟩ := takenEntry given.frontEndArguments
  obtain ⟨headers, groups, groupsSame⟩ := takenEntry given.headers
  obtain ⟨includeDirs, directories, directoriesSame⟩ := takenEntry given.includeDirs
  obtain ⟨indexSymbols, index, indexSame⟩ := takenEntry given.indexSymbols
  obtain ⟨inputName, input, inputSame⟩ := takenEntry given.inputName
  obtain ⟨macros, listed, listedSame⟩ := takenEntry given.macros
  obtain ⟨table, read, tableSame⟩ := takenEntry predefined
  simp only [ofEntries, front, groups, directories, index, input, listed, read, bind, Except.bind,
    groupsSame, directoriesSame, listedSame, tableSame, frontSame, inputSame, indexSame]

def fieldNames : List String :=
  ["clang_args", "headers", "include_dirs", "index_symbols", "input_name", "macros", "predefined"]

theorem namedRead {entries entries' : Setting.Entries}
    (same : ∀ key ∈ fieldNames, entries'.lookup key = entries.lookup key) :
    ofEntries entries' = ofEntries entries := by
  have entry {α : Type} (read : Setting → Reading α) {key : String} (listed : key ∈ fieldNames) :
      entry? read key entries' = entry? read key entries := by
    unfold entry?
    rw [same key listed]
  simp only [fieldNames, List.mem_cons, List.not_mem_nil, or_false] at entry
  simp only [ofEntries, entry, true_or, or_true]

end Settings

end HeaderOutline
