import HeaderOutline.Proofs.OutlineData
import HeaderOutline.Settings.Json

/-! Settings are read back from their data, and data that is read restates what it is read from. -/
namespace HeaderOutline

theorem insertEntryPerm {α : Type} {key : String} {value : α} {entries : List (String × α)}
    (fresh : key ∉ entries.map Prod.fst) : (insertEntry key value entries).Perm ((key, value) :: entries) := by
  induction entries with
  | nil => exact .refl _
  | cons entry rest ih =>
      rw [List.map_cons, List.mem_cons, not_or] at fresh
      unfold insertEntry
      split
      · exact .refl _
      · rw [if_neg fresh.1]
        exact ((ih fresh.2).cons entry).trans (.swap _ _ rest)

namespace Dictionary
variable {α : Type}

theorem insertAllPerm {entries : List (String × α)} {d : Dictionary α}
    (distinct : ((d.entries ++ entries).map Prod.fst).Nodup) :
    (entries.foldl (fun d entry => d.insert entry.1 entry.2) d).entries.Perm (d.entries ++ entries) := by
  induction entries generalizing d with
  | nil => simp
  | cons entry rest ih =>
      have apart := distinct
      rw [List.map_append, List.map_cons] at apart
      have fresh : entry.1 ∉ d.entries.map Prod.fst := fun known =>
        List.disjoint_of_nodup_append apart known List.mem_cons_self
      have inserted : ((d.insert entry.1 entry.2).entries ++ rest).Perm (d.entries ++ entry :: rest) :=
        ((insertEntryPerm fresh).append_right rest).trans List.perm_middle.symm
      exact (ih ((inserted.map Prod.fst).nodup_iff.mpr distinct)).trans inserted

theorem ofListPerm {entries : List (String × α)} (distinct : (entries.map Prod.fst).Nodup) :
    (ofList entries).entries.Perm entries :=
  insertAllPerm (d := ∅) distinct

theorem eqOfEntries {d e : Dictionary α} (same : d.entries = e.entries) : d = e := by
  cases d
  cases e
  cases same
  rfl

theorem ofListEntries (d : Dictionary α) : ofList d.entries = d :=
  eqOfEntries <| (ofListPerm d.distinctKeys).eq_of_pairwise
    (fun _ _ _ _ before after => absurd (String.lt_trans before after) (String.lt_irrefl _))
    (ofList d.entries).ascending d.ascending

end Dictionary

theorem Path.reads (path : Path) : ofJson? path.json = some path := rfl

theorem stringsRead (values : List String) : Json.list? Json.str? (.strings values) = some values :=
  listReads fun _ _ => rfl

theorem HeaderGroup.reads (group : HeaderGroup) : ofJson? group.json = some group := by
  simp [ofJson?, json, Json.fields?, lookupCons, Fields.withDefault, Fields.get?, Path.reads,
    stringsRead, Json.bool?]

namespace Settings

def textEntry (entry : String × String) : String × Json := (entry.1, .str entry.2)

theorem predefinedReads (d : Dictionary String) :
    predefinedOfJson? (.obj (d.entries.map textEntry)) = some d := by
  have each : (d.entries.map textEntry).mapM textField? = some d.entries := mapMReads fun _ _ => rfl
  rw [predefinedOfJson?, each, Option.map_some, d.ofListEntries]

theorem reads (settings : Settings) : ofJson? settings.json = some settings := by
  have groups : Json.list? HeaderGroup.ofJson? (.arr (settings.headers.map HeaderGroup.json)) =
      some settings.headers := listReads fun group _ => group.reads
  have paths : Json.list? Path.ofJson? (.arr (settings.includeDirs.map Path.json)) =
      some settings.includeDirs := listReads fun path _ => path.reads
  have predefined := predefinedReads settings.predefined
  unfold textEntry at predefined
  simp [ofJson?, json, Json.fields?, lookupCons, Fields.withDefault, Fields.get?, groups, paths,
    predefined, stringsRead, Json.str?, Json.bool?]

end Settings

section Faithful
variable {respelled : Json → String → Prop}

theorem Path.faithful (path : Path) : Faithful respelled .text ofJson? json path := by
  intro v written reads
  obtain ⟨s, spelled, rfl⟩ := Option.map_eq_some_iff.mp reads
  exact textFaithful s v written spelled

theorem HeaderGroup.faithful (group : HeaderGroup) :
    Faithful respelled Form.headerGroup ofJson? json group := by
  intro v written reads
  obtain ⟨old, rfl⟩ := writtenObject written
  simp only [ofJson?, Json.fields?, bind, Option.bind_some, Option.bind_eq_some_iff] at reads
  obtain ⟨directory, directoryRead, headers, headersRead, discover, discoverRead, last⟩ := reads
  obtain rfl := Option.some.inj last
  exact restatesRecord written (by decide)
    (.cons (requiredCarries directory.faithful directoryRead)
      (.cons (withDefaultListCarries (fun s _ => textFaithful s) headersRead)
        (.cons (withDefaultCarries (flagFaithful discover) discoverRead) .nil)))

namespace Settings

theorem textFieldTaken {field : String × Json} {entry : String × String}
    (taken : textField? field = some entry) : field = textEntry entry := by
  obtain ⟨name, json⟩ := field
  obtain ⟨value, spelled, rfl⟩ := Option.map_eq_some_iff.mp taken
  cases json <;> simp_all [Json.str?, textEntry]

theorem predefinedFaithful (d : Dictionary String) :
    Faithful respelled .table predefinedOfJson? (fun d => .obj (d.entries.map textEntry)) d := by
  intro v written reads
  cases written with
  | @table old distinct =>
    obtain ⟨entries, taken, rfl⟩ := Option.map_eq_some_iff.mp reads
    have same : old = entries.map textEntry := by
      rw [← List.forall₂_eq_eq_eq, List.forall₂_map_right_iff]
      exact (mapMPairs taken).imp fun _ _ => textFieldTaken
    have keys : old.map Prod.fst = entries.map Prod.fst := by
      rw [same, List.map_map]
      rfl
    rw [keys] at distinct
    rw [same]
    exact .table ((Dictionary.ofListPerm distinct).symm.map textEntry)

theorem faithful (settings : Settings) : Faithful respelled Form.settings ofJson? json settings := by
  intro v written reads
  obtain ⟨old, rfl⟩ := writtenObject written
  simp only [ofJson?, Json.fields?, bind, Option.bind_some, Option.bind_eq_some_iff] at reads
  obtain ⟨headers, headersRead, includeDirs, includeDirsRead, macros, macrosRead, predefined,
    predefinedRead, arguments, argumentsRead, inputName, inputNameRead, indexSymbols, indexSymbolsRead,
    last⟩ := reads
  obtain rfl := Option.some.inj last
  have table : Faithful respelled .table predefinedOfJson? _ predefined := predefinedFaithful predefined
  have predefinedCarried := withDefaultCarries table predefinedRead
  exact restatesRecord written (by decide)
    (.cons (withDefaultListCarries (fun group _ => group.faithful) headersRead)
      (.cons (withDefaultListCarries (fun path _ => path.faithful) includeDirsRead)
        (.cons (withDefaultListCarries (fun s _ => textFaithful s) macrosRead)
          (.cons predefinedCarried
            (.cons (withDefaultListCarries (fun s _ => textFaithful s) argumentsRead)
              (.cons (withDefaultCarries (textFaithful inputName) inputNameRead)
                (.cons (withDefaultCarries (flagFaithful indexSymbols) indexSymbolsRead) .nil)))))))

end Settings

end Faithful

end HeaderOutline
