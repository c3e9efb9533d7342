import HeaderOutline.Proofs.Correspondence

/-! A class, struct or enumeration key in the index that an extraction leaves behind. It leads to the
declaration of the last definition of that type in scope position, a class before a struct. -/
namespace HeaderOutline

def Slot.kind : Slot → CursorKind
  | ns => .ns
  | record .cls => .classDecl
  | record .struct => .structDecl
  | enum => .enumDecl

def Site.Defines (kind : CursorKind) (key : String) (site : Site) : Prop :=
  site.head.kind = kind ∧ site.head.isDefinition = true ∧ site.head.typeSpelling = key

instance (kind key site) : Decidable (Site.Defines kind key site) := by
  unfold Site.Defines
  infer_instance

def Cursor.latest? (root : Cursor) (kind : CursorKind) (key : String) : Option Site :=
  (root.scopeSites.filter (Site.Defines kind key ·)).getLast?

def Cursor.latestRecord? (root : Cursor) (key : String) : Option Site :=
  (root.latest? .classDecl key).or (root.latest? .structDecl key)

def Cursor.record (c : Cursor) : Record :=
  ⟨⟨c.head.name, c.head.typeSpelling, (Extraction.members c).filterMap Extraction.Member.base?, false⟩,
    (Extraction.members c).filterMap Extraction.Member.declared?⟩

theorem enteredDefinition {scope : List String} {slot : Slot} {key : String} {site : Site}
    (other : slot ≠ .ns) : site.Entered scope slot key ↔ site.Defines slot.kind key := by
  unfold Site.Entered Site.Defines Site.slot? Site.key
  rcases slot with _ | classKey | _
  · contradiction
  · cases classKey <;> cases kind : site.head.kind <;> simp [Slot.kind]
  · cases kind : site.head.kind <;> simp [Slot.kind]

theorem freshLatest (root : Cursor) (scope : List String) (slot : Slot) (other : slot ≠ .ns)
    (key : String) : (Extraction.freshIndex scope root).latest? slot key =
      (root.latest? slot.kind key).map Site.position := by
  have entered : root.scopeSites.filter (Site.Entered scope slot key ·) =
      root.scopeSites.filter (Site.Defines slot.kind key ·) :=
    List.filter_congr fun site _ => decide_eq_decide.mpr (enteredDefinition other)
  have logs : logged slot key (root.indexEntries scope) =
      (root.scopeSites.filter (Site.Defines slot.kind key ·)).map Site.position := by
    rw [← entered, indexEntriesLogged]
  rw [Extraction.freshIndex, SymbolIndex.latestAddAll, SymbolIndex.latestEmpty, Option.or_none, logs,
    List.getLast?_map]
  rfl

theorem siteFound {root : Cursor} {site : Site} (listed : site ∈ root.scopeSites) {d : Declaration}
    (declared : site.cursor.declaration? = some d) (context : Context) :
    (extract root context).outline.at? site.position = some d := by
  have placed : Place.mk site.position site.enclosing false d ∈ root.scopeSites.filterMap Site.place? :=
    List.mem_filterMap.mpr ⟨site, listed, by rw [Site.place?, declared]; rfl⟩
  rw [scopePlaces root context] at placed
  exact Outline.placeFound (List.mem_filter.mp placed).1

theorem latestDefined {root : Cursor} {kind : CursorKind} {key : String} {site : Site}
    (latest : root.latest? kind key = some site) :
    site ∈ root.scopeSites ∧ site.head.inSystemHeader = false ∧ site.Defines kind key := by
  obtain ⟨listed, defined⟩ := List.mem_filter.mp (List.mem_of_getLast? latest)
  exact ⟨listed, (sitesInside [] 0 [] root.children site listed).1, of_decide_eq_true defined⟩

theorem recordDeclared {c : Cursor} {key : ClassKey} (user : c.head.inSystemHeader = false)
    (kind : c.head.kind = key.cursorKind) : c.declaration? = some (Extraction.record key c) := by
  obtain ⟨head, children⟩ := c
  replace user : head.inSystemHeader = false := user
  replace kind : head.kind = key.cursorKind := kind
  cases key <;> simp [Cursor.declaration?, user, kind, ClassKey.cursorKind]

theorem enumDeclared {c : Cursor} (user : c.head.inSystemHeader = false) (kind : c.head.kind = .enumDecl) :
    c.declaration? = some (.enum (Extraction.enumeration c)) := by
  obtain ⟨head, children⟩ := c
  replace user : head.inSystemHeader = false := user
  replace kind : head.kind = .enumDecl := kind
  simp [Cursor.declaration?, user, kind]

theorem latestKeyFound {root : Cursor} (classKey : ClassKey) {key : String} {site : Site}
    (latest : root.latest? classKey.cursorKind key = some site) (context : Context) :
    ((extract root context).outline.at? site.position).bind Declaration.record? = some site.cursor.record ∧
      site.cursor.record.head.typeSpelling = key := by
  obtain ⟨listed, user, kind, _, spelled⟩ := latestDefined latest
  have found := siteFound listed (recordDeclared user kind) context
  exact ⟨by rw [found]; rfl, spelled⟩

theorem latestRecordFound {root : Cursor} {key : String} {site : Site}
    (latest : root.latestRecord? key = some site) (context : Context) :
    ((extract root context).outline.at? site.position).bind Declaration.record? = some site.cursor.record ∧
      site.cursor.record.head.typeSpelling = key := by
  rcases Option.or_eq_some_iff.mp latest with cls | ⟨_, struct⟩
  · exact latestKeyFound .cls cls context
  · exact latestKeyFound .struct struct context

theorem latestEnumFound {root : Cursor} {key : String} {site : Site}
    (latest : root.latest? .enumDecl key = some site) (context : Context) :
    ((extract root context).outline.at? site.position).bind Declaration.enumeration? =
        some (Extraction.enumeration site.cursor) ∧
      (Extraction.enumeration site.cursor).typeSpelling = key := by
  obtain ⟨listed, user, kind, _, spelled⟩ := latestDefined latest
  have found := siteFound listed (enumDeclared user kind) context
  exact ⟨by rw [found]; rfl, spelled⟩

theorem freshRecordPosition (root : Cursor) (scope : List String) (key : String) :
    (Extraction.freshIndex scope root).recordPosition? key =
      (root.latestRecord? key).map Site.position := by
  have cls : (Extraction.freshIndex scope root).classes.get? key =
      (root.latest? .classDecl key).map Site.position := freshLatest root scope (.record .cls) nofun key
  have struct : (Extraction.freshIndex scope root).structs.get? key =
      (root.latest? .structDecl key).map Site.position :=
    freshLatest root scope (.record .struct) nofun key
  rw [SymbolIndex.recordPosition?, Cursor.latestRecord?, cls, struct, Option.map_or]

theorem freshRecord (root : Cursor) (context : Context) (scope : List String) (key : String) :
    (Extraction.freshIndex scope root).record? (extract root context).outline key =
      (root.latestRecord? key).map (·.cursor.record) := by
  unfold SymbolIndex.record?
  rw [freshRecordPosition]
  cases latest : root.latestRecord? key with
  | none => rfl
  | some site => exact (latestRecordFound latest context).1

theorem freshEnumeration (root : Cursor) (context : Context) (scope : List String) (key : String) :
    (Extraction.freshIndex scope root).enumeration? (extract root context).outline key =
      (root.latest? .enumDecl key).map (Extraction.enumeration ·.cursor) := by
  have position : (Extraction.freshIndex scope root).enums.get? key =
      (root.latest? .enumDecl key).map Site.position := freshLatest root scope .enum nofun key
  rw [SymbolIndex.enumeration?, position]
  cases latest : root.latest? .enumDecl key with
  | none => rfl
  | some site => exact (latestEnumFound latest context).1

theorem recordIndexExact (root : Cursor) (depth : Nat) (scope : List String) :
    let run := extract root ⟨depth, scope, some ∅⟩
    root.scopeSites.filterMap Site.place? = run.outline.places.filter (fun place => !place.member) ∧
    (∀ place ∈ run.outline.places, run.outline.at? place.position = some place.declaration) ∧
    ∃ index, run.context.index = some index ∧ ∀ key,
      index.recordPosition? key = (root.latestRecord? key).map Site.position ∧
      index.record? run.outline key = (root.latestRecord? key).map (·.cursor.record) ∧
      (∀ access, index.base? run.outline ⟨access, key⟩ =
        (root.latestRecord? key).map (·.cursor.record)) ∧
      (∀ record ∈ index.record? run.outline key,
        record.head.typeSpelling = key ∧ record.head.truncated = false) ∧
      index.enums.get? key = (root.latest? .enumDecl key).map Site.position ∧
      index.enumeration? run.outline key =
        (root.latest? .enumDecl key).map (Extraction.enumeration ·.cursor) ∧
      (∀ enumeration ∈ index.enumeration? run.outline key, enumeration.typeSpelling = key) := by
  intro run
  refine ⟨scopePlaces root _, fun _ => Outline.placeFound, Extraction.freshIndex scope root,
    freshIndexed root depth scope, fun key => ?_⟩
  have record := freshRecord root ⟨depth, scope, some ∅⟩ scope key
  have enumeration := freshEnumeration root ⟨depth, scope, some ∅⟩ scope key
  refine ⟨freshRecordPosition root scope key, record, fun _ => record, fun r found => ?_,
    freshLatest root scope .enum nofun key, enumeration, fun e found => ?_⟩
  · rw [record] at found
    obtain ⟨site, latest, rfl⟩ := Option.map_eq_some_iff.mp found
    exact ⟨(latestRecordFound latest ⟨depth, scope, some ∅⟩).2, rfl⟩
  · rw [enumeration] at found
    obtain ⟨site, latest, rfl⟩ := Option.map_eq_some_iff.mp found
    exact (latestEnumFound latest ⟨depth, scope, some ∅⟩).2

end HeaderOutline
