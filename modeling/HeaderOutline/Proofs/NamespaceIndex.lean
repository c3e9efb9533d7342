import HeaderOutline.Proofs.Correspondence

/-! A namespace key in the index that an extraction leaves behind. Under it stand the positions of just
the fragments of that name, in the order of the walk, and each position leads to its own fragment. -/
namespace HeaderOutline

def Fragment.declaration (fragment : Fragment) : Declaration := .ns fragment.name fragment.children

def Place.Names (scope : List String) (key : String) (place : Place) : Prop :=
  place.declaration.kind = .ns ∧ qualifiedName scope place.enclosing place.declaration.name = key

instance (scope key place) : Decidable (Place.Names scope key place) := by
  unfold Place.Names
  infer_instance

theorem namedOutside {outline : Outline} (shaped : outline.Shaped) (scope : List String) (key : String) :
    (outline.places.filter (fun place => !place.member)).filter (Place.Names scope key ·) =
      outline.places.filter (Place.Names scope key ·) := by
  rw [List.filter_filter]
  refine List.filter_congr fun place listed => ?_
  by_cases named : place.Names scope key
  · cases held : place.member with
    | false => simp
    | true =>
        obtain ⟨i, d, atI, inD⟩ := Declaration.placesAllAt listed
        have member := shapedHeld (shaped d (List.mem_of_getElem? atI)) inD held
        exact absurd named.1 (memberNotNs member)
  · simp [named]

theorem enteredNs {scope : List String} {key : String} {site : Site} :
    site.Entered scope .ns key ↔
      site.head.kind = .ns ∧ qualifiedName scope site.enclosing site.head.name = key := by
  unfold Site.Entered
  rw [slotNs]
  constructor
  · rintro ⟨fragment, named⟩
    rw [Site.key, if_pos fragment] at named
    exact ⟨fragment, named⟩
  · rintro ⟨fragment, named⟩
    rw [Site.key, if_pos fragment]
    exact ⟨fragment, named⟩

theorem fragmentSite {site : Site} (user : site.head.inSystemHeader = false) (scope : List String)
    (key : String) :
    ([site].filter (Site.Entered scope .ns key ·)).map Site.position =
      (([site].filterMap Site.place?).filter (Place.Names scope key ·)).map Place.position := by
  obtain ⟨position, enclosing, head, children⟩ := site
  replace user : head.inSystemHeader = false := user
  cases kind : head.kind with
  | ns =>
      by_cases named : qualifiedName scope enclosing head.name = key <;>
        simp [enteredNs, Site.head, Cursor.head, Site.place?, Cursor.declaration?, Place.Names,
          Declaration.kind, Declaration.name, kind, user, named]
  | _ =>
      simp [enteredNs, Site.head, Cursor.head, Site.place?, Cursor.declaration?, Place.Names,
        Declaration.kind, Extraction.record, kind, user]

theorem fragmentSites {sites : List Site} (user : ∀ site ∈ sites, site.head.inSystemHeader = false)
    (scope : List String) (key : String) :
    (sites.filter (Site.Entered scope .ns key ·)).map Site.position =
      ((sites.filterMap Site.place?).filter (Place.Names scope key ·)).map Place.position := by
  induction sites with
  | nil => rfl
  | cons site rest ih =>
      have first := fragmentSite (user site List.mem_cons_self) scope key
      have later := ih fun other listed => user other (List.mem_cons_of_mem site listed)
      have split : site :: rest = [site] ++ rest := rfl
      rw [split, List.filter_append, List.map_append, first, later, List.filterMap_append,
        List.filter_append, List.map_append]

theorem fragmentOf {d : Declaration} (fragment : d.kind = .ns) :
    ∃ f, d.fragment? = some f ∧ f.declaration = d := by
  cases d with
  | ns name children => exact ⟨⟨name, children⟩, rfl, rfl⟩
  | _ => contradiction

theorem placesFetched {outline : Outline} {named : List Place}
    (found : ∀ place ∈ named, outline.at? place.position = some place.declaration)
    (fragments : ∀ place ∈ named, place.declaration.kind = .ns) :
    ((named.map Place.position).filterMap fun p => (outline.at? p).bind Declaration.fragment?).map
      Fragment.declaration = named.map Place.declaration := by
  induction named with
  | nil => rfl
  | cons place rest ih =>
      have here := found place List.mem_cons_self
      obtain ⟨f, fetched, same⟩ := fragmentOf (fragments place List.mem_cons_self)
      have later := ih (fun p listed => found p (List.mem_cons_of_mem place listed))
        (fun p listed => fragments p (List.mem_cons_of_mem place listed))
      simp only [List.map_cons, List.filterMap_cons, here, Option.bind_some, fetched, same, later]

theorem freshPositions (root : Cursor) (context : Context) (scope : List String) (key : String) :
    (Extraction.freshIndex scope root).positions key =
      ((extract root context).outline.places.filter (Place.Names scope key ·)).map Place.position := by
  have user : ∀ site ∈ root.scopeSites, site.head.inSystemHeader = false :=
    fun site listed => (sitesInside [] 0 [] root.children site listed).1
  calc
    (Extraction.freshIndex scope root).positions key = logged .ns key (root.indexEntries scope) := by
      rw [Extraction.freshIndex, SymbolIndex.positionsAddAll]
      rfl
    _ = (root.scopeSites.filter (Site.Entered scope .ns key ·)).map Site.position :=
      indexEntriesLogged root scope .ns key
    _ = ((root.scopeSites.filterMap Site.place?).filter (Place.Names scope key ·)).map Place.position :=
      fragmentSites user scope key
    _ = _ := by rw [scopePlaces root context, namedOutside (extractionShaped root context)]

theorem namespaceIndexExact (root : Cursor) (depth : Nat) (scope : List String) :
    let run := extract root ⟨depth, scope, some ∅⟩
    run.outline.places.map Place.declaration = run.outline.walk ∧
    run.outline.places.Pairwise Place.Before ∧
    (∀ place ∈ run.outline.places, run.outline.at? place.position = some place.declaration) ∧
    ∃ index, run.context.index = some index ∧ ∀ key,
      let named := run.outline.places.filter (Place.Names scope key ·)
      index.positions key = named.map Place.position ∧
      (index.fragments run.outline key).map Fragment.declaration = named.map Place.declaration := by
  intro run
  refine ⟨run.outline.placesWalk, run.outline.placesAscending, fun _ => Outline.placeFound,
    Extraction.freshIndex scope root, freshIndexed root depth scope, fun key => ?_⟩
  have positions := freshPositions root ⟨depth, scope, some ∅⟩ scope key
  refine ⟨positions, ?_⟩
  unfold SymbolIndex.fragments
  rw [positions]
  refine placesFetched (fun place listed => ?_) (fun place listed => ?_)
  · exact Outline.placeFound (List.mem_filter.mp listed).1
  · exact (of_decide_eq_true (List.mem_filter.mp listed).2).1

end HeaderOutline
