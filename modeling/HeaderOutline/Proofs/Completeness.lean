import HeaderOutline.Proofs.Correspondence
import Mathlib.Data.List.Forall2
import Mathlib.Data.List.Nodup

/-! Nothing in scope position is lost, doubled or moved. The cursors in scope position are listed with
the child numbers that lead to them, every child counted; so who is whose parent is known before anything
is extracted. Those that declare something stand, in order and under the same parents, for the
declarations that no record holds, and the others for the diagnostics. -/
namespace HeaderOutline

structure Spot where
  trail : List Nat
  cursor : Cursor
  deriving Repr

def CursorKind.declarationKind? : CursorKind → Option DeclarationKind
  | ns => some .ns
  | classDecl => some (.record .cls)
  | structDecl => some (.record .struct)
  | enumDecl => some .enum
  | varDecl => some .var
  | functionDecl => some .func
  | _ => none

def CursorKind.memberKind? : CursorKind → Option DeclarationKind
  | method => some .method
  | fieldDecl | varDecl => some .field
  | classDecl => some (.record .cls)
  | structDecl => some (.record .struct)
  | _ => none

namespace Cursor

mutual
def spots (outer : List Nat) (number : Nat) : Cursor → List Spot
  | node head children =>
      if head.inSystemHeader then []
      else ⟨outer ++ [number], node head children⟩ ::
        if head.kind = .ns then spotsAll (outer ++ [number]) 0 children else []
termination_by structural cursor => cursor

def spotsAll (outer : List Nat) (number : Nat) : List Cursor → List Spot
  | [] => []
  | first :: rest => first.spots outer number ++ spotsAll outer (number + 1) rest
termination_by structural cursors => cursors
end

def scopeSpots (root : Cursor) : List Spot := spotsAll [] 0 root.children

def bases (record : Cursor) : List Base :=
  (record.userChildren.filter (·.head.kind = .baseSpecifier)).map fun c =>
    ⟨c.head.access, c.head.typeSpelling⟩

def memberNames (record : Cursor) : List (DeclarationKind × String) :=
  record.userChildren.filterMap fun c => c.head.kind.memberKind?.map (·, c.head.name)

structure Declares (c : Cursor) (d : Declaration) : Prop where
  kind : c.head.kind.declarationKind? = some d.kind
  name : d.name = c.head.name
  bases : ∀ record ∈ d.record?, record.head.bases = c.bases
  members : ∀ record ∈ d.record?, record.members.map (fun m => (m.kind, m.name)) = c.memberNames

end Cursor

namespace Spot

def declares (spot : Spot) : Bool := spot.cursor.head.kind.declares

def diagnostic (spot : Spot) : Diagnostic := ⟨spot.cursor.head.kind.spelling, spot.cursor.head.name⟩

end Spot

namespace Extraction

theorem memberBase (record : String) (c : Cursor) : (member record c).base? =
    if c.head.kind = .baseSpecifier then some ⟨c.head.access, c.head.typeSpelling⟩ else none := by
  cases kind : c.head.kind <;> simp [member, kind, Member.base?]

theorem memberDeclared (record : String) (c : Cursor) :
    (member record c).declared?.map (fun d => (d.kind, d.name)) =
      c.head.kind.memberKind?.map (·, c.head.name) := by
  cases kind : c.head.kind <;>
    simp [member, kind, Member.declared?, CursorKind.memberKind?, Declaration.kind, Declaration.name,
      truncatedHead]

theorem recordBases (c : Cursor) : (members c).filterMap Member.base? = c.bases := by
  unfold members Cursor.bases
  rw [List.filterMap_map]
  induction c.userChildren with
  | nil => rfl
  | cons child rest ih =>
      have here := memberBase c.head.name child
      by_cases kind : child.head.kind = .baseSpecifier <;> simp_all

theorem recordMembers (c : Cursor) :
    ((members c).filterMap Member.declared?).map (fun d => (d.kind, d.name)) = c.memberNames := by
  unfold members Cursor.memberNames
  rw [List.filterMap_map, List.map_filterMap]
  exact List.filterMap_congr fun child _ => memberDeclared c.head.name child

end Extraction

theorem recordDeclares {key : ClassKey} {c : Cursor}
    (kind : c.head.kind.declarationKind? = some (.record key)) : c.Declares (Extraction.record key c) where
  kind := kind
  name := rfl
  bases := by
    intro record listed
    cases Option.some.inj listed
    exact Extraction.recordBases c
  members := by
    intro record listed
    cases Option.some.inj listed
    exact Extraction.recordMembers c

theorem recordlessDeclares {c : Cursor} {d : Declaration}
    (kind : c.head.kind.declarationKind? = some d.kind) (name : d.name = c.head.name)
    (recordless : d.record? = none) : c.Declares d where
  kind := kind
  name := name
  bases := by simp [recordless]
  members := by simp [recordless]

theorem declaredDeclares {c : Cursor} {d : Declaration} (declared : c.declaration? = some d) :
    c.Declares d := by
  obtain ⟨head, children⟩ := c
  unfold Cursor.declaration? at declared
  split at declared
  · contradiction
  · split at declared <;> rename_i kind <;> cases declared
    · exact recordlessDeclares (congrArg CursorKind.declarationKind? kind) rfl rfl
    · exact recordDeclares (congrArg CursorKind.declarationKind? kind)
    · exact recordDeclares (congrArg CursorKind.declarationKind? kind)
    · exact recordlessDeclares (congrArg CursorKind.declarationKind? kind) rfl rfl
    · exact recordlessDeclares (congrArg CursorKind.declarationKind? kind) rfl rfl
    · exact recordlessDeclares (congrArg CursorKind.declarationKind? kind) rfl rfl

/-- The position of the declaration that the cursor at a trail becomes: at each level the declaring
children before it are counted. -/
def Cursor.locate (cs : List Cursor) : List Nat → Position
  | [] => []
  | i :: rest => (cs.take i).countP Cursor.declares :: locate ((cs[i]?.map Cursor.children).getD []) rest

namespace Cursor

theorem locateLength (cs : List Cursor) (trail : List Nat) : (locate cs trail).length = trail.length := by
  induction trail generalizing cs with
  | nil => rfl
  | cons i rest ih => simp [locate, ih]

theorem locateBelow (cs : List Cursor) (trail : List Nat) (k : Nat) :
    ∃ i, locate cs (trail ++ [k]) = locate cs trail ++ [i] := by
  induction trail generalizing cs with
  | nil => exact ⟨_, rfl⟩
  | cons j rest ih =>
      obtain ⟨i, below⟩ := ih ((cs[j]?.map Cursor.children).getD [])
      exact ⟨i, by simp [locate, below]⟩

end Cursor

def Spot.Matches (cs : List Cursor) (outer : List Nat) (position : Position) (spot : Spot)
    (place : Place) : Prop :=
  spot.cursor.declaration? = some place.declaration ∧
  ∃ below, spot.trail = outer ++ below ∧ place.position = position ++ Cursor.locate cs below

theorem matchesDeeper {earlier rest children : List Cursor} {head : CursorHead} {outer : List Nat}
    {position : Position} {spot : Spot} {place : Place}
    (inner : spot.Matches children (outer ++ [earlier.length])
      (position ++ [earlier.countP Cursor.declares]) place) :
    spot.Matches (earlier ++ .node head children :: rest) outer position place := by
  obtain ⟨declared, below, trail, placed⟩ := inner
  refine ⟨declared, earlier.length :: below, by simpa using trail, ?_⟩
  simpa [Cursor.locate, Cursor.children] using placed

theorem spotAlone {head : CursorHead} (user : head.inSystemHeader = false) (single : head.kind ≠ .ns)
    (outer : List Nat) (number : Nat) (children : List Cursor) :
    (Cursor.node head children).spots outer number = [⟨outer ++ [number], .node head children⟩] := by
  simp [Cursor.spots, user, single]

theorem placeAlone {d : Declaration} (single : d.kind ≠ .ns) (outer : Position) (number : Nat)
    (enclosing : List String) : (d.places outer number enclosing false).filter (fun place => !place.member) =
      [⟨outer ++ [number], enclosing, false, d⟩] := by
  cases d with
  | ns name children => exact absurd rfl single
  | record key head members =>
      have held := Declaration.heldFiltered (outer ++ [number]) 0 enclosing members
      simpa [Declaration.places] using held
  | _ => rfl

theorem spotDeclares {c : Cursor} (user : c.head.inSystemHeader = false) :
    c.head.kind.declares = c.declaration?.isSome := by
  have count := c.declarationCount
  have declares : c.declares = c.head.kind.declares := by simp [Cursor.declares, user]
  cases declared : c.declaration? <;> cases kind : c.head.kind.declares <;> simp_all

theorem fragmentDeclared {c : Cursor} {d : Declaration} (declared : c.declaration? = some d)
    (fragment : d.kind = .ns) : c.head.kind = .ns := by
  have kind := (declaredDeclares declared).kind
  rw [fragment] at kind
  cases same : c.head.kind <;> simp_all [CursorKind.declarationKind?]

open Declaration in
mutual
theorem spotPlaces (outer : List Nat) (position : Position) (enclosing : List String)
    (earlier rest : List Cursor) : (c : Cursor) →
    List.Forall₂ (Spot.Matches (earlier ++ c :: rest) outer position)
      ((c.spots outer earlier.length).filter Spot.declares)
      ((placesAll position (earlier.countP Cursor.declares) enclosing false c.declaration?.toList).filter
        fun place => !place.member)
  | .node head children => by
      cases system : head.inSystemHeader with
      | true => simp [Cursor.spots, Cursor.declaration?, system, placesAll]
      | false =>
          have here (d : Declaration) (declared : (Cursor.node head children).declaration? = some d) :
              Spot.Matches (earlier ++ .node head children :: rest) outer position
                ⟨outer ++ [earlier.length], .node head children⟩
                ⟨position ++ [earlier.countP Cursor.declares], enclosing, false, d⟩ :=
            ⟨declared, [earlier.length], rfl, by simp [Cursor.locate]⟩
          have declares : Spot.declares ⟨outer ++ [earlier.length], .node head children⟩ =
            (Cursor.node head children).declaration?.isSome := spotDeclares system
          by_cases fragment : head.kind = .ns
          · have inner := spotsPlaces (outer ++ [earlier.length])
              (position ++ [earlier.countP Cursor.declares]) (enclosing ++ [head.name]) [] children
            have declared : (Cursor.node head children).declaration? =
                some (.ns head.name (Cursor.declarations children)) := by
              simp [Cursor.declaration?, system, fragment]
            have spots : (Cursor.node head children).spots outer earlier.length =
                ⟨outer ++ [earlier.length], .node head children⟩ ::
                  Cursor.spotsAll (outer ++ [earlier.length]) 0 children := by
              simp [Cursor.spots, system, fragment]
            rw [declared] at declares
            rw [spots, declared, List.filter_cons_of_pos declares, Option.toList_some, placesAll, placesAll,
              List.append_nil, places]
            exact .cons (here _ declared) (inner.imp fun _ _ => matchesDeeper)
          · rw [spotAlone system fragment]
            cases declared : (Cursor.node head children).declaration? with
            | none =>
                rw [declared] at declares
                rw [List.filter_cons_of_neg (by simp [declares])]
                exact .nil
            | some d =>
                have single : d.kind ≠ .ns := fun same => fragment (fragmentDeclared declared same)
                rw [declared] at declares
                rw [List.filter_cons_of_pos declares, Option.toList_some, placesAll, placesAll,
                  List.append_nil, placeAlone single]
                exact .cons (here d declared) .nil

theorem spotsPlaces (outer : List Nat) (position : Position) (enclosing : List String)
    (earlier : List Cursor) : (cs : List Cursor) →
    List.Forall₂ (Spot.Matches (earlier ++ cs) outer position)
      ((Cursor.spotsAll outer earlier.length cs).filter Spot.declares)
      ((placesAll position (earlier.countP Cursor.declares) enclosing false (Cursor.declarations cs)).filter
        fun place => !place.member)
  | [] => .nil
  | first :: rest => by
      have head := spotPlaces outer position enclosing earlier rest first
      have tail := spotsPlaces outer position enclosing (earlier ++ [first]) rest
      have count : (earlier ++ [first]).countP Cursor.declares =
          earlier.countP Cursor.declares + first.declares.toNat := by
        cases declares : first.declares <;> simp [declares]
      have split : (earlier ++ [first]) ++ rest = earlier ++ first :: rest := by simp
      rw [split, List.length_append, count] at tail
      rw [Cursor.spotsAll, Cursor.declarations, placesAllAppend, first.declarationCount, List.filter_append,
        List.filter_append]
      exact List.rel_append head tail
end

mutual
theorem spotSites (outer : List Nat) (number : Nat) (position : Position) (index : Nat)
    (enclosing : List String) : (c : Cursor) →
    (c.spots outer number).map Spot.cursor = (c.sites position index enclosing).map Site.cursor
  | .node head children => by
      have inner := spotsSites (outer ++ [number]) 0 (position ++ [index]) 0 (enclosing ++ [head.name]) children
      unfold Cursor.spots Cursor.sites
      split
      · rfl
      · split <;> simp [inner]

theorem spotsSites (outer : List Nat) (number : Nat) (position : Position) (index : Nat)
    (enclosing : List String) : (cs : List Cursor) →
    (Cursor.spotsAll outer number cs).map Spot.cursor =
      (Cursor.sitesAll position index enclosing cs).map Site.cursor
  | [] => rfl
  | first :: rest => by
      rw [Cursor.spotsAll, Cursor.sitesAll, List.map_append, List.map_append,
        spotSites outer number position index enclosing first,
        spotsSites outer (number + 1) position (index + first.declares.toNat) enclosing rest]
end

theorem spotDiagnostics (root : Cursor) :
    (root.scopeSpots.filter fun spot => !spot.declares).map Spot.diagnostic =
      root.scopeSites.filterMap Site.diagnostic? := by
  let diagnostic? (c : Cursor) : Option Diagnostic :=
    if c.head.kind.declares then none else some ⟨c.head.kind.spelling, c.head.name⟩
  have same := congrArg (List.filterMap diagnostic?) (spotsSites [] 0 [] 0 [] root.children)
  rw [List.filterMap_map, List.filterMap_map] at same
  rw [← List.filterMap_eq_map, List.filterMap_filter]
  refine Eq.trans (List.filterMap_congr fun spot _ => ?_) same
  cases declares : spot.cursor.head.kind.declares <;> simp [Spot.declares, Spot.diagnostic, diagnostic?, declares]

mutual
theorem spotParent (outer : List Nat) (number : Nat) : (c : Cursor) →
    ∀ spot ∈ c.spots outer number, spot.trail ≠ [] ∧ (spot.trail.dropLast = outer ∨
      ∃ parent ∈ c.spots outer number, parent.trail = spot.trail.dropLast ∧ parent.cursor.head.kind = .ns)
  | .node head children, spot, found => by
      cases system : head.inSystemHeader with
      | true => simp [Cursor.spots, system] at found
      | false =>
          simp only [Cursor.spots, system, Bool.false_eq_true, if_false] at found ⊢
          rcases List.mem_cons.mp found with rfl | below
          · simp
          · split at below
            · rename_i fragment
              obtain ⟨nonempty, here | ⟨parent, listed, above, kind⟩⟩ :=
                spotsParent (outer ++ [number]) 0 children spot below
              · exact ⟨nonempty, .inr ⟨_, List.mem_cons_self, here.symm, fragment⟩⟩
              · exact ⟨nonempty, .inr ⟨parent, by simp [fragment, listed], above, kind⟩⟩
            · simp at below

theorem spotsParent (outer : List Nat) (number : Nat) : (cs : List Cursor) →
    ∀ spot ∈ Cursor.spotsAll outer number cs, spot.trail ≠ [] ∧ (spot.trail.dropLast = outer ∨
      ∃ parent ∈ Cursor.spotsAll outer number cs,
        parent.trail = spot.trail.dropLast ∧ parent.cursor.head.kind = .ns)
  | [], _, found => by simp [Cursor.spotsAll] at found
  | first :: rest, spot, found => by
      rw [Cursor.spotsAll] at found ⊢
      rcases List.mem_append.mp found with here | later
      · obtain ⟨nonempty, top | ⟨parent, listed, above⟩⟩ := spotParent outer number first spot here
        · exact ⟨nonempty, .inl top⟩
        · exact ⟨nonempty, .inr ⟨parent, List.mem_append_left _ listed, above⟩⟩
      · obtain ⟨nonempty, top | ⟨parent, listed, above⟩⟩ := spotsParent outer (number + 1) rest spot later
        · exact ⟨nonempty, .inl top⟩
        · exact ⟨nonempty, .inr ⟨parent, List.mem_append_right _ listed, above⟩⟩
end

theorem spotsDeclared (root : Cursor) (context : Context) :
    List.Forall₂ (Spot.Matches root.children [] []) (root.scopeSpots.filter Spot.declares)
      ((extract root context).outline.places.filter fun place => !place.member) := by
  rw [extractRun]
  exact spotsPlaces [] [] [] [] root.children

def parents (paths : List (List Nat)) : List (Option Nat) := paths.map fun path => paths.idxOf? path.dropLast

theorem findSame {α : Type} {p q : α → Bool} {xs : List α} (same : ∀ x ∈ xs, p x = q x) :
    xs.findIdx? p = xs.findIdx? q := by
  induction xs with
  | nil => rfl
  | cons x rest ih =>
      have later := ih fun y listed => same y (List.mem_cons_of_mem x listed)
      rw [List.findIdx?_cons, List.findIdx?_cons, same x List.mem_cons_self, later]

theorem parentsSame {α : Type} {xs : List α} {f g : α → List Nat}
    (same : ∀ child ∈ xs, ∀ parent ∈ xs, f parent = (f child).dropLast ↔ g parent = (g child).dropLast) :
    parents (xs.map f) = parents (xs.map g) := by
  unfold parents
  rw [List.map_map, List.map_map]
  refine List.map_congr_left fun child listed => ?_
  simp only [Function.comp, List.idxOf?, List.findIdx?_map]
  exact findSame fun parent listedToo => by simpa using same child listed parent listedToo

section Pairs
variable {root : Cursor} {context : Context}

def declaredPairs (root : Cursor) (context : Context) : List (Spot × Place) :=
  (root.scopeSpots.filter Spot.declares).zip
    ((extract root context).outline.places.filter fun place => !place.member)

theorem pairsFirst (root : Cursor) (context : Context) :
    (declaredPairs root context).map Prod.fst = root.scopeSpots.filter Spot.declares :=
  List.map_fst_zip (Nat.le_of_eq (spotsDeclared root context).length_eq)

theorem pairsSecond (root : Cursor) (context : Context) : (declaredPairs root context).map Prod.snd =
    (extract root context).outline.places.filter fun place => !place.member :=
  List.map_snd_zip (Nat.le_of_eq (spotsDeclared root context).length_eq.symm)

theorem pairLocated {pair : Spot × Place} (listed : pair ∈ declaredPairs root context) :
    pair.1.trail ≠ [] ∧ pair.2.position = Cursor.locate root.children pair.1.trail := by
  have spot : pair.1 ∈ root.scopeSpots.filter Spot.declares := (List.of_mem_zip listed).1
  obtain ⟨_, below, trail, position⟩ := (List.forall₂_iff_zip.mp (spotsDeclared root context)).2 listed
  refine ⟨(spotsParent [] 0 root.children pair.1 (List.mem_filter.mp spot).1).1, ?_⟩
  rw [position, trail, List.nil_append, List.nil_append]

theorem pairUnique {p q : Spot × Place} (pListed : p ∈ declaredPairs root context)
    (qListed : q ∈ declaredPairs root context) (same : p.2.position = q.2.position) : p = q := by
  have ascending := (extract root context).outline.placesAscending.filter fun place => !place.member
  have distinct : ((declaredPairs root context).map (fun pair => pair.2.position)).Nodup := by
    have split : (declaredPairs root context).map (fun pair => pair.2.position) =
        ((declaredPairs root context).map Prod.snd).map Place.position := List.map_map.symm
    rw [split, pairsSecond]
    refine List.pairwise_map.mpr (ascending.imp fun before equal => ?_)
    unfold Place.Before at before
    rw [equal] at before
    exact List.lt_irrefl _ before
  exact List.inj_on_of_nodup_map distinct pListed qListed same

theorem pairParent {child parent : Spot × Place} (childListed : child ∈ declaredPairs root context)
    (parentListed : parent ∈ declaredPairs root context) :
    parent.1.trail = child.1.trail.dropLast ↔ parent.2.position = child.2.position.dropLast := by
  obtain ⟨childTrail, childPosition⟩ := pairLocated childListed
  obtain ⟨parentTrail, parentPosition⟩ := pairLocated parentListed
  obtain ⟨above, k, split⟩ := (List.eq_nil_or_concat' child.1.trail).resolve_left childTrail
  obtain ⟨i, below⟩ := Cursor.locateBelow root.children above k
  rw [split, below] at childPosition
  rw [split, childPosition, List.dropLast_concat, List.dropLast_concat]
  constructor
  · rintro rfl
    exact parentPosition
  · intro same
    have nested : above ≠ [] := by
      rintro rfl
      rw [parentPosition] at same
      have lengths := congrArg List.length same
      rw [Cursor.locateLength, Cursor.locateLength] at lengths
      exact parentTrail (List.length_eq_zero_iff.mp lengths)
    -- The namespace around the child is in the list too, and its declaration stands where the parent's does.
    have childSpot : child.1 ∈ root.scopeSpots.filter Spot.declares := (List.of_mem_zip childListed).1
    obtain ⟨_, top | ⟨around, aroundSpot, trail, kind⟩⟩ :=
      spotsParent [] 0 root.children child.1 (List.mem_filter.mp childSpot).1
    · rw [split, List.dropLast_concat] at top
      exact absurd top nested
    · have aroundDeclares : around ∈ root.scopeSpots.filter Spot.declares :=
        List.mem_filter.mpr ⟨aroundSpot, congrArg CursorKind.declares kind⟩
      rw [← pairsFirst root context] at aroundDeclares
      obtain ⟨pair, pairListed, rfl⟩ := List.mem_map.mp aroundDeclares
      rw [split, List.dropLast_concat] at trail
      have placed := (pairLocated pairListed).2
      rw [trail, ← same] at placed
      rw [← pairUnique pairListed parentListed placed, trail]

end Pairs

theorem scopeMirrored (root : Cursor) (context : Context) :
    let outline := (extract root context).outline
    let declaring := root.scopeSpots.filter Spot.declares
    let declared := outline.places.filter fun place => !place.member
    outline.places.map Place.declaration = outline.walk ∧
    List.Forall₂ (fun spot place => spot.cursor.Declares place.declaration ∧
      spot.trail.length = place.position.length) declaring declared ∧
    parents (declaring.map Spot.trail) = parents (declared.map Place.position) ∧
    (root.scopeSpots.filter fun spot => !spot.declares).map Spot.diagnostic = outline.diagnostics := by
  intro outline declaring declared
  refine ⟨outline.placesWalk, ?_, ?_, ?_⟩
  · refine (spotsDeclared root context).imp fun spot place ⟨cursor, below, trail, position⟩ => ?_
    refine ⟨declaredDeclares cursor, ?_⟩
    rw [trail, position, List.nil_append, List.nil_append, Cursor.locateLength]
  · have trails : declaring.map Spot.trail = (declaredPairs root context).map (fun pair => pair.1.trail) := by
      show (root.scopeSpots.filter Spot.declares).map Spot.trail = _
      rw [← pairsFirst root context, List.map_map]
      rfl
    have positions : declared.map Place.position =
        (declaredPairs root context).map (fun pair => pair.2.position) := by
      show ((extract root context).outline.places.filter fun place => !place.member).map Place.position = _
      rw [← pairsSecond root context, List.map_map]
      rfl
    rw [trails, positions]
    exact parentsSame fun child listed parent listedToo => pairParent listed listedToo
  · rw [spotDiagnostics]
    show _ = (extract root context).outline.diagnostics
    rw [extractRun]

end HeaderOutline
