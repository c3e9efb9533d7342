import HeaderOutline.Context

/-! Every declaration of an outline with where it stands: its position, the names of the namespaces
around it, and whether a record holds it. The places come in the order of the walk, their positions
ascend, and each position leads back to the declaration that stands there. -/
namespace HeaderOutline

structure Place where
  position : Position
  enclosing : List String
  member : Bool
  declaration : Declaration
  deriving Repr

def Place.Before (a b : Place) : Prop := a.position < b.position

def qualifiedName (scope enclosing : List String) (name : String) : String :=
  String.intercalate "::" (scope ++ (enclosing ++ [name]).map Context.segment)

namespace Declaration

mutual
def places (outer : Position) (number : Nat) (enclosing : List String) (member : Bool) :
    Declaration → List Place
  | ns name children =>
      ⟨outer ++ [number], enclosing, member, ns name children⟩ ::
        placesAll (outer ++ [number]) 0 (enclosing ++ [name]) member children
  | record key head members =>
      ⟨outer ++ [number], enclosing, member, record key head members⟩ ::
        placesAll (outer ++ [number]) 0 enclosing true members
  | d => [⟨outer ++ [number], enclosing, member, d⟩]
termination_by structural d => d

def placesAll (outer : Position) (number : Nat) (enclosing : List String) (member : Bool) :
    List Declaration → List Place
  | [] => []
  | d :: rest =>
      d.places outer number enclosing member ++ placesAll outer (number + 1) enclosing member rest
termination_by structural ds => ds
end

def inside (enclosing : List String) : Declaration → List String
  | ns name _ => enclosing ++ [name]
  | _ => enclosing

def holdsMembers : Declaration → Bool
  | record .. => true
  | _ => false

theorem placesEq (outer : Position) (number : Nat) (enclosing : List String) (member : Bool)
    (d : Declaration) : d.places outer number enclosing member =
      ⟨outer ++ [number], enclosing, member, d⟩ ::
        placesAll (outer ++ [number]) 0 (d.inside enclosing) (member || d.holdsMembers) d.children := by
  cases d <;> simp [places, placesAll, inside, holdsMembers, children]

theorem placesAllAt {outer : Position} {number : Nat} {enclosing : List String} {member : Bool}
    {ds : List Declaration} {place : Place} (found : place ∈ placesAll outer number enclosing member ds) :
    ∃ (i : Nat) (d : Declaration), ds[i]? = some d ∧
      place ∈ d.places outer (number + i) enclosing member := by
  induction ds generalizing number with
  | nil => simp [placesAll] at found
  | cons d rest ih =>
      simp only [placesAll, List.mem_append] at found
      rcases found with here | later
      · exact ⟨0, d, rfl, here⟩
      · obtain ⟨i, e, atI, inE⟩ := ih later
        refine ⟨i + 1, e, by simpa using atI, ?_⟩
        rwa [Nat.add_assoc, Nat.add_comm 1 i] at inE

theorem placesAllAppend (outer : Position) (number : Nat) (enclosing : List String) (member : Bool)
    (xs ys : List Declaration) : placesAll outer number enclosing member (xs ++ ys) =
      placesAll outer number enclosing member xs ++
        placesAll outer (number + xs.length) enclosing member ys := by
  induction xs generalizing number with
  | nil => rfl
  | cons d rest ih =>
      simp only [List.cons_append, placesAll, ih, List.append_assoc, List.length_cons]
      rw [Nat.add_assoc, Nat.add_comm 1]

theorem placesDescend (d : Declaration) : ∀ {outer number enclosing member place},
    place ∈ d.places outer number enclosing member →
      ∃ below, place.position = outer ++ number :: below ∧ d.descend below = some place.declaration := by
  induction d using childInduction with
  | step d ih =>
      intro outer number enclosing member place found
      rw [placesEq] at found
      rcases List.mem_cons.mp found with rfl | inner
      · exact ⟨[], rfl, rfl⟩
      · obtain ⟨i, child, atI, inChild⟩ := placesAllAt inner
        obtain ⟨below, position, descent⟩ := ih child (List.mem_of_getElem? atI) inChild
        refine ⟨i :: below, by simpa using position, ?_⟩
        simp only [descend, atI, descent]

mutual
theorem placesPreorder (outer : Position) (number : Nat) (enclosing : List String) (member : Bool) :
    (d : Declaration) → (d.places outer number enclosing member).map Place.declaration = d.preorder
  | ns name children => by
      simp only [places, preorder, List.map_cons]
      rw [placesAllPreorder]
  | record key head members => by
      simp only [places, preorder, List.map_cons]
      rw [placesAllPreorder]
  | enum _ | func .. | var .. | field .. | method .. => rfl

theorem placesAllPreorder (outer : Position) (number : Nat) (enclosing : List String) (member : Bool) :
    (ds : List Declaration) →
      (placesAll outer number enclosing member ds).map Place.declaration = preorderAll ds
  | [] => rfl
  | d :: rest => by
      simp only [placesAll, preorderAll, List.map_append]
      rw [placesPreorder, placesAllPreorder]
end

theorem visitEq (stack : List Declaration) : visit stack = preorderAll stack := by
  induction stack using visit.induct with
  | case1 => simp [visit, preorderAll]
  | case2 d rest ih => simp [visit, preorderAll, preorderEq, ih, preorderAllAppend]

theorem placesAllAscend {ds : List Declaration}
    (each : ∀ d ∈ ds, ∀ outer number enclosing member,
      (d.places outer number enclosing member).Pairwise Place.Before)
    (outer : Position) (number : Nat) (enclosing : List String) (member : Bool) :
    (placesAll outer number enclosing member ds).Pairwise Place.Before := by
  induction ds generalizing number with
  | nil => exact List.Pairwise.nil
  | cons d rest ih =>
      have first := each d List.mem_cons_self outer number enclosing member
      have later := ih (fun e he => each e (List.mem_cons_of_mem d he)) (number + 1)
      refine List.pairwise_append.mpr ⟨first, later, ?_⟩
      intro a ha b hb
      obtain ⟨below, aPosition, _⟩ := placesDescend d ha
      obtain ⟨i, e, _, inE⟩ := placesAllAt hb
      obtain ⟨lower, bPosition, _⟩ := placesDescend e inE
      unfold Place.Before
      rw [aPosition, bPosition]
      exact List.append_left_lt (List.cons_lt_cons_iff.mpr (Or.inl (by omega)))

theorem placesAscend (d : Declaration) : ∀ outer number enclosing member,
    (d.places outer number enclosing member).Pairwise Place.Before := by
  induction d using childInduction with
  | step d ih =>
      intro outer number enclosing member
      rw [placesEq]
      refine List.pairwise_cons.mpr ⟨?_, placesAllAscend ih _ _ _ _⟩
      intro place found
      obtain ⟨i, child, _, inChild⟩ := placesAllAt found
      obtain ⟨below, position, _⟩ := placesDescend child inChild
      unfold Place.Before
      rw [position, List.append_assoc]
      exact List.append_left_lt (List.cons_lt_cons_iff.mpr (Or.inr ⟨rfl, List.nil_lt_cons _ _⟩))

end Declaration

namespace Outline

def places (outline : Outline) : List Place :=
  Declaration.placesAll [] 0 [] false outline.declarations

theorem placesWalk (outline : Outline) : outline.places.map Place.declaration = outline.walk := by
  rw [places, walk, Declaration.placesAllPreorder, Declaration.visitEq]

theorem placeFound {outline : Outline} {place : Place} (listed : place ∈ outline.places) :
    outline.at? place.position = some place.declaration := by
  obtain ⟨i, d, atI, inD⟩ := Declaration.placesAllAt listed
  obtain ⟨below, position, descent⟩ := Declaration.placesDescend d inD
  rw [position, List.nil_append, Nat.zero_add]
  simp only [at?, atI, descent]

theorem placesAscending (outline : Outline) : outline.places.Pairwise Place.Before :=
  Declaration.placesAllAscend (fun d _ => Declaration.placesAscend d) [] 0 [] false

end Outline

end HeaderOutline
