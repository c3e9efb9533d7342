import HeaderOutline.Header.Discovery

/-! How a search below a directory goes. It comes to every directory there that no pruned name and no link leads
to, fails at the first of them that it cannot open, and otherwise finds what the entries bring. -/
namespace HeaderOutline

namespace FileNode

/-- A search of the node comes to a directory by these names, and cannot open it. -/
inductive Shut : FileNode → List String → AccessError → Prop
  | unlisted {refusals : Refusals} {entries : List (String × FileNode)} {cause : AccessError}
      (refused : refusals.listing = some cause) : Shut (directory refusals entries) [] cause
  | unreached {refusals : Refusals} {entries : List (String × FileNode)} {name : String} {node : FileNode}
      {cause : AccessError} (listed : refusals.listing = none) (refused : refusals.passing = some cause)
      (held : (name, node) ∈ entries) (kept : name ∉ prunedNames) (inner : node.isDirectory = true) :
      Shut (directory refusals entries) [name] cause
  | further {refusals : Refusals} {entries : List (String × FileNode)} {name : String} {node : FileNode}
      {names : List String} {cause : AccessError} (listed : refusals.listing = none)
      (passed : refusals.passing = none) (held : (name, node) ∈ entries) (kept : name ∉ prunedNames)
      (shut : Shut node names cause) : Shut (directory refusals entries) (name :: names) cause

variable {names : List String} {cause : AccessError} {passing : Option AccessError}

theorem shutInEq (passing : Option AccessError) (entries : List (String × FileNode)) :
    shutIn passing entries = entries.flatMap (shutEntry passing) := by
  induction entries with
  | nil => rfl
  | cons entry rest ih => rw [shutIn, ih, List.flatMap_cons]

theorem shutDirectory {node : FileNode} (member : (names, cause) ∈ node.shut) : node.isDirectory = true := by
  cases node with
  | directory refusals entries => rfl
  | file content => contradiction
  | link target => contradiction

theorem shutEntryMember {name : String} {node : FileNode} : (names, cause) ∈ shutEntry passing (name, node) ↔
    name ∉ prunedNames ∧ node.isDirectory = true ∧ match passing with
      | some refused => names = [name] ∧ cause = refused
      | none => ∃ below, names = name :: below ∧ (below, cause) ∈ node.shut := by
  unfold shutEntry
  by_cases kept : name ∈ prunedNames
  · simp [kept]
  · by_cases inner : node.isDirectory = true
    · cases passing with
      | some refused => simp [kept, inner]
      | none =>
          simp only [kept, inner, not_true_eq_false, or_self, if_false, not_false_eq_true, true_and, List.mem_map,
            Prod.mk.injEq, Prod.exists]
          constructor
          · rintro ⟨below, _, member, rfl, rfl⟩
            exact ⟨below, rfl, member⟩
          · rintro ⟨below, rfl, member⟩
            exact ⟨below, cause, member, rfl, rfl⟩
    · simp [kept, inner]

theorem shutMember {refusals : Refusals} {entries : List (String × FileNode)} :
    (names, cause) ∈ (directory refusals entries).shut ↔ match refusals.listing with
      | some refused => names = [] ∧ cause = refused
      | none => ∃ name node, (name, node) ∈ entries ∧ (names, cause) ∈ shutEntry refusals.passing (name, node) := by
  obtain ⟨listing, passing⟩ := refusals
  cases listing with
  | some refused => simp [shut]
  | none => simp [shut, shutInEq, List.mem_flatMap]

/- Each name on the way is one step further down, so the induction is on the names. -/
theorem shutFound {node : FileNode} (member : (names, cause) ∈ node.shut) : node.Shut names cause := by
  induction names generalizing node with
  | nil =>
      cases node with
      | file content => contradiction
      | link target => contradiction
      | directory refusals entries =>
          rw [shutMember] at member
          cases listing : refusals.listing with
          | some refused =>
              rw [listing] at member
              cases member.2
              exact .unlisted listing
          | none =>
              rw [listing] at member
              obtain ⟨name, node, -, brought⟩ := member
              obtain ⟨-, -, way⟩ := shutEntryMember.mp brought
              split at way
              · exact absurd way.1 (by simp)
              · obtain ⟨below, named, -⟩ := way
                contradiction
  | cons first rest ih =>
      cases node with
      | file content => contradiction
      | link target => contradiction
      | directory refusals entries =>
          rw [shutMember] at member
          cases listing : refusals.listing with
          | some refused =>
              rw [listing] at member
              exact absurd member.1 (by simp)
          | none =>
              rw [listing] at member
              obtain ⟨name, node, held, brought⟩ := member
              obtain ⟨kept, inner, way⟩ := shutEntryMember.mp brought
              cases passing : refusals.passing with
              | some refused =>
                  rw [passing] at way
                  cases way.1
                  cases way.2
                  exact .unreached listing passing held kept inner
              | none =>
                  rw [passing] at way
                  obtain ⟨below, named, later⟩ := way
                  cases named
                  exact .further listing passing held kept (ih later)

theorem shutExact {node : FileNode} : (names, cause) ∈ node.shut ↔ node.Shut names cause := by
  refine ⟨shutFound, fun shut => ?_⟩
  induction shut with
  | unlisted refused =>
      rw [shutMember, refused]
      exact ⟨rfl, rfl⟩
  | unreached listed refused held kept inner =>
      rw [shutMember, listed]
      exact ⟨_, _, held, shutEntryMember.mpr ⟨kept, inner, by rw [refused]; exact ⟨rfl, rfl⟩⟩⟩
  | further listed passed held kept shut ih =>
      rw [shutMember, listed]
      exact ⟨_, _, held, shutEntryMember.mpr ⟨kept, shutDirectory ih, by rw [passed]; exact ⟨_, rfl, ih⟩⟩⟩

end FileNode

theorem firstMetNone {all : List (List String × AccessError)} : firstMet? all = none ↔ all = [] := by
  cases all with
  | nil => simp [firstMet?]
  | cons head rest =>
      unfold firstMet?
      split <;> simp

theorem firstMetLeast {all : List (List String × AccessError)} {met : List String × AccessError}
    (found : firstMet? all = some met) : met ∈ all ∧ ∀ other ∈ all, ¬other.1 < met.1 := by
  induction all generalizing met with
  | nil => contradiction
  | cons head rest ih =>
      unfold firstMet? at found
      split at found
      · rename_i none
        cases found
        rw [firstMetNone.mp none]
        simp
      · rename_i later known
        obtain ⟨listed, least⟩ := ih known
        split at found
        · rename_i before
          cases found
          exact ⟨List.mem_cons_of_mem head listed, List.forall_mem_cons.mpr ⟨List.lt_asymm before, least⟩⟩
        · rename_i notBefore
          cases found
          refine ⟨List.mem_cons_self, List.forall_mem_cons.mpr ⟨List.lt_irrefl _, fun other inside ahead => ?_⟩⟩
          exact notBefore (List.lt_of_le_of_lt (List.not_lt.mp (least other inside)) ahead)

namespace FileTree

/-- What a walk from a directory fails with: it leads nowhere, or to a directory that cannot be opened, there or
below. Of several the first is told. -/
inductive WalkFails (tree : FileTree) (directory : Path) : DiscoveryError → Prop
  | unlocated {cause : AccessError} (failed : tree.locate directory = .error cause) :
      WalkFails tree directory ⟨directory, directory, cause⟩
  | shut {place : List String} {refusals : Refusals} {entries : List (String × FileNode)} {names : List String}
      {cause : AccessError} (located : tree.locate directory = .ok (place, .directory refusals entries))
      (shut : (FileNode.directory refusals entries).Shut names cause)
      (first : ∀ names' cause', (FileNode.directory refusals entries).Shut names' cause' → ¬names' < names) :
      WalkFails tree directory ⟨directory, directory.below names, cause⟩

inductive Searches (tree : FileTree) (directory : Path) : Except DiscoveryError (List String) → Prop
  | input (same : directory.Same standardInput) : Searches tree directory (.ok [])
  | fails {error : DiscoveryError} (other : ¬directory.Same standardInput)
      (failed : tree.WalkFails directory error) : Searches tree directory (.error error)
  | found {place : List String} {refusals : Refusals} {entries : List (String × FileNode)}
      (other : ¬directory.Same standardInput)
      (located : tree.locate directory = .ok (place, .directory refusals entries))
      (unshut : ∀ names cause, ¬(FileNode.directory refusals entries).Shut names cause) :
      Searches tree directory
        (.ok (((FileNode.headersIn entries).map ("/".intercalate ·)).mergeSort fun a b => a ≤ b))
  | alone {place : List String} {node : FileNode} (other : ¬directory.Same standardInput)
      (located : tree.locate directory = .ok (place, node)) (noDirectory : node.isDirectory = false) :
      Searches tree directory (.ok (if isHeaderName directory then [""] else []))

variable {tree : FileTree} {directory : Path}

theorem searches {result : Except DiscoveryError (List String)} (searched : tree.headersBelow directory = result) :
    tree.Searches directory result := by
  subst searched
  unfold headersBelow
  split
  · exact .input ‹_›
  · rename_i other
    cases located : tree.locate directory with
    | error cause => exact .fails other (.unlocated located)
    | ok spot =>
        obtain ⟨place, node⟩ := spot
        cases node with
        | file content => exact .alone other located rfl
        | link target => exact .alone other located rfl
        | directory refusals entries =>
            cases met : firstMet? (FileNode.directory refusals entries).shut with
            | none =>
                have nothing := firstMetNone.mp met
                simp only [met]
                refine .found other located fun names cause shut => ?_
                have member := FileNode.shutExact.mpr shut
                rw [nothing] at member
                contradiction
            | some first =>
                obtain ⟨names, cause⟩ := first
                obtain ⟨listed, least⟩ := firstMetLeast met
                simp only [met]
                exact .fails other (.shut located (FileNode.shutExact.mp listed) fun names' cause' shut =>
                  least (names', cause') (FileNode.shutExact.mpr shut))

theorem readableFound {place : List String} {refusals : Refusals} {entries : List (String × FileNode)}
    (other : ¬directory.Same standardInput)
    (located : tree.locate directory = .ok (place, .directory refusals entries))
    (readable : ∀ names cause, ¬(FileNode.directory refusals entries).Shut names cause) :
    tree.headersBelow directory =
      .ok (((FileNode.headersIn entries).map ("/".intercalate ·)).mergeSort fun a b => a ≤ b) := by
  have nothing : (FileNode.directory refusals entries).shut = [] :=
    List.eq_nil_iff_forall_not_mem.mpr fun (names, cause) listed =>
      readable names cause (FileNode.shutExact.mp listed)
  unfold headersBelow
  simp only [if_neg other, located, nothing, firstMet?]

theorem foundWalked {found : List String} {error : DiscoveryError}
    (searched : tree.headersBelow directory = .ok found) (other : ¬directory.Same standardInput) :
    ¬tree.WalkFails directory error := by
  -- A walk that can fail does: a search that finds something has come to the end of it.
  intro failed
  cases searches searched with
  | input same => exact other same
  | found _ located unshut => cases failed with
      | unlocated failed => cases located.symm.trans failed
      | shut located' shut _ =>
          cases located.symm.trans located'
          exact unshut _ _ shut
  | alone _ located noDirectory => cases failed with
      | unlocated failed => cases located.symm.trans failed
      | shut located' _ _ =>
          cases located.symm.trans located'
          contradiction

end FileTree

end HeaderOutline
