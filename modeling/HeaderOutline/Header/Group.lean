import HeaderOutline.Path

/-! Header groups: a directory and the headers to include from it, in order. -/
namespace HeaderOutline

structure HeaderGroup where
  directory : Path
  headers : List String
  discover : Bool
  deriving DecidableEq, Repr

namespace HeaderGroup

def ofHeaderPath (path : Path) : HeaderGroup :=
  let directory := match path.parent? with
    | none => ⟨"."⟩
    | some parent => if parent.text = "" then ⟨"."⟩ else parent
  ⟨directory, [path.fileName?.getD ""], false⟩

def withFound (group : HeaderGroup) (found : List String) : HeaderGroup :=
  { group with
    headers := found.foldl (fun headers h => if h ∈ headers then headers else headers ++ [h]) group.headers
    discover := false }

theorem withFoundAdds (group : HeaderGroup) (found : List String) : ∃ added,
    (group.withFound found).headers = group.headers ++ added ∧ added.Sublist found ∧ added.Nodup ∧
      ∀ h, h ∈ added ↔ h ∈ found ∧ h ∉ group.headers := by
  obtain ⟨directory, headers, discover⟩ := group
  show ∃ added, found.foldl _ headers = headers ++ added ∧ _
  induction found generalizing headers with
  | nil => exact ⟨[], by simp, .refl [], .nil, by simp⟩
  | cons first rest ih =>
      rw [List.foldl_cons]
      by_cases listed : first ∈ headers
      · obtain ⟨added, whole, sublist, once, members⟩ := ih headers
        rw [if_pos listed]
        refine ⟨added, whole, sublist.cons first, once, fun h => ?_⟩
        by_cases same : h = first
        · simp [members, same, listed]
        · simp [members, same]
      · obtain ⟨added, whole, sublist, once, members⟩ := ih (headers ++ [first])
        rw [if_neg listed, whole]
        have new : first ∉ added := fun inside => by simpa using ((members first).mp inside).2
        refine ⟨first :: added, by simp, sublist.cons_cons first, List.nodup_cons.mpr ⟨new, once⟩, fun h => ?_⟩
        by_cases same : h = first
        · simp [same, listed]
        · simp [members, same]

end HeaderGroup

end HeaderOutline
