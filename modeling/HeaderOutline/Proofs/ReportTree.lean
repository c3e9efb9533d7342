import HeaderOutline.Proofs.ReportLines

/-! The tree that the depths of a report's lines describe. A line owns the lines after it that stand
deeper, up to the first that does not. A tree laid out in lines is read back from their depths. -/
namespace HeaderOutline

inductive ReportNode where
  | node (label value : String) (children : List ReportNode)
  deriving Repr

namespace ReportNode

def leaf (label value : String) : ReportNode := node label value []

def label : ReportNode → String
  | node label .. => label

def value : ReportNode → String
  | node _ value _ => value

mutual
def lines (depth : Nat) : ReportNode → List Line
  | node label value children => ⟨depth, label, value⟩ :: linesAll (depth + 1) children
termination_by structural n => n

def linesAll (depth : Nat) : List ReportNode → List Line
  | [] => []
  | n :: rest => n.lines depth ++ linesAll depth rest
termination_by structural ns => ns
end

theorem leafLines (depth : Nat) (label value : String) (rest : List ReportNode) :
    linesAll depth (leaf label value :: rest) = ⟨depth, label, value⟩ :: linesAll depth rest := rfl

theorem linesAllEqFlatMap (depth : Nat) (ns : List ReportNode) :
    linesAll depth ns = ns.flatMap (lines depth) := by
  induction ns with
  | nil => rfl
  | cons n rest ih => rw [linesAll, ih, List.flatMap_cons]

theorem linesAllAppend (depth : Nat) (xs ys : List ReportNode) :
    linesAll depth (xs ++ ys) = linesAll depth xs ++ linesAll depth ys := by
  simp only [linesAllEqFlatMap, List.flatMap_append]

theorem linesAllMap {α : Type} {depth : Nat} {make : α → ReportNode} {lines : α → List Line}
    (each : ∀ item, (make item).lines depth = lines item) (items : List α) :
    linesAll depth (items.map make) = items.flatMap lines := by
  have same : (fun item => (make item).lines depth) = lines := funext each
  rw [linesAllEqFlatMap, List.flatMap_map, same]

def attach (line : Line) (later : List (Nat × ReportNode)) : List (Nat × ReportNode) :=
  (line.depth, node line.label line.value ((later.takeWhile (line.depth < ·.1)).map Prod.snd)) ::
    later.dropWhile (line.depth < ·.1)

def forest (lines : List Line) : List ReportNode := (lines.foldr attach []).map Prod.snd

def Closes (depth : Nat) (later : List (Nat × ReportNode)) : Prop := ∀ next ∈ later.head?, next.1 ≤ depth

theorem attachOwned {depth : Nat} {later : List (Nat × ReportNode)} (closes : Closes depth later)
    (label value : String) (children : List ReportNode) :
    attach ⟨depth, label, value⟩ (children.map (depth + 1, ·) ++ later) =
      (depth, node label value children) :: later := by
  have split : (children.map (depth + 1, ·) ++ later).takeWhile (depth < ·.1) =
        children.map (depth + 1, ·) ∧
      (children.map (depth + 1, ·) ++ later).dropWhile (depth < ·.1) = later := by
    refine Text.spanExact (fun next owned => ?_) (fun next first => ?_)
    · obtain ⟨child, _, rfl⟩ := List.mem_map.mp owned
      exact decide_eq_true (Nat.lt_succ_self depth)
    · exact decide_eq_false (Nat.not_lt.mpr (closes next first))
  simp only [attach, split, List.map_map]
  have children : children.map (Prod.snd ∘ (depth + 1, ·)) = children := List.map_id children
  rw [children]

mutual
theorem attachLines {depth : Nat} {later : List (Nat × ReportNode)} (closes : Closes depth later) :
    (n : ReportNode) → (n.lines depth).foldr attach later = (depth, n) :: later
  | node label value children => by
      have below : Closes (depth + 1) later := fun next first => Nat.le_succ_of_le (closes next first)
      rw [lines, List.foldr_cons, attachLinesAll below children, attachOwned closes]

theorem attachLinesAll {depth : Nat} {later : List (Nat × ReportNode)} (closes : Closes depth later) :
    (ns : List ReportNode) → (linesAll depth ns).foldr attach later = ns.map (depth, ·) ++ later
  | [] => rfl
  | n :: rest => by
      rw [linesAll, List.foldr_append, attachLinesAll closes rest]
      refine attachLines (fun next first => ?_) n
      cases rest with
      | nil => exact closes next first
      | cons sibling _ =>
          cases first
          exact Nat.le_refl depth
end

theorem forestLines (depth : Nat) (ns : List ReportNode) : forest (linesAll depth ns) = ns := by
  have nothing : Closes depth [] := fun _ first => nomatch first
  rw [forest, attachLinesAll nothing ns, List.append_nil, List.map_map]
  exact List.map_id ns

end ReportNode

end HeaderOutline
