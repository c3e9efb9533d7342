import HeaderOutline.Text.Blank
import Mathlib.Data.List.TakeWhile

/-! A text cut at a separator into the pieces between, or cut once, where the characters of a kind end; and what is
left of a text that is trimmed. -/
namespace HeaderOutline.Text

theorem joinedWithin {separator c : Char} {part : List Char} {parts : List (List Char)}
    (listed : part ∈ parts) (inside : c ∈ part) : c ∈ [separator].intercalate parts := by
  induction parts with
  | nil => contradiction
  | cons first others ih =>
      cases others with
      | nil => simpa [List.mem_singleton.mp listed] using inside
      | cons next more =>
          rw [List.intercalate_cons_cons]
          rcases List.mem_cons.mp listed with rfl | later
          · simp [inside]
          · simp [ih later]

theorem pieceWithin {separator c : Char} {piece s : List Char} (listed : piece ∈ s.splitOn separator)
    (inside : c ∈ piece) : c ∈ s := by
  have whole : [separator].intercalate (s.splitOn separator) = s := List.intercalate_splitOn separator
  rw [← whole]
  exact joinedWithin listed inside

theorem pieceFree {separator : Char} {s : List Char} :
    ∀ piece ∈ s.splitOn separator, separator ∉ piece := by
  induction s with
  | nil => simp
  | cons c rest ih =>
      rw [List.splitOn_cons_eq_if_modifyHead]
      split
      · exact List.forall_mem_cons.mpr ⟨List.not_mem_nil, ih⟩
      · rename_i other
        match cut : rest.splitOn separator with
        | [] => exact absurd cut (List.splitOn_ne_nil separator rest)
        | head :: tail =>
            rw [cut] at ih
            obtain ⟨here, later⟩ := List.forall_mem_cons.mp ih
            refine List.forall_mem_cons.mpr ⟨fun inside => ?_, later⟩
            rcases List.mem_cons.mp inside with rfl | further
            · simp at other
            · exact here further

theorem splitIntercalate {text : String} {separator : Char} (single : text.toList = [separator])
    {parts : List String} (nonempty : parts ≠ []) (free : ∀ part ∈ parts, separator ∉ part.toList) :
    (text.intercalate parts).toList.splitOn separator = parts.map String.toList := by
  rw [String.toList_intercalate, single]
  refine List.splitOn_intercalate separator (fun part listed => ?_) (by simpa using nonempty)
  obtain ⟨name, inside, rfl⟩ := List.mem_map.mp listed
  exact free name inside

theorem intercalateOnly {text : String} {separator : Char} (single : text.toList = [separator])
    {xs ys : List String} (xsNonempty : xs ≠ []) (ysNonempty : ys ≠ [])
    (xsFree : ∀ x ∈ xs, separator ∉ x.toList) (ysFree : ∀ y ∈ ys, separator ∉ y.toList)
    (same : text.intercalate xs = text.intercalate ys) : xs = ys := by
  have pieces : xs.map String.toList = ys.map String.toList := by
    rw [← splitIntercalate single xsNonempty xsFree, same, splitIntercalate single ysNonempty ysFree]
  exact (List.map_inj_right fun s t => String.toList_inj.mp).mp pieces

theorem spanExact {α : Type} {p : α → Bool} {body rest : List α} (inside : ∀ a ∈ body, p a = true)
    (stop : ∀ a ∈ rest.head?, p a = false) :
    (body ++ rest).takeWhile p = body ∧ (body ++ rest).dropWhile p = rest := by
  rw [List.takeWhile_append_of_pos inside, List.dropWhile_append_of_pos inside]
  cases rest with
  | nil => simp
  | cons a tail =>
      have failed := stop a rfl
      simp [failed]

theorem isBlankIff {s : String} : IsBlank s ↔ ∀ c ∈ s.toList, isWhiteSpace c = true := by
  unfold IsBlank trim trimEnd
  rw [List.reverse_eq_nil_iff, List.dropWhile_eq_nil_iff]
  constructor
  · intro blank
    suffices empty : trimStart s.toList = [] from List.dropWhile_eq_nil_iff.mp empty
    cases cut : trimStart s.toList with
    | nil => rfl
    | cons c rest =>
        have first := List.head?_dropWhile_not isWhiteSpace s.toList
        rw [← trimStart, cut] at first
        have here := blank c (by simp [cut])
        simp [here] at first
  · intro blank c left
    exact blank c ((List.dropWhile_suffix isWhiteSpace).subset (List.mem_reverse.mp left))

theorem trimWhole {s : List Char} (solid : ∀ c ∈ s, isWhiteSpace c = false) : trim s = s := by
  have stays {t : List Char} (solid : ∀ c ∈ t, isWhiteSpace c = false) : t.dropWhile isWhiteSpace = t := by
    cases t with
    | nil => rfl
    | cons c rest => rw [List.dropWhile_cons, solid c List.mem_cons_self]; rfl
  have turned : ∀ c ∈ s.reverse, isWhiteSpace c = false := fun c inside => solid c (List.mem_reverse.mp inside)
  rw [trim, trimStart, stays solid, trimEnd, stays turned, List.reverse_reverse]

end HeaderOutline.Text
