import HeaderOutline.Header.Discovery
import HeaderOutline.Proofs.PathSplitting

/-! File names in a directory, which hold no slash: a name is its own file name, and what follows its last dot
is its extension. -/
namespace HeaderOutline

namespace Path

theorem nameSlashless {name : String} (slashless : '/' ∉ name.toList) (written : name ≠ "") (current : name ≠ ".")
    (parent : name ≠ "..") : (Path.mk name).fileName? = some name := by
  have nonempty : name.toList ≠ [] := by simpa using written
  have noCurrent : name.toList ≠ ['.'] := fun same => current (String.toList_inj.mp same)
  have noParent : name.toList ≠ ['.', '.'] := fun same => parent (String.toList_inj.mp same)
  have counts : Component.ofSegment? name.toList = some (.normal name) := by
    simp [Component.ofSegment?, nonempty, noCurrent, noParent]
  have alone := segmentAlone slashless counts
  rw [String.ofList_toList] at alone
  rw [fileNameExact, alone]
  rfl

theorem slashlessName {name file : String} (slashless : '/' ∉ name.toList)
    (named : (Path.mk name).fileName? = some file) : file = name := by
  by_cases special : name = "" ∨ name = "." ∨ name = ".."
  · rcases special with rfl | rfl | rfl <;> cases named
  · simp only [not_or] at special
    rw [nameSlashless slashless special.1 special.2.1 special.2.2] at named
    exact (Option.some.inj named).symm

theorem extensionOfName {path : Path} {name : String} (named : path.fileName? = some name) :
    path.extension? = match name.toList.reverse.dropWhile (· ≠ '.') with
      | _ :: _ :: _ => some (String.ofList (name.toList.reverse.takeWhile (· ≠ '.')).reverse)
      | _ => none := by
  unfold extension?
  rw [named]
  rfl

theorem extensionSlashless {name extension : String} (slashless : '/' ∉ name.toList) (nonempty : extension ≠ "") :
    (Path.mk name).extension? = some extension ↔
      ∃ stem, stem ≠ "" ∧ '.' ∉ extension.toList ∧ name = stem ++ "." ++ extension := by
  -- The last dot ends the stem, unless it begins the name.
  constructor
  · intro found
    obtain ⟨file, named, cut⟩ := Option.bind_eq_some_iff.mp found
    cases slashlessName slashless named
    dsimp only at cut
    split at cut
    · rename_i dot last before rest
      cases Option.some.inj cut
      have isDot : dot = '.' := by
        have stop := List.head?_dropWhile_not (· ≠ '.') name.toList.reverse
        rw [rest] at stop
        simpa using stop
      have whole := List.takeWhile_append_dropWhile (p := (· ≠ '.')) (l := name.toList.reverse)
      rw [rest, isDot] at whole
      refine ⟨String.ofList (last :: before).reverse, by simp, ?_, ?_⟩
      · rw [String.toList_ofList, List.mem_reverse]
        intro inside
        simpa using List.all_eq_true.mp List.all_takeWhile _ inside
      · apply String.toList_inj.mp
        have turned := congrArg List.reverse whole
        simpa using turned.symm
    · contradiction
  · rintro ⟨stem, written, dotless, rfl⟩
    have reversed : (stem ++ "." ++ extension).toList.reverse =
        extension.toList.reverse ++ '.' :: stem.toList.reverse := by simp
    have named : (Path.mk (stem ++ "." ++ extension)).fileName? = some (stem ++ "." ++ extension) := by
      have stemLong : stem.toList.length ≠ 0 := by simpa using written
      have extensionLong : extension.toList.length ≠ 0 := by simpa using nonempty
      have long : (stem ++ "." ++ extension).toList.length =
          stem.toList.length + (extension.toList.length + 1) := by simp
      refine nameSlashless slashless ?_ ?_ ?_ <;> intro same <;> rw [same] at long
      · have none : "".toList.length = 0 := rfl
        omega
      · have one : ".".toList.length = 1 := rfl
        omega
      · have two : "..".toList.length = 2 := rfl
        omega
    have stops : ∀ c ∈ ('.' :: stem.toList.reverse).head?, decide (c ≠ '.') = false := by simp
    have inside : ∀ c ∈ extension.toList.reverse, decide (c ≠ '.') = true := by
      intro c listed
      rw [List.mem_reverse] at listed
      simpa using fun same : c = '.' => dotless (same ▸ listed)
    obtain ⟨ending, rest⟩ := Text.spanExact inside stops
    obtain ⟨last, before, backwards⟩ : ∃ last before, stem.toList.reverse = last :: before :=
      List.exists_cons_of_ne_nil (by simpa using written)
    rw [extensionOfName named, reversed, ending, rest, backwards]
    simp

example : (Path.mk ".h").extension? = none := by decide +kernel

end Path

def IsHeaderFile (name : String) : Prop :=
  ∃ stem extension, stem ≠ "" ∧ (extension = "h" ∨ extension = "hpp") ∧ name = stem ++ "." ++ extension

theorem headerExtension {path : Path} : isHeaderName path = true ↔
    ∃ extension, (extension = "h" ∨ extension = "hpp") ∧ path.extension? = some extension := by
  unfold isHeaderName headerExtensions
  cases path.extension? <;> simp

theorem headerNameExact {name : String} (slashless : '/' ∉ name.toList) :
    isHeaderName ⟨name⟩ = true ↔ IsHeaderFile name := by
  have plain (extension : String) (known : extension = "h" ∨ extension = "hpp") :
      extension ≠ "" ∧ '.' ∉ extension.toList := by
    rcases known with rfl | rfl <;> simp
  rw [headerExtension]
  constructor
  · rintro ⟨extension, known, found⟩
    obtain ⟨stem, written, -, same⟩ := (Path.extensionSlashless slashless (plain extension known).1).mp found
    exact ⟨stem, extension, written, known, same⟩
  · rintro ⟨stem, extension, written, known, same⟩
    obtain ⟨nonempty, dotless⟩ := plain extension known
    exact ⟨extension, known, (Path.extensionSlashless slashless nonempty).mpr ⟨stem, written, dotless, same⟩⟩

end HeaderOutline
