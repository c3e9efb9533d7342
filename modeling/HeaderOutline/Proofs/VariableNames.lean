import HeaderOutline.Proofs.Texts
import HeaderOutline.Settings.Environment
import Mathlib.Data.Bool.AllAny

/-! The keys that the name of a variable spells when it names a macro behind the section of the predefined ones.
Case is lost, and two underlines within the name lead one table further down. -/
namespace HeaderOutline

def IsLetter (c : Char) : Prop := c.isAlphanum ∨ c = '_'

instance (c : Char) : Decidable (IsLetter c) := inferInstanceAs (Decidable (c.isAlphanum ∨ c = '_'))

structure IsIdentifier (name : String) : Prop where
  starts : ∃ c rest, name.toList = c :: rest ∧ c.isDigit = false
  letters : ∀ c ∈ name.toList, IsLetter c

theorem identifierSpelled {name : String} {c : Char} {rest : List Char} (spelled : name.toList = c :: rest)
    (noDigit : c.isDigit = false) (letters : name.toList.all (IsLetter ·)) : IsIdentifier name :=
  ⟨⟨c, rest, spelled, noDigit⟩, List.all_iff_forall_prop.mp letters⟩

def predefinedVariable (name : String) : String := "CXXMETA_PREDEFINED__" ++ name

def lowered (name : String) : List Char := name.toList.map Char.toLower

def SameLetters (a b : String) : Prop := lowered a = lowered b

section

variable {c : Char}

theorem letterWithin (letter : IsLetter c) : '0' ≤ c ∧ c ≤ 'z' := by
  rcases letter with alphanumeric | rfl
  · rcases Bool.or_eq_true_iff.mp alphanumeric with alpha | digit
    · rcases Bool.or_eq_true_iff.mp alpha with upper | lower
      · obtain ⟨least, most⟩ := of_decide_eq_true upper
        exact ⟨Char.le_trans (by decide) least, Char.le_trans most (by decide)⟩
      · obtain ⟨least, most⟩ := Bool.and_eq_true_iff.mp lower
        exact ⟨Char.le_trans (by decide) (of_decide_eq_true least), of_decide_eq_true most⟩
    · obtain ⟨least, most⟩ := Bool.and_eq_true_iff.mp digit
      exact ⟨of_decide_eq_true least, Char.le_trans (of_decide_eq_true most) (by decide)⟩
  · decide

theorem letterSolid (letter : IsLetter c) : Text.isWhiteSpace c = false := by
  obtain ⟨least, most⟩ := letterWithin letter
  have least : 48 ≤ c.toNat := least
  have most : c.toNat ≤ 122 := most
  simp only [Text.isWhiteSpace, Text.whiteSpaceRanges, List.any_cons, List.any_nil, Bool.or_false,
    Bool.or_eq_false_iff, Bool.and_eq_false_iff, decide_eq_false_iff_not]
  omega

theorem lowUnchanged (low : c.isUpper = false) : c.toLower = c := dif_neg (of_decide_eq_false low)

theorem upperLowered (upper : c.isUpper = true) : c.toLower.isLower = true := by
  have inside : c.val ≥ 'A'.val ∧ c.val ≤ 'Z'.val := of_decide_eq_true upper
  have least : 65 ≤ c.val.toNat := inside.1
  have most : c.val.toNat ≤ 90 := inside.2
  have moved : c.toLower.val = c.val + ('a'.val - 'A'.val) := congrArg Char.val (dif_pos inside)
  have number : c.toLower.val.toNat = c.val.toNat + 32 := by
    rw [moved, UInt32.toNat_add]
    exact Nat.mod_eq_of_lt (show c.val.toNat + 32 < 2 ^ 32 by omega)
  refine Bool.and_eq_true_iff.mpr ⟨decide_eq_true ?_, decide_eq_true ?_⟩
  · show 97 ≤ c.toLower.val.toNat
    omega
  · show c.toLower.val.toNat ≤ 122
    omega

theorem loweredLow : c.toLower.isUpper = false := by
  cases upper : c.isUpper with
  | false => rwa [lowUnchanged upper]
  | true =>
      have least : 97 ≤ c.toLower.val.toNat :=
        of_decide_eq_true (Bool.and_eq_true_iff.mp (upperLowered upper)).1
      refine decide_eq_false fun within => ?_
      have most : c.toLower.val.toNat ≤ 90 := within.2
      omega

theorem letterLowered (letter : IsLetter c) : IsLetter c.toLower := by
  cases upper : c.isUpper with
  | false => rwa [lowUnchanged upper]
  | true =>
      have alpha : c.toLower.isAlpha = true := Bool.or_eq_true_iff.mpr (.inr (upperLowered upper))
      exact .inl (Bool.or_eq_true_iff.mpr (.inl alpha))

theorem underlineLowered (low : c.toLower = '_') : c = '_' := by
  cases upper : c.isUpper with
  | false => rwa [lowUnchanged upper] at low
  | true =>
      have letter := upperLowered upper
      rw [low] at letter
      contradiction

end

namespace Environment

theorem dotsWithin {s : List Char} {c : Char} (inside : c ∈ withDots s) : c = '.' ∨ c ∈ s := by
  fun_induction withDots s with
  | case1 rest ih =>
      rcases List.mem_cons.mp inside with dot | later
      · exact Or.inl dot
      · exact (ih later).imp_right fun there => List.mem_cons_of_mem _ (List.mem_cons_of_mem _ there)
  | case2 first rest single ih =>
      rcases List.mem_cons.mp inside with rfl | later
      · exact Or.inr List.mem_cons_self
      · exact (ih later).imp_right (List.mem_cons_of_mem first)
  | case3 => contradiction

theorem undivided {s : List Char} (apart : ¬['_', '_'] <:+: s) : withDots s = s := by
  fun_induction withDots s with
  | case1 rest ih => exact absurd ⟨[], rest, rfl⟩ apart
  | case2 first rest single ih =>
      have later : ¬['_', '_'] <:+: rest := fun pair => apart (pair.trans (List.suffix_cons first rest).isInfix)
      rw [ih later]
  | case3 => rfl

theorem divided {s : List Char} (pair : ['_', '_'] <:+: s) : '.' ∈ withDots s := by
  fun_induction withDots s with
  | case1 rest ih => exact List.mem_cons_self
  | case2 first rest single ih =>
      rcases List.infix_cons_iff.mp pair with ⟨rest', here⟩ | later
      · cases here
        exact absurd rfl (single _ rfl)
      · exact List.mem_cons_of_mem first (ih later)
  | case3 => simp at pair

def parts (name : String) : List (List Char) := (withDots (lowered name)).splitOn '.'

variable {name : String}

theorem loweredSolid (identifier : IsIdentifier name) : ∀ c ∈ lowered name, Text.isWhiteSpace c = false := by
  intro c inside
  obtain ⟨original, listed, rfl⟩ := List.mem_map.mp inside
  exact letterSolid (letterLowered (identifier.letters original listed))

theorem pairSpelled (pair : ['_', '_'] <:+: lowered name) : ['_', '_'] <:+: name.toList := by
  obtain ⟨front, back, low⟩ := pair
  obtain ⟨start, rest, whole, startLow, -⟩ := List.map_eq_append_iff.mp low.symm
  obtain ⟨before, middle, split, -, middleLow⟩ := List.map_eq_append_iff.mp startLow
  obtain ⟨a, others, rfl, aLow, othersLow⟩ := List.map_eq_cons_iff.mp middleLow
  obtain ⟨b, none, rfl, bLow, noneLow⟩ := List.map_eq_cons_iff.mp othersLow
  cases List.map_eq_nil_iff.mp noneLow
  rw [whole, split, underlineLowered aLow, underlineLowered bLow]
  exact List.infix_append _ _ _

theorem partsWhole (identifier : IsIdentifier name) (apart : ¬['_', '_'] <:+: name.toList) :
    parts name = [lowered name] := by
  have apartLow : ¬['_', '_'] <:+: lowered name := fun pair => apart (pairSpelled pair)
  have pointless : '.' ∉ lowered name := by
    intro point
    obtain ⟨c, listed, low⟩ := List.mem_map.mp point
    have letter := letterLowered (identifier.letters c listed)
    rw [low] at letter
    exact absurd letter (by decide)
  rw [parts, undivided apartLow]
  exact List.splitOn_eq_singleton pointless

theorem partsDivided (pair : ['_', '_'] <:+: name.toList) :
    ∃ first second rest, parts name = first :: second :: rest := by
  have low : ['_', '_'] <:+: lowered name := pair.map Char.toLower
  have joined : ['.'].intercalate (parts name) = withDots (lowered name) := List.intercalate_splitOn '.'
  have free : ∀ part ∈ parts name, '.' ∉ part := Text.pieceFree
  match found : parts name with
  | [] => exact absurd found (List.splitOn_ne_nil _ _)
  | [only] =>
      rw [found] at joined free
      have whole : only = withDots (lowered name) := by rw [← joined, List.intercalate_singleton]
      exact absurd (whole ▸ divided low) (free only List.mem_cons_self)
  | first :: second :: rest => exact ⟨first, second, rest, rfl⟩

theorem variableSpelled (name : String) :
    (predefinedVariable name).toList = "CXXMETA_PREDEFINED__".toList ++ name.toList :=
  String.toList_append

theorem variableSolid (identifier : IsIdentifier name) :
    ∀ c ∈ (predefinedVariable name).toList, Text.isWhiteSpace c = false := by
  have start : ∀ c ∈ "CXXMETA_PREDEFINED__".toList, Text.isWhiteSpace c = false :=
    List.all_iff_forall_prop.mp (by decide)
  rw [variableSpelled]
  exact List.forall_mem_append.mpr ⟨start, fun c own => letterSolid (identifier.letters c own)⟩

theorem sectionSolid (identifier : IsIdentifier name) :
    ∀ c ∈ "predefined".toList ++ '.' :: withDots (lowered name), Text.isWhiteSpace c = false := by
  have table : ∀ c ∈ "predefined".toList, Text.isWhiteSpace c = false := List.all_iff_forall_prop.mp (by decide)
  have point : Text.isWhiteSpace '.' = false := by decide
  refine List.forall_mem_append.mpr ⟨table, List.forall_mem_cons.mpr ⟨point, fun c inside => ?_⟩⟩
  rcases dotsWithin inside with rfl | own
  · exact point
  · exact loweredSolid identifier c own

theorem keysSpelled (identifier : IsIdentifier name) :
    keys? (predefinedVariable name) =
      if (parts name).any List.isEmpty then none
      else some ("predefined" :: (parts name).map String.ofList) := by
  have characters : (Text.trim (predefinedVariable name).toList).map Char.toLower =
      "cxxmeta_".toList ++ ("predefined__".toList ++ lowered name) := by
    rw [Text.trimWhole (variableSolid identifier), variableSpelled, List.map_append]
    rfl
  have start : namePrefix.toList.map Char.toLower = "cxxmeta_".toList := by decide
  have begins : "cxxmeta_".toList.isPrefixOf ("cxxmeta_".toList ++ ("predefined__".toList ++ lowered name)) =
      true := List.isPrefixOf_iff_prefix.mpr (List.prefix_append _ _)
  have dots : withDots ("predefined__".toList ++ lowered name) =
      "predefined".toList ++ '.' :: withDots (lowered name) := rfl
  have pieces : ("predefined".toList ++ '.' :: withDots (lowered name)).splitOn '.' =
      "predefined".toList :: parts name := List.splitOn_append_cons_self_of_not_mem (by decide) _
  unfold keys?
  dsimp only
  rw [characters, start, if_pos begins, List.drop_left, dots, Text.trimWhole (sectionSolid identifier), pieces]
  rfl

def macroKey (name : String) : String := String.ofList (lowered name)

theorem keysWhole (identifier : IsIdentifier name) (apart : ¬['_', '_'] <:+: name.toList) :
    keys? (predefinedVariable name) = some ["predefined", macroKey name] := by
  obtain ⟨c, rest, spelled, -⟩ := identifier.starts
  have given : ¬((parts name).any List.isEmpty = true) := by
    simp [partsWhole identifier apart, lowered, spelled]
  rw [keysSpelled identifier, if_neg given, partsWhole identifier apart]
  rfl

example : keys? (predefinedVariable "API_LEVEL") = some ["predefined", "api_level"] := by decide +kernel

theorem keysDivided (identifier : IsIdentifier name) (pair : ['_', '_'] <:+: name.toList) :
    keys? (predefinedVariable name) = none ∨ ∃ first second rest,
      keys? (predefinedVariable name) = some ("predefined" :: first :: second :: rest) := by
  obtain ⟨first, second, rest, divided⟩ := partsDivided pair
  rw [keysSpelled identifier, divided]
  split
  · exact Or.inl rfl
  · exact Or.inr ⟨_, _, _, rfl⟩

end Environment

theorem macroKeyLetters (name : String) : SameLetters (Environment.macroKey name) name := by
  unfold SameLetters lowered Environment.macroKey
  rw [String.toList_ofList, lowered, List.map_map]
  exact List.map_congr_left fun c _ => lowUnchanged loweredLow

theorem macroKeyLow {name : String} (low : ∀ c ∈ name.toList, c.isUpper = false) :
    Environment.macroKey name = name := by
  have stays : ∀ c ∈ name.toList, c.toLower = id c := fun c listed => lowUnchanged (low c listed)
  have same : lowered name = name.toList := (List.map_congr_left stays).trans (List.map_id _)
  rw [Environment.macroKey, same, String.ofList_toList]

theorem macroKeySolid {name : String} (identifier : IsIdentifier name) :
    ¬Text.IsBlank (Environment.macroKey name) := by
  obtain ⟨c, rest, spelled, -⟩ := identifier.starts
  intro blank
  rw [Text.isBlankIff, Environment.macroKey, String.toList_ofList] at blank
  have listed : c.toLower ∈ lowered name := List.mem_map_of_mem (by simp [spelled])
  have solid := Environment.loweredSolid identifier c.toLower listed
  rw [blank c.toLower listed] at solid
  contradiction

end HeaderOutline
