import HeaderOutline.Settings.Literal
import HeaderOutline.Proofs.Texts
import Mathlib.Data.Bool.AllAny

/-! The texts that the value of a variable can stand for. A word that begins as a name does stands for itself,
and between quotes any text can be written. -/
namespace HeaderOutline

namespace Decimal

variable {c : Char} {rest : List Char}

theorem naturalDigits {text : List Char} (inside : c ∈ text) (other : c.isDigit = false) :
    natural? text = none := by
  have broken : ¬(text ≠ [] ∧ text.all Char.isDigit = true) := by
    rintro ⟨-, digits⟩
    have digit := List.all_eq_true.mp digits c inside
    rw [other] at digit
    contradiction
  exact if_neg broken

theorem unsignedStart (other : c.isDigit = false) (noSign : c ≠ '+') : unsigned? (c :: rest) = none := by
  have none : natural? (c :: rest) = none := naturalDigits List.mem_cons_self other
  simp [unsigned?, noSign, none]

theorem splitSignStart (noPlus : c ≠ '+') (noMinus : c ≠ '-') : splitSign (c :: rest) = (false, c :: rest) := by
  simp [splitSign, noPlus, noMinus]

theorem signedStart (other : c.isDigit = false) (noPlus : c ≠ '+') (noMinus : c ≠ '-') :
    signed? (c :: rest) = none := by
  have none : natural? (c :: rest) = none := naturalDigits List.mem_cons_self other
  simp [signed?, splitSignStart noPlus noMinus, none]

theorem mantissaStart {mantissa : List Char} {exponent : Int}
    (cut : splitExponent? (c :: rest) = some (mantissa, exponent)) :
    mantissa = [] ∨ ∃ tail, mantissa = c :: tail := by
  unfold splitExponent? at cut
  dsimp only at cut
  split at cut
  · cases cut
    exact Or.inr ⟨rest, rfl⟩
  · obtain ⟨n, -, cut⟩ := Option.bind_eq_some_iff.mp cut
    cases cut
    rw [List.takeWhile_cons]
    split
    · exact Or.inr ⟨_, rfl⟩
    · exact Or.inl rfl

theorem floatStart (other : c.isDigit = false) (noPlus : c ≠ '+') (noMinus : c ≠ '-') (noPoint : c ≠ '.') :
    float? (c :: rest) = none := by
  unfold float?
  rw [splitSignStart noPlus noMinus]
  refine Option.bind_eq_none_iff.mpr fun (mantissa, exponent) cut => ?_
  have significand : natural? (mantissa.takeWhile (· ≠ '.') ++ (mantissa.dropWhile (· ≠ '.')).drop 1) =
      none := by
    rcases mantissaStart cut with rfl | ⟨tail, rfl⟩
    · rfl
    · refine naturalDigits (c := c) ?_ other
      simp [noPoint]
  refine Option.bind_eq_none_iff.mpr fun value held => ?_
  rw [significand] at held
  contradiction

end Decimal

namespace Literal

structure IsWord (word : List Char) : Prop where
  starts : ∃ c rest, word = c :: rest ∧ (c.isAlpha ∨ c = '_')
  unbroken : ∀ c ∈ word, isSeparator c = false
  trimmed : Text.trim word = word
  notTrue : ¬"true".toList <+: word
  notFalse : ¬"false".toList <+: word

theorem wordStart {c : Char} (starts : c.isAlpha ∨ c = '_') :
    c.isDigit = false ∧ isSpace c = false ∧ c ∉ ['+', '-', '.', '"', '\'', '[', '\x7b'] := by
  have outside {marks : List Char} (none : marks.all fun mark => ¬(mark.isAlpha ∨ mark = '_')) : c ∉ marks :=
    fun listed => List.all_iff_forall_prop.mp none c listed starts
  refine ⟨?_, decide_eq_false (outside (by decide)), outside (by decide)⟩
  rcases starts with letter | rfl
  · delta Char.isAlpha Char.isUpper Char.isLower at letter
    simp only [Bool.or_eq_true, Bool.and_eq_true, decide_eq_true_eq] at letter
    delta Char.isDigit
    simp only [Bool.and_eq_false_iff, decide_eq_false_iff_not]
    grind
  · decide

theorem wordText {word : List Char} (isWord : IsWord word) : ofWord word = .text (String.ofList word) := by
  obtain ⟨c, rest, rfl, starts⟩ := isWord.starts
  obtain ⟨noDigit, -, marks⟩ := wordStart starts
  simp only [List.mem_cons, List.not_mem_nil, or_false, not_or] at marks
  obtain ⟨noPlus, noMinus, noPoint, -⟩ := marks
  have noFloat : (if '.' ∈ c :: rest then Decimal.float? (c :: rest) else none) = none := by
    rw [Decimal.floatStart noDigit noPlus noMinus noPoint, ite_self]
  rw [ofWord, noFloat, Decimal.unsignedStart noDigit noPlus, Decimal.signedStart noDigit noPlus noMinus]

theorem coreWord {word : List Char} (isWord : IsWord word) (item : List Char → Option (Setting × List Char)) :
    core item word = some (.text (String.ofList word), []) := by
  have text := wordText isWord
  have inside : ∀ c ∈ word, decide (¬isSeparator c = true) = true := by simpa using isWord.unbroken
  have whole : (word ++ []).takeWhile (fun c => ¬isSeparator c) = word ∧
      (word ++ []).dropWhile (fun c => ¬isSeparator c) = [] := Text.spanExact inside nofun
  rw [List.append_nil] at whole
  obtain ⟨c, rest, spelled, starts⟩ := isWord.starts
  have marks := (wordStart starts).2.2
  unfold core
  split
  · exact absurd ⟨_, rfl⟩ isWord.notTrue
  · exact absurd ⟨_, rfl⟩ isWord.notFalse
  · cases spelled
    exact absurd (by simp) marks
  · cases spelled
    exact absurd (by simp) marks
  · cases spelled
    exact absurd (by simp) marks
  · cases spelled
    simp only [List.mem_cons, List.not_mem_nil, or_false, not_or] at marks
    obtain ⟨-, -, -, -, noQuote, -, noBrace⟩ := marks
    rw [if_neg noBrace, if_neg noQuote]
    dsimp only
    rw [whole.1, whole.2, isWord.trimmed, text]
    rfl
  · cases spelled

theorem readWord {word : List Char} (isWord : IsWord word) :
    read (String.ofList word) = .text (String.ofList word) := by
  obtain ⟨c, rest, spelled, starts⟩ := isWord.starts
  have noSpace : skipSpace word = word := by
    rw [spelled, skipSpace, List.dropWhile_cons, (wordStart starts).2.1]
    rfl
  simp only [read, String.toList_ofList, value, noSpace, coreWord isWord, Option.map_some]
  rfl

def escape (c : Char) : List Char :=
  if c = '"' ∨ c = '\\' then ['\\', c]
  else if Text.isControl c then
    ['\\', 'u', '0', '0', Nat.digitChar (c.toNat / 16), Nat.digitChar (c.toNat % 16)]
  else [c]

def quotation (text : String) : String := String.ofList ('"' :: text.toList.flatMap escape ++ ['"'])

theorem digitRead {n : Nat} (small : n < 16) : Text.hexDigit? (Nat.digitChar n) = some n := by
  have all : ∀ digit : Fin 16, Text.hexDigit? (Nat.digitChar digit) = some digit.val := by decide
  exact all ⟨n, small⟩

theorem controlNumbered {c : Char} (control : Text.isControl c = true) (rest : List Char) :
    Text.numbered? 4 ('0' :: '0' :: Nat.digitChar (c.toNat / 16) :: Nat.digitChar (c.toNat % 16) :: rest) =
      some (c, rest) := by
  have small : c.toNat < 128 := by
    simp only [Text.isControl, Bool.and_eq_true, Bool.or_eq_true, decide_eq_true_eq] at control
    obtain ⟨-, before | rfl⟩ := control
    · have bound : c.toNat < ' '.toNat := before
      exact Nat.lt_trans bound (by decide)
    · decide
  have high := digitRead (n := c.toNat / 16) (by omega)
  have low := digitRead (n := c.toNat % 16) (by omega)
  have number : Text.ofHexDigits? 0
      ['0', '0', Nat.digitChar (c.toNat / 16), Nat.digitChar (c.toNat % 16)] = some c.toNat := by
    have zero : Text.hexDigit? '0' = some 0 := by decide
    simp only [Text.ofHexDigits?, zero, high, low, bind, Option.bind]
    congr 1
    omega
  have valid : c.toNat.isValidChar := by
    left
    omega
  simp [Text.numbered?, number, valid]

theorem escapeRead (c : Char) {rest content tail : List Char} {bound : Nat}
    (later : Text.escapedUpTo bound rest = some (content, tail)) :
    Text.escapedUpTo (bound + 1) (escape c ++ rest) = some (c :: content, tail) := by
  unfold escape
  by_cases mark : c = '"' ∨ c = '\\'
  · rw [if_pos mark]
    rcases mark with rfl | rfl
    · simp [Text.escapedUpTo, Text.escape?, later]
    · simp [Text.escapedUpTo, Text.escape?, later]
  · rw [if_neg mark]
    obtain ⟨noQuote, noSlash⟩ := not_or.mp mark
    by_cases control : Text.isControl c = true
    · rw [if_pos control]
      simp [Text.escapedUpTo, Text.escape?, controlNumbered control rest, later]
    · rw [if_neg control]
      simp [Text.escapedUpTo, control, later]

theorem contentRead (content rest : List Char) {bound : Nat} (room : content.length < bound) :
    Text.escapedUpTo bound (content.flatMap escape ++ '"' :: rest) = some (content, rest) := by
  induction content generalizing bound with
  | nil =>
      cases bound with
      | zero => contradiction
      | succ bound => rfl
  | cons c content ih =>
      cases bound with
      | zero => contradiction
      | succ bound =>
          rw [List.flatMap_cons, List.append_assoc]
          exact escapeRead c (ih (Nat.lt_of_succ_lt_succ room))

theorem escapeLength (content : List Char) : content.length ≤ (content.flatMap escape).length := by
  induction content with
  | nil => exact Nat.le_refl _
  | cons c content ih =>
      have own : 1 ≤ (escape c).length := by
        unfold escape
        split
        · simp
        · split <;> simp
      rw [List.flatMap_cons, List.length_append, List.length_cons]
      omega

theorem readQuotation (text : String) : read (quotation text) = .text text := by
  have size := escapeLength text.toList
  have content : Text.escapedContent? (text.toList.flatMap escape ++ ['"']) = some (text.toList, []) := by
    refine contentRead text.toList [] ?_
    rw [List.length_append, List.length_singleton]
    omega
  have opened : skipSpace ('"' :: text.toList.flatMap escape ++ ['"']) =
      '"' :: text.toList.flatMap escape ++ ['"'] := rfl
  simp only [read, quotation, String.toList_ofList, value, opened]
  simp [core, content, skipSpace]

end Literal

end HeaderOutline
