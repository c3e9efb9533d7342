import HeaderOutline.Report
import HeaderOutline.Proofs.Texts

/-! Reading the lines of a report. A report is cut at its line ends; the blanks in front of a line give
its depth and its first colon ends the label. A line is read back as it was written if its label is one
of the report's own and its value holds no line end. -/
namespace HeaderOutline

def readLine (text : List Char) : Line :=
  let body := text.dropWhile (· = ' ')
  ⟨(text.takeWhile (· = ' ')).length / 2, String.ofList (body.takeWhile (· ≠ ':')),
   String.ofList ((body.dropWhile (· ≠ ':')).drop 2)⟩

def readLines (report : String) : List Line :=
  (report.toList.splitOn '\n').dropLast.map readLine

def reportLabels : List String :=
  ["translation unit", "namespace", "class", "inner class", "struct", "inner struct", "enum", "function",
   "variable", "field", "cxxmethod", "type", "base", "underlying", "constant", "value", "return", "storage",
   "param", "default", "access"]

theorem labelExact : ∀ label ∈ reportLabels,
    label.toList.head? ≠ some ' ' ∧ label.toList ≠ [] ∧ ':' ∉ label.toList ∧ '\n' ∉ label.toList := by
  decide

structure Line.Clean (line : Line) : Prop where
  known : line.label ∈ reportLabels
  unbroken : '\n' ∉ line.value.toList

def Line.characters (line : Line) : List Char :=
  List.replicate (2 * line.depth) ' ' ++ (line.label.toList ++ ':' :: ' ' :: line.value.toList)

theorem textCharacters (line : Line) : line.text.toList = line.characters ++ ['\n'] := by
  simp [Line.text, Line.characters, indentation]

theorem charactersUnbroken {line : Line} (clean : line.Clean) : '\n' ∉ line.characters := by
  obtain ⟨_, _, _, label⟩ := labelExact line.label clean.known
  have value := clean.unbroken
  simp [Line.characters, label, value]

theorem readLineCharacters {line : Line} (clean : line.Clean) : readLine line.characters = line := by
  obtain ⟨unindented, nonempty, colonless, _⟩ := labelExact line.label clean.known
  obtain ⟨depth, label, value⟩ := line
  have blanks : (List.replicate (2 * depth) ' ' ++ (label.toList ++ ':' :: ' ' :: value.toList)).takeWhile
        (· = ' ') = List.replicate (2 * depth) ' ' ∧
      (List.replicate (2 * depth) ' ' ++ (label.toList ++ ':' :: ' ' :: value.toList)).dropWhile
        (· = ' ') = label.toList ++ ':' :: ' ' :: value.toList := by
    refine Text.spanExact (fun c blank => ?_) (fun c first => ?_)
    · exact decide_eq_true (List.eq_of_mem_replicate blank)
    · cases letters : label.toList with
      | nil => exact absurd letters nonempty
      | cons letter rest =>
          rw [letters] at first unindented
          cases first
          exact decide_eq_false fun blank => unindented (congrArg some blank)
  have colon : (label.toList ++ ':' :: ' ' :: value.toList).takeWhile (· ≠ ':') = label.toList ∧
      (label.toList ++ ':' :: ' ' :: value.toList).dropWhile (· ≠ ':') = ':' :: ' ' :: value.toList := by
    refine Text.spanExact (fun c inside => ?_) (fun c first => ?_)
    · exact decide_eq_true fun same => colonless (same ▸ inside)
    · cases first
      rfl
  simp only [readLine, Line.characters, blanks, colon]
  simp

theorem piecesEnded {separator : Char} {parts : List (List Char)}
    (free : ∀ part ∈ parts, separator ∉ part) :
    (parts.flatMap (· ++ [separator])).splitOn separator = parts ++ [[]] := by
  have ended : parts.flatMap (· ++ [separator]) = [separator].intercalate (parts ++ [[]]) := by
    induction parts with
    | nil => rfl
    | cons part rest ih =>
        have later := ih fun other listed => free other (List.mem_cons_of_mem part listed)
        cases rest with
        | nil => simp
        | cons next more => simp_all
  rw [ended]
  refine List.splitOn_intercalate separator (fun part listed => ?_) (by simp)
  rcases List.mem_append.mp listed with here | last
  · exact free part here
  · simp [List.mem_singleton.mp last]

theorem readLinesText {lines : List Line} (clean : ∀ line ∈ lines, line.Clean) :
    readLines (String.join (lines.map Line.text)) = lines := by
  have characters : (String.join (lines.map Line.text)).toList =
      (lines.map Line.characters).flatMap (· ++ ['\n']) := by
    simp [String.toList_join, List.flatMap_map, textCharacters]
  have free : ∀ part ∈ lines.map Line.characters, '\n' ∉ part := by
    intro part listed
    obtain ⟨line, inLines, rfl⟩ := List.mem_map.mp listed
    exact charactersUnbroken (clean line inLines)
  unfold readLines
  rw [characters, piecesEnded free, List.dropLast_concat, List.map_map]
  calc
    lines.map (readLine ∘ Line.characters) = lines.map id :=
      List.map_congr_left fun line listed => readLineCharacters (clean line listed)
    _ = lines := List.map_id lines

end HeaderOutline
