import HeaderOutline.Settings.Layer
import HeaderOutline.Settings.Literal

/-! Settings in the environment. The name of a variable spells the way to a setting: after the prefix, two
underlines or a dot go one table down. Case does not count. -/
namespace HeaderOutline

abbrev Environment := List (String × String)

namespace Environment

def namePrefix : String := "CXXMETA_"

def withDots : List Char → List Char
  | '_' :: '_' :: rest => '.' :: withDots rest
  | c :: rest => c :: withDots rest
  | [] => []

def keys? (name : String) : Option (List String) :=
  let characters := (Text.trim name.toList).map Char.toLower
  let start := namePrefix.toList.map Char.toLower
  if start.isPrefixOf characters then
    let keys := (Text.trim (withDots (characters.drop start.length))).splitOn '.'
    if keys.any List.isEmpty then none else some (keys.map String.ofList)
  else none

def entriesOf (name value : String) : Setting.Entries :=
  match keys? name with
  | none => []
  | some keys => (Setting.under keys (Literal.read value)).entries

def entries (environment : Environment) : Setting.Entries :=
  environment.foldl (fun entries (name, value) => Setting.entriesOver entries (entriesOf name value)) []

def layer (environment : Environment) : Layer := ⟨.environment, environment.entries⟩

end Environment

end HeaderOutline
