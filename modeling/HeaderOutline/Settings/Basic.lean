import HeaderOutline.Dictionary
import HeaderOutline.Header.Group
import HeaderOutline.Text.Blank

/-! What a run is configured by, and the checks that types alone do not make. -/
namespace HeaderOutline

structure Settings where
  headers : List HeaderGroup
  includeDirs : List Path
  macros : List String
  predefined : Dictionary String
  frontEndArguments : List String
  inputName : String
  indexSymbols : Bool
  deriving DecidableEq, Repr

namespace Settings

def default : Settings :=
  { headers := []
    includeDirs := []
    macros := []
    predefined := ∅
    frontEndArguments := ["-x", "c++", "-std=c++17", "-Wno-everything"]
    inputName := "input.h"
    indexSymbols := false }

instance : Inhabited Settings := ⟨default⟩

def macroDefinitions (settings : Settings) : List String :=
  settings.macros ++ settings.predefined.entries.map fun entry => entry.1 ++ "=" ++ entry.2

def macroName (definition : String) : String :=
  String.ofList (definition.toList.takeWhile (· ≠ '='))

inductive Fault where
  | blankInputName
  | namelessMacro (definition : String)
  | blankPredefinedName
  | blankHeader (directory : Path)
  deriving DecidableEq, Repr

namespace Fault

def field : Fault → String
  | blankInputName => "input_name"
  | namelessMacro _ => "macros"
  | blankPredefinedName => "predefined"
  | blankHeader _ => "headers"

def reason : Fault → String
  | blankInputName => "must not be empty"
  | namelessMacro definition => "'" ++ definition ++ "' has no macro name"
  | blankPredefinedName => "macro names must not be empty"
  | blankHeader directory => "empty header path in group '" ++ directory.text ++ "'"

def message (fault : Fault) : String :=
  "Invalid configuration value for '" ++ fault.field ++ "': " ++ fault.reason

end Fault

def fault? (settings : Settings) : Option Fault :=
  if Text.IsBlank settings.inputName then some .blankInputName
  else match settings.macros.find? fun m => Text.IsBlank (macroName m) with
    | some definition => some (.namelessMacro definition)
    | none =>
        if settings.predefined.keys.any fun name => Text.IsBlank name then some .blankPredefinedName
        else (settings.headers.find? fun group => group.headers.any fun h => Text.IsBlank h).map
          fun group => .blankHeader group.directory

def Valid (settings : Settings) : Prop := settings.fault? = none

instance (settings : Settings) : Decidable settings.Valid :=
  inferInstanceAs (Decidable (settings.fault? = none))

end Settings

end HeaderOutline
