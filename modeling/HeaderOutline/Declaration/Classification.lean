/-! Closed classifications carried by declarations. Each has one spelling, used in reports and data. -/
namespace HeaderOutline

def ofSpelling? {α : Type} (spelling : α → String) (all : List α) (text : String) : Option α :=
  all.find? fun a => spelling a = text

inductive Access where
  | pub | prot | priv | unspecified
  deriving DecidableEq, Repr, Inhabited

namespace Access

def spelling : Access → String
  | pub => "public"
  | prot => "protected"
  | priv => "private"
  | unspecified => "none"

def all : List Access := [pub, prot, priv, unspecified]

def ofSpelling? : String → Option Access := HeaderOutline.ofSpelling? spelling all

@[simp] theorem ofSpellingSpelling (a : Access) : ofSpelling? a.spelling = some a := by cases a <;> decide

end Access

inductive Storage where
  | unspecified | external | static | privateExternal | automatic | register | other
  deriving DecidableEq, Repr, Inhabited

namespace Storage

def spelling : Storage → String
  | unspecified => "none"
  | external => "extern"
  | static => "static"
  | privateExternal => "private_extern"
  | automatic => "auto"
  | register => "register"
  | other => "other"

def all : List Storage := [unspecified, external, static, privateExternal, automatic, register, other]

def ofSpelling? : String → Option Storage := HeaderOutline.ofSpelling? spelling all

@[simp] theorem ofSpellingSpelling (s : Storage) : ofSpelling? s.spelling = some s := by cases s <;> decide

end Storage

inductive ClassKey where
  | cls | struct
  deriving DecidableEq, Repr, Inhabited

def ClassKey.spelling : ClassKey → String
  | cls => "class"
  | struct => "struct"

inductive DeclarationKind where
  | ns | record (key : ClassKey) | enum | func | var | field | method
  deriving DecidableEq, Repr, Inhabited

namespace DeclarationKind

def spelling : DeclarationKind → String
  | ns => "namespace"
  | record key => key.spelling
  | enum => "enum"
  | func => "function"
  | var => "variable"
  | field => "field"
  | method => "method"

def all : List DeclarationKind := [ns, record .cls, record .struct, enum, func, var, field, method]

def ofSpelling? : String → Option DeclarationKind := HeaderOutline.ofSpelling? spelling all

@[simp] theorem ofSpellingSpelling (k : DeclarationKind) : ofSpelling? k.spelling = some k := by
  rcases k with _ | key | _ | _ | _ | _ | _ <;> first | decide | (cases key <;> decide)

end DeclarationKind

end HeaderOutline
