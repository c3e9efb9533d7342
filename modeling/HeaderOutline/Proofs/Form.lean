import HeaderOutline.Declaration.Json

/-! How far a data value may be from the one written for what was read from it. Fields that a structure
does not know are dropped, fields left out are filled in, and a word of a closed set may have been written
in another notation; everything else stays as it was given. -/
namespace HeaderOutline

inductive Form where
  | text | flag | number | table
  | word (words : List String)
  | list (item : Form)
  | nullable (inner : Form)
  | record (fields : List (String × Form × Option Json))
  | declaration

namespace Form

def storage : Form := .word (Storage.all.map Storage.spelling)

def access : Form := .word (Access.all.map Access.spelling)

def parameter : Form :=
  .record [("name", .text, none), ("type_spelling", .text, none),
    ("default_value", .nullable .text, some .null)]

def signature : Form :=
  .record [("return_type", .text, none), ("storage", storage, none), ("params", .list parameter, none)]

def valueType : Form := .record [("spelling", .text, none), ("storage", storage, none)]

def base : Form := .record [("access", access, none), ("type_spelling", .text, none)]

def constant : Form :=
  .record [("name", .text, none), ("type_spelling", .text, none), ("value", .number, none)]

def diagnostic : Form :=
  .record [("type", .word ["unrecognized_kind"], none), ("kind", .text, none), ("name", .text, none)]

def outline : Form :=
  .record [("name", .text, none), ("declarations", .list .declaration, none),
    ("diagnostics", .list diagnostic, some (.arr []))]

def headerGroup : Form :=
  .record [("directory", .text, none), ("headers", .list .text, some (.arr [])),
    ("discover", .flag, some (.bool false))]

def settings : Form :=
  .record [("headers", .list headerGroup, some (.arr [])), ("include_dirs", .list .text, some (.arr [])),
    ("macros", .list .text, some (.arr [])), ("predefined", .table, some (.obj [])),
    ("clang_args", .list .text, some (.strings ["-x", "c++", "-std=c++17", "-Wno-everything"])),
    ("input_name", .text, some (.str "input.h")), ("index_symbols", .flag, some (.bool false))]

end Form

namespace DeclarationKind

def content : DeclarationKind → List (String × Form × Option Json)
  | ns => [("name", .text, none), ("children", .list .declaration, none)]
  | record _ =>
      [("name", .text, none), ("type_spelling", .text, none), ("bases", .list Form.base, none),
       ("truncated", .flag, none), ("members", .list .declaration, none)]
  | enum =>
      [("name", .text, none), ("type_spelling", .text, none), ("underlying_type", .text, none),
       ("constants", .list Form.constant, none)]
  | func => [("name", .text, none), ("signature", Form.signature, none)]
  | var => [("name", .text, none), ("value_type", Form.valueType, none)]
  | field => [("name", .text, none), ("access", Form.access, none), ("value_type", Form.valueType, none)]
  | method => [("name", .text, none), ("access", Form.access, none), ("signature", Form.signature, none)]

def form (kind : DeclarationKind) : Form :=
  .record (("kind", .word [kind.spelling], none) :: kind.content)

end DeclarationKind

inductive Written : Form → Json → Prop where
  | text (v) : Written .text v
  | flag (v) : Written .flag v
  | number (v) : Written .number v
  | word (words v) : Written (.word words) v
  | table {entries : List (String × Json)} (distinct : (entries.map Prod.fst).Nodup) :
      Written .table (.obj entries)
  | list {item items} (each : ∀ v ∈ items, Written item v) : Written (.list item) (.arr items)
  | null (inner) : Written (.nullable inner) .null
  | present {inner v} (given : Written inner v) : Written (.nullable inner) v
  | record {fields entries} (distinct : (entries.map Prod.fst).Nodup)
      (each : ∀ name form default v, (name, form, default) ∈ fields → (name, v) ∈ entries → Written form v) :
      Written (.record fields) (.obj entries)
  | declaration {entries} (distinct : (entries.map Prod.fst).Nodup)
      (each : ∀ kind tag, ("kind", tag) ∈ entries → DeclarationKind.ofTag? true tag = some kind →
        Written kind.form (.obj entries)) :
      Written .declaration (.obj entries)

/-- The second value is the first, but for fields dropped because nothing of their name is known, for fields
filled in, and for words that were spelled otherwise. -/
inductive Restates (respelled : Json → String → Prop) : Form → Json → Json → Prop where
  | text (s) : Restates respelled .text (.str s) (.str s)
  | flag (b) : Restates respelled .flag (.bool b) (.bool b)
  | number (n) : Restates respelled .number (.int n) (.int n)
  | table {old new} (same : old.Perm new) : Restates respelled .table (.obj old) (.obj new)
  | word {words v name} (known : name ∈ words) (spelled : v = .str name ∨ respelled v name) :
      Restates respelled (.word words) v (.str name)
  | list {item olds news} (lengths : olds.length = news.length)
      (each : ∀ v w, (v, w) ∈ olds.zip news → Restates respelled item v w) :
      Restates respelled (.list item) (.arr olds) (.arr news)
  | null (inner) : Restates respelled (.nullable inner) .null .null
  | present {inner v w} (given : Restates respelled inner v w) : Restates respelled (.nullable inner) v w
  | record {fields old new} (names : new.map Prod.fst = fields.map Prod.fst)
      (kept : ∀ name form default v w, (name, form, default) ∈ fields → (name, v) ∈ old →
        (name, w) ∈ new → Restates respelled form v w)
      (filled : ∀ name form default w, (name, form, default) ∈ fields → name ∉ old.map Prod.fst →
        (name, w) ∈ new → default = some w) :
      Restates respelled (.record fields) (.obj old) (.obj new)
  | declaration {kind v w} (given : Restates respelled (DeclarationKind.form kind) v w) :
      Restates respelled .declaration v w

def Verbatim (_ : Json) (_ : String) : Prop := False

def plainWords : List String := Access.all.map Access.spelling ++ Storage.all.map Storage.spelling

/-- The other notations for a word: the number of a declaration's kind, or an object without content. -/
inductive Respelled : Json → String → Prop where
  | number {number : Nat} {kind : DeclarationKind} (counted : DeclarationKind.all[number]? = some kind) :
      Respelled (.int number) kind.spelling
  | null {name} (plain : name ∈ plainWords) : Respelled (.obj [(name, .null)]) name
  | empty {name} (plain : name ∈ plainWords) : Respelled (.obj [(name, .obj [])]) name

end HeaderOutline
