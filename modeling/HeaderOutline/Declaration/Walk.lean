import HeaderOutline.Declaration.Basic

/-! Ways through an outline's declarations: a walk that keeps the declarations still to visit on a stack, the
recursive preorder, positions given by child numbers, and the search for a name. -/
namespace HeaderOutline

namespace Declaration

mutual
def preorder : Declaration → List Declaration
  | ns name children => ns name children :: preorderAll children
  | record key head members => record key head members :: preorderAll members
  | enum e => [enum e]
  | func name signature => [func name signature]
  | var name type => [var name type]
  | field name access type => [field name access type]
  | method name access signature => [method name access signature]
termination_by structural d => d

def preorderAll : List Declaration → List Declaration
  | [] => []
  | d :: rest => d.preorder ++ preorderAll rest
termination_by structural ds => ds
end

theorem preorderEq (d : Declaration) : d.preorder = d :: preorderAll d.children := by
  cases d <;> simp [preorder, preorderAll, children]

theorem preorderAllAppend (xs ys : List Declaration) :
    preorderAll (xs ++ ys) = preorderAll xs ++ preorderAll ys := by
  induction xs with
  | nil => rfl
  | cons d rest ih => simp [preorderAll, ih]

def visit (stack : List Declaration) : List Declaration :=
  match stack with
  | [] => []
  | d :: rest => d :: visit (d.children ++ rest)
termination_by (preorderAll stack).length
decreasing_by simp only [preorderAll, preorderAllAppend, preorderEq, List.length_append, List.length_cons]; omega

def descend (d : Declaration) : List Nat → Option Declaration
  | [] => some d
  | i :: rest => match d.children[i]? with
      | none => none
      | some child => child.descend rest

end Declaration

abbrev Position := List Nat

namespace Outline

def walk (outline : Outline) : List Declaration := Declaration.visit outline.declarations

def find? (outline : Outline) (name : String) : Option Declaration :=
  outline.walk.find? fun d => d.name = name

def at? (outline : Outline) : Position → Option Declaration
  | [] => none
  | i :: rest => match outline.declarations[i]? with
      | none => none
      | some d => d.descend rest

end Outline

end HeaderOutline
