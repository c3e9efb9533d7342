import HeaderOutline.Proofs.Shape

/-! What an extraction cannot see. A cursor tree has a normal form without system headers, without
anything below a cursor that is not looked into, and without missing locations; of what initializes a
variable or field only its kind is left. A tree and its normal form have the same run, whatever the
context. -/
namespace HeaderOutline

def CursorHead.located (head : CursorHead) : CursorHead :=
  { head with location := if head.location = .missing then .user else head.location }

theorem locatedSystem (head : CursorHead) : head.located.inSystemHeader = head.inSystemHeader := by
  cases location : head.location <;> simp [CursorHead.located, CursorHead.inSystemHeader, location]

theorem locatedUser {head : CursorHead} (user : head.inSystemHeader = false) :
    head.located.location = .user := by
  cases location : head.location <;>
    simp_all [CursorHead.located, CursorHead.inSystemHeader]

theorem locatedTwice (head : CursorHead) : head.located.located = head.located := by
  cases location : head.location <;> simp [CursorHead.located, location]

namespace Cursor

/-- Parameters, base specifiers, constants, truncated records: nothing below them is read. -/
def alone (c : Cursor) : Cursor := node c.head.located []

def onlyOf (kind : CursorKind) (children : List Cursor) : List Cursor :=
  ((children.filter fun child => !child.head.inSystemHeader).filter (·.head.kind = kind)).map alone

def initializer (children : List Cursor) : List Cursor :=
  (children.head?.map fun first => node (CursorHead.bare first.head.kind "") []).toList

def memberNormal : Cursor → Cursor
  | node head children =>
      node head.located
        (match head.kind with
        | .method => onlyOf .parmDecl children
        | .fieldDecl | .varDecl => initializer children
        | _ => [])

mutual
def scopeNormal : Cursor → Cursor
  | node head children =>
      node head.located
        (match head.kind with
        | .ns => scopeNormals children
        | .classDecl | .structDecl => (node head children).userChildren.map memberNormal
        | .enumDecl => onlyOf .enumConstantDecl children
        | .functionDecl => onlyOf .parmDecl children
        | .varDecl => initializer children
        | _ => [])
termination_by structural cursor => cursor

def scopeNormals : List Cursor → List Cursor
  | [] => []
  | first :: rest =>
      if first.head.inSystemHeader then scopeNormals rest else first.scopeNormal :: scopeNormals rest
termination_by structural cursors => cursors
end

def normal (root : Cursor) : Cursor := node root.head.located (scopeNormals root.children)

inductive User : Cursor → Prop where
  | node {head children} (here : head.location = .user) (inner : ∀ child ∈ children, User child) :
      User (node head children)

theorem onlyOfListed {kind : CursorKind} {children : List Cursor} {child : Cursor}
    (listed : child ∈ onlyOf kind children) :
    child.head.inSystemHeader = false ∧ child.head.kind = kind ∧ child.User := by
  obtain ⟨c, kept, rfl⟩ := List.mem_map.mp listed
  obtain ⟨inUser, ofKind⟩ := List.mem_filter.mp kept
  have user : c.head.inSystemHeader = false := by simpa using (List.mem_filter.mp inUser).2
  exact ⟨(locatedSystem c.head).trans user, of_decide_eq_true ofKind, .node (locatedUser user) nofun⟩

theorem onlyOfRead (head : CursorHead) (kind : CursorKind) (children : List Cursor) :
    (node head (onlyOf kind children)).userChildren.filter (·.head.kind = kind) = onlyOf kind children := by
  rw [userChildrenAll fun child listed => (onlyOfListed listed).1]
  exact List.filter_eq_self.mpr fun child listed => decide_eq_true (onlyOfListed listed).2.1

theorem aloneTwice (c : Cursor) : c.alone.alone = c.alone :=
  congrArg (node · []) (locatedTwice c.head)

theorem onlyOfTwice (kind : CursorKind) (children : List Cursor) :
    onlyOf kind (onlyOf kind children) = onlyOf kind children := by
  calc
    onlyOf kind (onlyOf kind children) = (onlyOf kind children).map alone :=
      congrArg (List.map alone) (onlyOfRead (CursorHead.bare kind "") kind children)
    _ = onlyOf kind children := by
      unfold onlyOf
      rw [List.map_map]
      exact List.map_congr_left fun c _ => aloneTwice c

theorem initializerListed {children : List Cursor} {child : Cursor}
    (listed : child ∈ initializer children) : child.User := by
  cases children with
  | nil => simp [initializer] at listed
  | cons first rest =>
      cases List.mem_singleton.mp listed
      exact .node rfl nofun

theorem initializerTwice (children : List Cursor) :
    initializer (initializer children) = initializer children := by
  cases children <;> rfl

theorem memberNormalTwice (c : Cursor) : c.memberNormal.memberNormal = c.memberNormal := by
  obtain ⟨head, children⟩ := c
  have kind : head.located.kind = head.kind := rfl
  simp only [memberNormal, kind, locatedTwice]
  cases head.kind <;> simp only [onlyOfTwice, initializerTwice]

theorem memberNormalUser {c : Cursor} (user : c.head.inSystemHeader = false) :
    c.memberNormal.head.inSystemHeader = false ∧ c.memberNormal.User := by
  obtain ⟨head, children⟩ := c
  refine ⟨(locatedSystem head).trans user, .node (locatedUser user) fun child listed => ?_⟩
  cases kind : head.kind with
  | method =>
      rw [kind] at listed
      exact (onlyOfListed listed).2.2
  | fieldDecl | varDecl =>
      rw [kind] at listed
      exact initializerListed listed
  | _ => simp [kind] at listed

theorem membersListed {head : CursorHead} {children : List Cursor} {child : Cursor}
    (listed : child ∈ (node head children).userChildren.map memberNormal) :
    child.head.inSystemHeader = false ∧ child.memberNormal = child ∧ child.User := by
  obtain ⟨c, kept, rfl⟩ := List.mem_map.mp listed
  obtain ⟨user, inner⟩ := memberNormalUser (c := c) (by simpa using (List.mem_filter.mp kept).2)
  exact ⟨user, memberNormalTwice c, inner⟩

theorem membersTwice (head outer : CursorHead) (children : List Cursor) :
    (node outer ((node head children).userChildren.map memberNormal)).userChildren.map memberNormal =
      (node head children).userChildren.map memberNormal := by
  rw [userChildrenAll fun child listed => (membersListed listed).1]
  refine (List.map_congr_left fun child listed => ?_).trans (List.map_id _)
  exact (membersListed listed).2.1

mutual
theorem scopeNormalTwice : (c : Cursor) → c.scopeNormal.scopeNormal = c.scopeNormal
  | node head children => by
      have kind : head.located.kind = head.kind := rfl
      cases same : head.kind with
      | ns => simp only [scopeNormal, kind, same, locatedTwice, scopeNormalsTwice children]
      | classDecl | structDecl => simp only [scopeNormal, kind, same, locatedTwice, membersTwice]
      | enumDecl | functionDecl => simp only [scopeNormal, kind, same, locatedTwice, onlyOfTwice]
      | varDecl => simp only [scopeNormal, kind, same, locatedTwice, initializerTwice]
      | _ => simp only [scopeNormal, kind, same, locatedTwice]

theorem scopeNormalsTwice : (cs : List Cursor) → scopeNormals (scopeNormals cs) = scopeNormals cs
  | [] => rfl
  | first :: rest => by
      cases system : first.head.inSystemHeader with
      | true => simp only [scopeNormals, system, if_true, scopeNormalsTwice rest]
      | false =>
          have user : first.scopeNormal.head.inSystemHeader = false := by
            obtain ⟨head, children⟩ := first
            exact (locatedSystem head).trans system
          simp only [scopeNormals, system, user, Bool.false_eq_true, if_false, scopeNormalTwice first,
            scopeNormalsTwice rest]
end

mutual
theorem scopeNormalUser : (c : Cursor) → c.head.inSystemHeader = false → c.scopeNormal.User
  | node head children, user => by
      refine .node (locatedUser user) fun child listed => ?_
      cases kind : head.kind with
      | ns =>
          rw [kind] at listed
          exact scopeNormalsUser children child listed
      | classDecl | structDecl =>
          rw [kind] at listed
          exact (membersListed listed).2.2
      | enumDecl | functionDecl =>
          rw [kind] at listed
          exact (onlyOfListed listed).2.2
      | varDecl =>
          rw [kind] at listed
          exact initializerListed listed
      | _ => simp [kind] at listed

theorem scopeNormalsUser : (cs : List Cursor) → ∀ child ∈ scopeNormals cs, child.User
  | [], _, listed => by simp [scopeNormals] at listed
  | first :: rest, child, listed => by
      cases system : first.head.inSystemHeader with
      | true =>
          simp only [scopeNormals, system, if_true] at listed
          exact scopeNormalsUser rest child listed
      | false =>
          simp only [scopeNormals, system, Bool.false_eq_true, if_false] at listed
          rcases List.mem_cons.mp listed with rfl | later
          · exact scopeNormalUser first system
          · exact scopeNormalsUser rest child later
end

end Cursor

namespace Extraction
open Cursor

theorem signatureNormal (head : CursorHead) (children : List Cursor) :
    signature (.node head.located (onlyOf .parmDecl children)) = signature (.node head children) := by
  unfold signature
  rw [onlyOfRead, onlyOf, List.map_map]
  rfl

theorem valueTypeNormal (head : CursorHead) (children : List Cursor) :
    valueType (.node head.located (initializer children)) = valueType (.node head children) := by
  cases children <;> rfl

theorem constantsNormal (next : Int64) (cs : List Cursor) :
    constantsFrom next (cs.map alone) = constantsFrom next cs := by
  induction cs generalizing next with
  | nil => rfl
  | cons c rest ih =>
      rw [List.map_cons, constantsFrom, constantsFrom, ih]
      rfl

theorem enumerationNormal (head : CursorHead) (children : List Cursor) :
    enumeration (.node head.located (onlyOf .enumConstantDecl children)) =
      enumeration (.node head children) := by
  unfold enumeration
  rw [onlyOfRead, onlyOf, constantsNormal]
  rfl

theorem memberNormal (record : String) (c : Cursor) : member record c.memberNormal = member record c := by
  obtain ⟨head, children⟩ := c
  have kind : head.located.kind = head.kind := rfl
  cases same : head.kind with
  | method =>
      have read := signatureNormal head children
      simp only [member, Cursor.memberNormal, Cursor.head, kind, same, read]
      rfl
  | fieldDecl | varDecl =>
      have read := valueTypeNormal head children
      simp only [member, Cursor.memberNormal, Cursor.head, kind, same, read]
      rfl
  | _ =>
      simp only [member, Cursor.memberNormal, Cursor.head, kind, same]
      rfl

theorem membersNormal (head : CursorHead) (children : List Cursor) :
    members (.node head.located ((Cursor.node head children).userChildren.map Cursor.memberNormal)) =
      members (.node head children) := by
  unfold members
  rw [userChildrenAll fun child listed => (membersListed listed).1, List.map_map]
  exact List.map_congr_left fun c _ => memberNormal head.name c

theorem recordNormal (key : ClassKey) (head : CursorHead) (children : List Cursor) :
    record key (.node head.located ((Cursor.node head children).userChildren.map Cursor.memberNormal)) =
      record key (.node head children) := by
  unfold record
  rw [membersNormal]
  rfl

theorem nothingAppend (y : Yield) : Yield.nothing ++ y = y := rfl

mutual
theorem cursorNormal (outer : Position) (number : Nat) (context : Context) :
    (c : Cursor) → cursor outer number context c.scopeNormal = cursor outer number context c
  | .node head children => by
      have kind : head.located.kind = head.kind := rfl
      have name : head.located.name = head.name := rfl
      have definition : head.located.isDefinition = head.isDefinition := rfl
      cases same : head.kind with
      | ns =>
          have inner := scopeNormals (outer ++ [number]) 0 (context.enterNamespace head.name) children
          simp only [scopeNormal, cursor, kind, name, definition, locatedSystem, same, inner]
      | classDecl | structDecl =>
          simp only [scopeNormal, cursor, kind, definition, locatedSystem, same, recordNormal, skippedMembers,
            membersNormal]
      | enumDecl =>
          simp only [scopeNormal, cursor, kind, definition, locatedSystem, same, enumerationNormal]
      | varDecl =>
          simp only [scopeNormal, cursor, kind, name, definition, locatedSystem, same, valueTypeNormal]
      | functionDecl =>
          simp only [scopeNormal, cursor, kind, name, definition, locatedSystem, same, signatureNormal]
      | _ => simp only [scopeNormal, cursor, kind, name, locatedSystem, same]

theorem scopeNormals (outer : Position) (number : Nat) (context : Context) :
    (cs : List Cursor) → scope outer number context (Cursor.scopeNormals cs) = scope outer number context cs
  | [] => rfl
  | first :: rest => by
      cases system : first.head.inSystemHeader with
      | true =>
          have skipped : cursor outer number context first = (.nothing, context) := by
            obtain ⟨head, children⟩ := first
            have here : head.inSystemHeader = true := system
            simp [cursor, here]
          simp only [Cursor.scopeNormals, scope, system, skipped, if_true, nothingAppend]
          exact scopeNormals outer number context rest
      | false =>
          simp only [Cursor.scopeNormals, scope, system, Bool.false_eq_true, if_false,
            cursorNormal outer number context first]
          rw [scopeNormals]
end

end Extraction

theorem invisibleIgnored (root : Cursor) :
    (∀ child ∈ root.normal.children, child.User) ∧
    root.normal.normal = root.normal ∧
    ∀ context, extract root.normal context = extract root context := by
  refine ⟨Cursor.scopeNormalsUser root.children, ?_, fun context => ?_⟩
  · show Cursor.node root.head.located.located (Cursor.scopeNormals (Cursor.scopeNormals root.children)) = _
    rw [locatedTwice, Cursor.scopeNormalsTwice, Cursor.normal]
  · have run : Extraction.scope [] 0 context root.normal.children =
        Extraction.scope [] 0 context root.children :=
      Extraction.scopeNormals [] 0 context root.children
    simp only [extract, run]
    rfl

end HeaderOutline
