import HeaderOutline.Declaration.Classification

/-! Nodes of a parsed unit, as a front end shows them: a node's own attributes and its
children in source order. -/
namespace HeaderOutline

inductive TokenKind where
  | punctuation | keyword | identifier | literal | comment
  deriving DecidableEq, Repr

structure Token where
  kind : TokenKind
  spelling : String
  deriving DecidableEq, Repr

def Token.isPunctuation (token : Token) (spelling : String) : Bool :=
  token.kind = .punctuation ∧ token.spelling = spelling

def defaultValue? : List Token → Option String
  | [] => none
  | token :: rest => if token.isPunctuation "=" then rest.head?.map (·.spelling) else defaultValue? rest

inductive CursorKind where
  | unit | ns | classDecl | structDecl | enumDecl | enumConstantDecl | varDecl | functionDecl
  | baseSpecifier | method | fieldDecl | parmDecl | lambdaExpr
  | other (name : String)
  deriving DecidableEq, Repr

namespace CursorKind

def spelling : CursorKind → String
  | unit => "TranslationUnit"
  | ns => "Namespace"
  | classDecl => "ClassDecl"
  | structDecl => "StructDecl"
  | enumDecl => "EnumDecl"
  | enumConstantDecl => "EnumConstantDecl"
  | varDecl => "VarDecl"
  | functionDecl => "FunctionDecl"
  | baseSpecifier => "BaseSpecifier"
  | method => "Method"
  | fieldDecl => "FieldDecl"
  | parmDecl => "ParmDecl"
  | lambdaExpr => "LambdaExpr"
  | other name => name

def named : List CursorKind :=
  [unit, ns, classDecl, structDecl, enumDecl, enumConstantDecl, varDecl, functionDecl,
   baseSpecifier, method, fieldDecl, parmDecl, lambdaExpr]

def ofSpelling? : String → Option CursorKind := HeaderOutline.ofSpelling? spelling named

end CursorKind

inductive Location where
  | user | system | missing
  deriving DecidableEq, Repr

structure CursorHead where
  kind : CursorKind
  name : String
  typeSpelling : String
  location : Location
  isDefinition : Bool
  access : Access
  storage : Storage
  resultType : String
  tokens : List Token
  enumValue : Option Int64
  underlyingType : String
  deriving DecidableEq, Repr

def CursorHead.inSystemHeader (head : CursorHead) : Bool := head.location = .system

inductive Cursor where
  | node (head : CursorHead) (children : List Cursor)
  deriving Repr

namespace Cursor

def head : Cursor → CursorHead
  | node head _ => head

def children : Cursor → List Cursor
  | node _ children => children

def userChildren (cursor : Cursor) : List Cursor :=
  cursor.children.filter fun child => !child.head.inSystemHeader

end Cursor

end HeaderOutline
