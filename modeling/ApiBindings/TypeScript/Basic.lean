import ApiBindings.Json.Basic
import ApiBindings.Text.Identifier

namespace ApiBindings.TypeScript

inductive Literal where
  | string (value : String)
  | number (value : Numeral)
  deriving DecidableEq, Repr

inductive Keyword where
  | string
  | number
  | boolean
  | null
  | never
  | unknown
  | any
  | void
  deriving DecidableEq, Repr

mutual

inductive TypeExpr (Mark : Type := String) where
  | keyword (word : Keyword)
  | literal (value : Literal)
  | bool (value : Bool)
  /-- A type by its name, qualified by the namespaces around it. -/
  | named (path : List String)
  | generic (name : String) (args : List (TypeExpr Mark))
  | array (item : TypeExpr Mark)
  | union (members : List (TypeExpr Mark))
  | intersection (members : List (TypeExpr Mark))
  | parenthesized (inner : TypeExpr Mark)
  | object (members : List (Member Mark))
  | function (params : List (String × TypeExpr Mark)) (result : TypeExpr Mark)

structure Member (Mark : Type := String) where
  comment : Option Mark := none
  key : String
  optional : Bool := false
  type : TypeExpr Mark

end

mutual

inductive Expr where
  | string (value : String)
  | template (parts : List TemplatePart)
  | property (variableName : String) (key : String)
  | call (function : String) (arg : Expr)
  | object (entries : List (String × Expr))

inductive TemplatePart where
  | text (text : String)
  | hole (value : Expr)

end

inductive MemberName where
  | bare (text : String)
  | quoted (text : String)
  deriving DecidableEq, Repr

def MemberName.text : MemberName → String
  | .bare text | .quoted text => text

def MemberName.renamed (text : String) : MemberName → MemberName
  | .bare _ => .bare text
  | .quoted _ => .quoted text

mutual

inductive Declaration (Mark : Type := String) where
  | interface (name : String) (members : List (Member Mark))
  | alias (name : String) (type : TypeExpr Mark)
  | enum (name : String) (members : List (MemberName × Literal))
  | space (name : String) (body : List (Exported Mark))
  | function (name : String) (params : List (String × TypeExpr Mark)) (result : TypeExpr Mark)
    (returned : Expr)

structure Exported (Mark : Type := String) where
  comment : Option Mark := none
  declaration : Declaration Mark

end

inductive Item (Mark : Type := String) where
  | importTypes (names : List String) (source : String)
  | exportAll (source : String)
  | declared (exported : Exported Mark)

abbrev Module (Mark : Type := String) := List (Item Mark)

/-- A type by its name; a point in it divides a namespace from what is inside. -/
def TypeExpr.ofName (name : String) : TypeExpr :=
  .named ((Text.splitBy (· != '.') name.toList).map String.ofList)

namespace TypeExpr

/-- Puts a union or an intersection in parentheses, where it stands inside a tighter type. -/
def grouped (t : TypeExpr) : TypeExpr :=
  match t with
  | .union _ | .intersection _ => .parenthesized t
  | _ => t

def arrayOf (item : TypeExpr) : TypeExpr := .array item.grouped

/-- The union of types; nothing belongs to the empty one. -/
def unionOf : List TypeExpr → TypeExpr
  | [] => .keyword .never
  | [t] => t
  | ts => .union ts

/-- The intersection of types; everything belongs to the empty one. -/
def intersectionOf (ts : List TypeExpr) : TypeExpr :=
  match ts.map grouped with
  | [] => .keyword .unknown
  | [t] => t
  | members => .intersection members

end TypeExpr

end ApiBindings.TypeScript
