import ApiBindings.TypeScript.Enum

namespace ApiBindings.TypeScript
open Model (Shape Kind Property)

/-- What the comment of a property says: its description, then its default value. -/
def propertyComment (description : Option String) (default : Option Json) : Option String :=
  match description, default.map fun value => "@default " ++ value.render with
  | some text, some value => some (text ++ " " ++ value)
  | some text, none => some text
  | none, value => value

def arrayIf (repeated : Bool) (t : TypeExpr) : TypeExpr := if repeated then t.arrayOf else t

mutual

def kindType (name : String) : Kind → TypeExpr
  | .reference target => .ofName target
  | .intersection members _ => .intersectionOf (memberTypes members)
  | .union members _ => .unionOf (memberTypes members)
  | .enum _ items => enumType items
  | .object properties _ => .object (objectMembers name properties)
  | .numeric => .keyword .number
  | .string => .keyword .string
  | .boolean => .keyword .boolean

def memberTypes : List Shape → List TypeExpr
  | [] => []
  | ⟨name, repeated, _, kind⟩ :: rest => arrayIf repeated (kindType name kind) :: memberTypes rest

/-- The members for properties, whose hoisted types are in the namespace `parent`. -/
def objectMembers (parent : String) : List (String × Property) → List Member
  | [] => []
  | (key, ⟨⟨name, repeated, requiredShape, kind⟩, description, required, _, default⟩) :: rest =>
    let type :=
      if Shape.isHoistable ⟨name, repeated, requiredShape, kind⟩ then
        TypeExpr.ofName (parent ++ "." ++ name)
      else kindType name kind
    { comment := propertyComment description default, key, optional := !required
      type := arrayIf repeated type } :: objectMembers parent rest

end

def useType (s : Shape) : TypeExpr := arrayIf s.repeated (kindType s.name s.kind)

def shapeDeclaration (s : Shape) : Declaration :=
  match s.kind with
  | .object properties _ => .interface s.name (objectMembers s.name properties)
  | .enum base items => enumDeclaration s.name base items
  | _ => .alias s.name (useType s)

mutual

/-- The declaration of a shape, and the namespace of its hoisted shapes if it has any. -/
def declarations : Shape → List Exported
  | ⟨name, repeated, required, kind⟩ =>
    { declaration := shapeDeclaration ⟨name, repeated, required, kind⟩ } ::
      if kind.hoisted.isEmpty then [] else [{ declaration := .space name (hoistedBody kind) }]

def hoistedBody : Kind → List Exported
  | .intersection _ hoisted => allDeclarations hoisted
  | .union _ hoisted => allDeclarations hoisted
  | .object _ hoisted => allDeclarations hoisted
  | _ => []

def allDeclarations : List Shape → List Exported
  | [] => []
  | s :: rest => declarations s ++ allDeclarations rest

end

def schemasModule (shapes : List Shape) : Module :=
  (shapes.flatMap declarations).map Item.declared

end ApiBindings.TypeScript
