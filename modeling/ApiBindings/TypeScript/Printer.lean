import ApiBindings.TypeScript.CommentTable
import ApiBindings.TypeScript.StringLiteral

namespace ApiBindings.TypeScript

def indent (level : Nat) : String := String.ofList (List.replicate (2 * level) ' ')

/-- Lines between braces, the last of which stands at the given level. -/
def braced (level : Nat) (lines : List String) : String :=
  "\x7b\n" ++ String.join (lines.map fun line => indent (level + 1) ++ line ++ "\n")
    ++ indent level ++ "\x7d"

def commaSeparated : List String → List String
  | [] => []
  | [line] => [line]
  | line :: rest => (line ++ ",") :: commaSeparated rest

def Keyword.text : Keyword → String
  | .string => "string"
  | .number => "number"
  | .boolean => "boolean"
  | .null => "null"
  | .never => "never"
  | .unknown => "unknown"
  | .any => "any"
  | .void => "void"

def Literal.text : Literal → String
  | .string value => stringLiteral value
  | .number value => String.ofList value.chars

def keyText (key : String) : String := if Text.isIdentifier key then key else stringLiteral key

mutual

def Expr.text (level : Nat) : Expr → String
  | .string value => stringLiteral value
  | .template parts => "`" ++ String.join (partTexts level parts) ++ "`"
  | .property variableName key =>
    if Text.isIdentifier key then variableName ++ "." ++ key
    else variableName ++ "[" ++ stringLiteral key ++ "]"
  | .call function arg => function ++ "(" ++ Expr.text level arg ++ ")"
  | .object entries => braced level (commaSeparated (entryTexts (level + 1) entries))

def partTexts (level : Nat) : List TemplatePart → List String
  | [] => []
  | .text text :: rest => text :: partTexts level rest
  | .hole value :: rest => ("$\x7b" ++ Expr.text level value ++ "\x7d") :: partTexts level rest

def entryTexts (level : Nat) : List (String × Expr) → List String
  | [] => []
  | (key, value) :: rest => (keyText key ++ ": " ++ Expr.text level value) :: entryTexts level rest

end

def MemberName.print : MemberName → String
  | .bare text => text
  | .quoted text => stringLiteral text

def functionText (level : Nat) (name : String) (params : List String) (result : String)
    (returned : Expr) : String :=
  "function " ++ name ++ "(" ++ ", ".intercalate params ++ "): " ++ result ++ " "
    ++ braced level ["return " ++ returned.text (level + 1) ++ ";"]

section Marked

variable {Mark : Type} (lead : Mark → String)

def leadText : Option Mark → String
  | none => ""
  | some mark => lead mark

mutual

def TypeExpr.text (level : Nat) : TypeExpr Mark → String
  | .keyword word => word.text
  | .literal value => value.text
  | .bool value => if value then "true" else "false"
  | .named path => ".".intercalate path
  | .generic name args => name ++ "<" ++ ", ".intercalate (typeTexts level args) ++ ">"
  | .array item => TypeExpr.text level item ++ "[]"
  | .union members => " | ".intercalate (typeTexts level members)
  | .intersection members => " & ".intercalate (typeTexts level members)
  | .parenthesized inner => "(" ++ TypeExpr.text level inner ++ ")"
  | .object members => braced level (memberTexts (level + 1) members)
  | .function params result =>
    "(" ++ ", ".intercalate (paramTexts level params) ++ ") => " ++ TypeExpr.text level result

def typeTexts (level : Nat) : List (TypeExpr Mark) → List String
  | [] => []
  | t :: rest => TypeExpr.text level t :: typeTexts level rest

def memberTexts (level : Nat) : List (Member Mark) → List String
  | [] => []
  | ⟨comment, key, optional, type⟩ :: rest =>
    (leadText lead comment ++ keyText key ++ (if optional then "?: " else ": ")
      ++ TypeExpr.text level type ++ ";") :: memberTexts level rest

def paramTexts (level : Nat) : List (String × TypeExpr Mark) → List String
  | [] => []
  | (name, type) :: rest => (name ++ ": " ++ TypeExpr.text level type) :: paramTexts level rest

end

mutual

def Declaration.text (level : Nat) : Declaration Mark → String
  | .interface name members => "interface " ++ name ++ " " ++
    braced level (memberTexts lead (level + 1) members)
  | .alias name type => "type " ++ name ++ " = " ++ type.text lead level ++ ";"
  | .enum name members => "enum " ++ name ++ " " ++
    braced level (commaSeparated (members.map fun m => m.1.print ++ " = " ++ m.2.text))
  | .space name body => "namespace " ++ name ++ " " ++
    braced level (exportedTexts (level + 1) body)
  | .function name params result returned =>
    functionText level name (paramTexts lead level params) (result.text lead level) returned

def exportedTexts (level : Nat) : List (Exported Mark) → List String
  | [] => []
  | ⟨comment, declaration⟩ :: rest =>
    (leadText lead comment ++ "export " ++ Declaration.text level declaration)
      :: exportedTexts level rest

end

def Exported.text (level : Nat) (e : Exported Mark) : String :=
  leadText lead e.comment ++ "export " ++ e.declaration.text lead level

def Item.text : Item Mark → String
  | .importTypes names source =>
    "import type \x7b " ++ ", ".intercalate names ++ " \x7d from " ++ stringLiteral source ++ ";"
  | .exportAll source => "export * from " ++ stringLiteral source ++ ";"
  | .declared exported => exported.text lead 0

end Marked

/-- The texts of items, each on lines of its own. Without items there is an empty line. -/
def itemLines (texts : List String) : String :=
  if texts.isEmpty then "\n" else String.join (texts.map fun text => text ++ "\n")

/-- The text of a module, whose comments are looked up at their places. -/
def Module.text (items : Module) : String :=
  let (placed, table) := (placeItems items).run {}
  itemLines (placed.map (Item.text table.leading))

end ApiBindings.TypeScript
