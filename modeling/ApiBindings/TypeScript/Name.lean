import ApiBindings.Text.Words

namespace ApiBindings.TypeScript

/-- Reserved words that cannot name a function. -/
def keywords : List String :=
  ["break", "case", "catch", "class", "const", "continue", "debugger", "default", "delete", "do",
   "else", "enum", "export", "extends", "false", "finally", "for", "function", "if", "import",
   "in", "instanceof", "new", "null", "return", "super", "switch", "this", "throw", "true", "try",
   "typeof", "var", "void", "while", "with",
   "implements", "interface", "let", "package", "private", "protected", "public", "static",
   "yield"]

/-- The camel-case name of the function for an operation, with `_` before it where the plain name
could not be declared. -/
def functionName (operationId : String) : String :=
  let name := String.ofList (Text.camelCase (Text.identifierChars operationId.toList))
  if keywords.contains name || !Text.isIdentifier name then "_" ++ name else name

end ApiBindings.TypeScript
