namespace ApiBindings.TypeScript

/-- Puts a backslash into every end mark of a comment. -/
def guardedChars : List Char → List Char
  | [] => []
  | '*' :: '/' :: rest => '*' :: '\\' :: '/' :: guardedChars rest
  | c :: rest => c :: guardedChars rest

def commentBody (text : String) : List Char := '*' :: ' ' :: guardedChars text.toList ++ [' ']

/-- A comment before something, from what stands between its marks. A blank follows it. -/
def leading (body : List Char) : String := String.ofList ('/' :: '*' :: body ++ ['*', '/', ' '])

end ApiBindings.TypeScript
