import ApiBindings.Text.Letter

namespace ApiBindings.Text

/-- The case of the letters read so far in the current word. -/
inductive WordCase where
  | unknown
  | lower
  | upper
  deriving DecidableEq, Repr

def WordCase.after (mode : WordCase) (c : Char) : WordCase :=
  if isLowercase c then .lower else if isUppercase c then .upper else mode

/-- Cuts one alphanumeric piece into words, `current` holding the open word backwards. A word ends
after a lowercase letter (and digits) before an uppercase one, and before an uppercase letter
between an uppercase word and a lowercase letter. -/
def cutWords (mode : WordCase) (current : List Char) : List Char → List (List Char)
  | [] => []
  | [c] => [(c :: current).reverse]
  | c :: next :: rest =>
    if mode.after c = .lower && isUppercase next then
      (c :: current).reverse :: cutWords .unknown [] (next :: rest)
    else if mode = .upper && isUppercase c && isLowercase next then
      current.reverse :: cutWords .unknown [c] (next :: rest)
    else
      cutWords (mode.after c) (c :: current) (next :: rest)

def words (s : List Char) : List (List Char) :=
  (splitBy isAlphanumeric s).flatMap (cutWords .unknown [])

/-- Lowercases a word; a capital sigma at its end takes its final form. -/
def lowerWord : List Char → List Char
  | [] => []
  | [c] => if c = 'Σ' then ['ς'] else lowercase c
  | c :: rest => lowercase c ++ lowerWord rest

def capitalWord : List Char → List Char
  | [] => []
  | c :: rest => uppercase c ++ lowerWord rest

def pascalCase (s : String) : String := String.ofList ((words s.toList).flatMap capitalWord)

def camelCase (s : List Char) : List Char :=
  match words s with
  | [] => []
  | first :: rest => lowerWord first ++ rest.flatMap capitalWord

end ApiBindings.Text
