namespace ApiBindings

/-- Adds an entry to a list with unique keys: a key that is there keeps its place and takes the new
value. -/
def insertEntry {κ α : Type} [DecidableEq κ] (entries : List (κ × α)) (key : κ) (value : α) :
    List (κ × α) :=
  match entries with
  | [] => [(key, value)]
  | (k, v) :: rest => if k = key then (k, value) :: rest else (k, v) :: insertEntry rest key value

/-- Keeps every key once, at its first place and with its last value. -/
def uniqueEntries {κ α : Type} [DecidableEq κ] (entries : List (κ × α)) : List (κ × α) :=
  entries.foldl (fun kept e => insertEntry kept e.1 e.2) []

def distinctBy {α κ : Type} [DecidableEq κ] (key : α → κ) : List α → List α
  | [] => []
  | a :: rest => a :: (distinctBy key rest).filter fun b => key b ≠ key a

end ApiBindings
