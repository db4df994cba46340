import ApiBindings.TypeScript.Basic
import ApiBindings.TypeScript.Comment

/-!
Comments apart from the tree they belong to. Every member and every exported declaration of a module
takes a place of its own, before anything inside it does, and its comment goes into a table under
that place.
-/
namespace ApiBindings.TypeScript

/-- Comments by their places, without their marks. The places in use are those before the next one.
Their number has no bound; one of 32 bits would be used up only by more members and declarations
than a contract makes. -/
structure CommentTable where
  entries : List (Nat × List Char) := []
  next : Nat := 1
  inUse : ∀ e ∈ entries, e.1 < next := by simp

namespace CommentTable

def commentsAt (t : CommentTable) (place : Nat) : List (List Char) :=
  (t.entries.filter fun e => e.1 = place).map Prod.snd

def leading (t : CommentTable) (place : Nat) : String :=
  String.join ((t.commentsAt place).map TypeScript.leading)

/-- Takes the next place, and puts the comment there if there is one. -/
def allot (comment : Option String) (t : CommentTable) : Nat × CommentTable :=
  (t.next,
    { entries := t.entries ++ comment.toList.map fun text => (t.next, commentBody text)
      next := t.next + 1
      inUse := by
        intro e he
        rcases List.mem_append.mp he with he | he
        · exact Nat.lt_succ_of_lt (t.inUse e he)
        · obtain ⟨_, -, rfl⟩ := List.mem_map.mp he
          exact Nat.lt_succ_self t.next })

end CommentTable

abbrev Placing := StateM CommentTable

def takePlace (comment : Option String) : Placing Nat := modifyGet (CommentTable.allot comment)

mutual

def TypeExpr.place : TypeExpr → Placing (TypeExpr Nat)
  | .keyword word => return .keyword word
  | .literal value => return .literal value
  | .bool value => return .bool value
  | .named path => return .named path
  | .generic name args => return .generic name (← placeTypes args)
  | .array item => return .array (← TypeExpr.place item)
  | .union members => return .union (← placeTypes members)
  | .intersection members => return .intersection (← placeTypes members)
  | .parenthesized inner => return .parenthesized (← TypeExpr.place inner)
  | .object members => return .object (← placeMembers members)
  | .function params result => return .function (← placeParams params) (← TypeExpr.place result)

def placeTypes : List TypeExpr → Placing (List (TypeExpr Nat))
  | [] => return []
  | t :: rest => return (← TypeExpr.place t) :: (← placeTypes rest)

def placeMembers : List Member → Placing (List (Member Nat))
  | [] => return []
  | ⟨comment, key, optional, type⟩ :: rest =>
    return ⟨some (← takePlace comment), key, optional, ← TypeExpr.place type⟩
      :: (← placeMembers rest)

def placeParams : List (String × TypeExpr) → Placing (List (String × TypeExpr Nat))
  | [] => return []
  | (name, type) :: rest => return (name, ← TypeExpr.place type) :: (← placeParams rest)

end

mutual

def Declaration.place : Declaration → Placing (Declaration Nat)
  | .interface name members => return .interface name (← placeMembers members)
  | .alias name type => return .alias name (← type.place)
  | .enum name members => return .enum name members
  | .space name body => return .space name (← placeExports body)
  | .function name params result returned =>
    return .function name (← placeParams params) (← result.place) returned

def placeExports : List Exported → Placing (List (Exported Nat))
  | [] => return []
  | ⟨comment, declaration⟩ :: rest =>
    return ⟨some (← takePlace comment), ← Declaration.place declaration⟩ :: (← placeExports rest)

end

/-- A declaration that is never commented on, such as a namespace, takes a place too. Nothing is put
there, so that no text depends on it. -/
def Exported.place (e : Exported) : Placing (Exported Nat) :=
  return ⟨some (← takePlace e.comment), ← e.declaration.place⟩

def Item.place : Item → Placing (Item Nat)
  | .importTypes names source => return .importTypes names source
  | .exportAll source => return .exportAll source
  | .declared exported => return .declared (← exported.place)

def placeItems : Module → Placing (Module Nat)
  | [] => return []
  | item :: rest => return (← item.place) :: (← placeItems rest)

end ApiBindings.TypeScript
