import ApiBindings.TypeScript.Schemas

namespace ApiBindings.TypeScript

def Keyword.Admits : Keyword → Json → Prop
  | .string, v => ∃ s, v = .string s
  | .number, v => ∃ n, v = .number n
  | .boolean, v => ∃ b, v = .bool b
  | .null, v => v = .null
  | .unknown, _ => True
  | .any, _ => True
  | .never, _ => False
  | .void, _ => False

def Literal.value : Literal → Json
  | .string s => .string s
  | .number n => .number n

/-- The type that a declaration gives to a name; an enumeration is the union of its values. -/
def Declaration.typeNamed? (name : String) : Declaration → Option TypeExpr
  | .interface n members => if n = name then some (.object members) else none
  | .alias n type => if n = name then some type else none
  | .enum n members =>
    if n = name then some (.union (members.map fun m => .literal m.2)) else none
  | _ => none

def Declaration.spaceNamed? (name : String) : Declaration → Option (List Exported)
  | .space n body => if n = name then some body else none
  | _ => none

/-- The type that a block declares under a name. -/
def typeIn? (block : List Exported) (name : String) : Option TypeExpr :=
  block.findSome? fun e => e.declaration.typeNamed? name

def spaceIn? (block : List Exported) (name : String) : Option (List Exported) :=
  block.findSome? fun e => e.declaration.spaceNamed? name

/-- The values of a type that stands in a block. An object may have members that its type does not
name, and a namespace may itself have points in its name. -/
inductive Inhabits (R : String → Json → Prop) : List Exported → TypeExpr → Json → Prop
  | keyword {block : List Exported} {word : Keyword} {v : Json} (h : word.Admits v) :
      Inhabits R block (.keyword word) v
  | literal (block : List Exported) (l : Literal) : Inhabits R block (.literal l) l.value
  | bool (block : List Exported) (b : Bool) : Inhabits R block (.bool b) (.bool b)
  | array {block : List Exported} {item : TypeExpr} {vs : List Json}
      (h : ∀ v ∈ vs, Inhabits R block item v) : Inhabits R block (.array item) (.array vs)
  | union {block : List Exported} {members : List TypeExpr} {t : TypeExpr} {v : Json}
      (ht : t ∈ members) (h : Inhabits R block t v) : Inhabits R block (.union members) v
  | intersection {block : List Exported} {members : List TypeExpr} {v : Json}
      (h : ∀ t ∈ members, Inhabits R block t v) : Inhabits R block (.intersection members) v
  | parenthesized {block : List Exported} {inner : TypeExpr} {v : Json}
      (h : Inhabits R block inner v) : Inhabits R block (.parenthesized inner) v
  | object {block : List Exported} {members : List Member} {fields : List (String × Json)}
      (hmissing : ∀ m ∈ members, fields.lookup m.key = none → m.optional = true)
      (h : ∀ m ∈ members, ∀ v, fields.lookup m.key = some v → Inhabits R block m.type v) :
      Inhabits R block (.object members) (.object fields)
  | component {block : List Exported} {name : String} {v : Json} (h : R name v) :
      Inhabits R block (.named [name]) v
  | qualified {block body : List Exported} {path : List String} {name : String} {t : TypeExpr}
      {v : Json} (hp : path ≠ []) (hs : spaceIn? block (".".intercalate path) = some body)
      (ht : typeIn? body name = some t) (h : Inhabits R body t v) :
      Inhabits R block (.named (path ++ [name])) v

variable {R : String → Json → Prop} {block body : List Exported} {v : Json}

@[simp]
theorem inhabits_keyword_iff {word : Keyword} :
    Inhabits R block (.keyword word) v ↔ word.Admits v := by
  constructor
  · rintro ⟨h⟩
    exact h
  · exact .keyword

@[simp]
theorem inhabits_literal_iff {l : Literal} : Inhabits R block (.literal l) v ↔ v = l.value := by
  constructor
  · rintro ⟨⟩
    rfl
  · rintro rfl
    exact .literal block l

@[simp]
theorem inhabits_array_iff {item : TypeExpr} :
    Inhabits R block (.array item) v ↔ ∃ vs, v = .array vs ∧ ∀ w ∈ vs, Inhabits R block item w := by
  constructor
  · rintro ⟨⟩
    next vs h => exact ⟨vs, rfl, h⟩
  · rintro ⟨vs, rfl, h⟩
    exact .array h

@[simp]
theorem inhabits_union_iff {members : List TypeExpr} :
    Inhabits R block (.union members) v ↔ ∃ t ∈ members, Inhabits R block t v := by
  constructor
  · rintro ⟨⟩
    next t ht h => exact ⟨t, ht, h⟩
  · rintro ⟨t, ht, h⟩
    exact .union ht h

@[simp]
theorem inhabits_intersection_iff {members : List TypeExpr} :
    Inhabits R block (.intersection members) v ↔ ∀ t ∈ members, Inhabits R block t v := by
  constructor
  · rintro ⟨⟩
    assumption
  · exact .intersection

@[simp]
theorem inhabits_parenthesized_iff {inner : TypeExpr} :
    Inhabits R block (.parenthesized inner) v ↔ Inhabits R block inner v := by
  constructor
  · rintro ⟨⟩
    assumption
  · exact .parenthesized

theorem inhabits_object_iff {members : List Member} :
    Inhabits R block (.object members) v ↔ ∃ fields, v = .object fields ∧ ∀ m ∈ members,
      (fields.lookup m.key = none → m.optional = true) ∧
        ∀ w, fields.lookup m.key = some w → Inhabits R block m.type w := by
  constructor
  · rintro ⟨⟩
    next fields hmissing h => exact ⟨fields, rfl, fun m hm => ⟨hmissing m hm, h m hm⟩⟩
  · rintro ⟨fields, rfl, h⟩
    exact .object (fun m hm => (h m hm).1) fun m hm => (h m hm).2

theorem inhabits_component_iff {name : String} : Inhabits R block (.named [name]) v ↔ R name v := by
  constructor
  · intro h
    generalize ht : TypeExpr.named [name] = t at h
    cases h with
    | component h => cases ht; exact h
    | qualified hp =>
      obtain ⟨he, -⟩ := List.append_inj' (TypeExpr.named.inj ht : [] ++ [name] = _) rfl
      exact absurd he.symm hp
    | _ => cases ht
  · exact .component

theorem inhabits_qualified_iff {path : List String} {name : String} {t : TypeExpr}
    (hp : path ≠ []) (hs : spaceIn? block (".".intercalate path) = some body)
    (ht : typeIn? body name = some t) :
    Inhabits R block (.named (path ++ [name])) v ↔ Inhabits R body t v := by
  constructor
  · intro h
    generalize hn : TypeExpr.named (path ++ [name]) = n at h
    cases h with
    | component h =>
      obtain ⟨he, -⟩ := List.append_inj' (TypeExpr.named.inj hn : _ = [] ++ _) rfl
      exact absurd he hp
    | qualified hp' hs' ht' h =>
      obtain ⟨rfl, he⟩ := List.append_inj' (TypeExpr.named.inj hn) rfl
      cases he
      cases hs.symm.trans hs'
      cases ht.symm.trans ht'
      exact h
    | _ => cases hn
  · exact .qualified hp hs ht

@[simp]
theorem inhabits_grouped_iff {t : TypeExpr} :
    Inhabits R block t.grouped v ↔ Inhabits R block t v := by
  cases t <;> simp [TypeExpr.grouped]

@[simp]
theorem inhabits_unionOf_iff {ts : List TypeExpr} :
    Inhabits R block (.unionOf ts) v ↔ ∃ t ∈ ts, Inhabits R block t v := by
  match ts with
  | [] => simp [TypeExpr.unionOf, Keyword.Admits]
  | [t] => simp [TypeExpr.unionOf]
  | t :: u :: rest => simp [TypeExpr.unionOf]

@[simp]
theorem inhabits_intersectionOf_iff {ts : List TypeExpr} :
    Inhabits R block (.intersectionOf ts) v ↔ ∀ t ∈ ts, Inhabits R block t v := by
  match ts with
  | [] => simp [TypeExpr.intersectionOf, Keyword.Admits]
  | [t] => simp [TypeExpr.intersectionOf]
  | t :: u :: rest => simp [TypeExpr.intersectionOf]

theorem inhabits_arrayIf_congr {block' : List Exported} {t t' : TypeExpr} (repeated : Bool)
    (h : ∀ w, Inhabits R block t w ↔ Inhabits R block' t' w) :
    Inhabits R block (arrayIf repeated t) v ↔ Inhabits R block' (arrayIf repeated t') v := by
  cases repeated with
  | false => exact h v
  | true => simp [arrayIf, TypeExpr.arrayOf, h]

end ApiBindings.TypeScript
