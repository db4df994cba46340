import ApiBindings.Proofs.SchemaForm

namespace ApiBindings.Contract

/-- The values of a type that has nothing inside it; whole numbers are not told apart. -/
def SchemaType.Admits : SchemaType → Json → Prop
  | .integer, v => ∃ n, v = .number n
  | .number, v => ∃ n, v = .number n
  | .string, v => ∃ s, v = .string s
  | .boolean, v => ∃ b, v = .bool b
  | _, _ => False

/-- Conformance goes by the form of a schema: all members, at least one member, one of the literals,
a list of items, an object with its declared properties, or a scalar. -/
inductive Conforms (R : String → Json → Prop) : SchemaNode → Json → Prop
  | reference {p : Pointer} {v : Json} (h : R p.name v) : Conforms R (.ref p) v
  | allOf {s : Schema} {nodes : List SchemaNode} {v : Json} (hs : s.form = .allOf nodes)
      (h : ∀ node ∈ nodes, Conforms R node v) : Conforms R (.inline s) v
  | oneOf {s : Schema} {nodes : List SchemaNode} {node : SchemaNode} {v : Json}
      (hs : s.form = .oneOf nodes) (hn : node ∈ nodes) (h : Conforms R node v) :
      Conforms R (.inline s) v
  | enum {s : Schema} {items : List Json} {v : Json} (hs : s.form = .enum items) (h : v ∈ items) :
      Conforms R (.inline s) v
  | array {s : Schema} {item : SchemaNode} {vs : List Json} (hs : s.form = .array (some item))
      (h : ∀ v ∈ vs, Conforms R item v) : Conforms R (.inline s) (.array vs)
  | object {s : Schema} {properties : List (String × SchemaNode)} {fields : List (String × Json)}
      (hs : s.form = .object properties)
      (hmissing : ∀ entry ∈ properties, fields.lookup entry.1 = none → entry.1 ∉ s.required)
      (h : ∀ entry ∈ properties, ∀ v, fields.lookup entry.1 = some v → Conforms R entry.2 v) :
      Conforms R (.inline s) (.object fields)
  | scalar {s : Schema} {type : SchemaType} {v : Json} (hs : s.form = .scalar (some type))
      (h : type.Admits v) : Conforms R (.inline s) v

variable {R : String → Json → Prop} {s : Schema} {v : Json}

theorem conforms_ref_iff {p : Pointer} : Conforms R (.ref p) v ↔ R p.name v := by
  constructor
  · rintro ⟨h⟩
    exact h
  · exact .reference

theorem conforms_allOf_iff {nodes : List SchemaNode} (hs : s.form = .allOf nodes) :
    Conforms R (.inline s) v ↔ ∀ node ∈ nodes, Conforms R node v := by
  constructor
  · intro h
    cases h <;> simp_all
  · exact .allOf hs

theorem conforms_oneOf_iff {nodes : List SchemaNode} (hs : s.form = .oneOf nodes) :
    Conforms R (.inline s) v ↔ ∃ node ∈ nodes, Conforms R node v := by
  constructor
  · intro h
    cases h with
    | oneOf hs' hn h =>
      cases hs.symm.trans hs'
      exact ⟨_, hn, h⟩
    | _ => simp_all
  · rintro ⟨node, hn, h⟩
    exact .oneOf hs hn h

theorem conforms_enum_iff {items : List Json} (hs : s.form = .enum items) :
    Conforms R (.inline s) v ↔ v ∈ items := by
  constructor
  · intro h
    cases h <;> simp_all
  · exact .enum hs

theorem conforms_array_iff {item : SchemaNode} (hs : s.form = .array (some item)) :
    Conforms R (.inline s) v ↔ ∃ vs, v = .array vs ∧ ∀ w ∈ vs, Conforms R item w := by
  constructor
  · intro h
    cases h with
    | array hs' h =>
      cases hs.symm.trans hs'
      exact ⟨_, rfl, h⟩
    | _ => simp_all
  · rintro ⟨vs, rfl, h⟩
    exact .array hs h

theorem conforms_object_iff {properties : List (String × SchemaNode)}
    (hs : s.form = .object properties) :
    Conforms R (.inline s) v ↔ ∃ fields, v = .object fields ∧ ∀ entry ∈ properties,
      (fields.lookup entry.1 = none → entry.1 ∉ s.required) ∧
        ∀ w, fields.lookup entry.1 = some w → Conforms R entry.2 w := by
  constructor
  · intro h
    cases h with
    | object hs' hmissing h =>
      cases hs.symm.trans hs'
      exact ⟨_, rfl, fun entry he => ⟨hmissing entry he, h entry he⟩⟩
    | _ => simp_all
  · rintro ⟨fields, rfl, h⟩
    exact .object hs (fun entry he => (h entry he).1) fun entry he => (h entry he).2

theorem conforms_scalar_iff {type : SchemaType} (hs : s.form = .scalar (some type)) :
    Conforms R (.inline s) v ↔ type.Admits v := by
  constructor
  · intro h
    cases h <;> simp_all
  · exact .scalar hs

end ApiBindings.Contract
