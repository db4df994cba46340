import ApiBindings.Proofs.Emission

namespace ApiBindings.TypeScript

mutual

/-- The members of all object types inside a type, in the order written. -/
def TypeExpr.members : TypeExpr → List Member
  | .generic _ args => typesMembers args
  | .array item => item.members
  | .union types => typesMembers types
  | .intersection types => typesMembers types
  | .parenthesized inner => inner.members
  | .object members => membersWithin members
  | .function params result => paramsMembers params ++ result.members
  | _ => []

def typesMembers : List TypeExpr → List Member
  | [] => []
  | t :: rest => t.members ++ typesMembers rest

def paramsMembers : List (String × TypeExpr) → List Member
  | [] => []
  | (_, t) :: rest => t.members ++ paramsMembers rest

def membersWithin : List Member → List Member
  | [] => []
  | ⟨comment, key, optional, type⟩ :: rest =>
    ⟨comment, key, optional, type⟩ :: (type.members ++ membersWithin rest)

end

/-- The members written in a declaration; those in the block of a namespace are not its own. -/
def Declaration.members : Declaration → List Member
  | .interface _ members => membersWithin members
  | .alias _ type => type.members
  | _ => []

theorem typesMembers_eq_flatMap (types : List TypeExpr) :
    typesMembers types = types.flatMap TypeExpr.members := by
  induction types with
  | nil => rfl
  | cons t rest ih => rw [typesMembers, ih, List.flatMap_cons]

@[simp]
theorem TypeExpr.members_grouped (t : TypeExpr) : t.grouped.members = t.members := by
  cases t <;> simp [TypeExpr.grouped, TypeExpr.members]

@[simp]
theorem TypeExpr.members_unionOf (types : List TypeExpr) :
    (TypeExpr.unionOf types).members = types.flatMap TypeExpr.members := by
  match types with
  | [] => simp [TypeExpr.unionOf, TypeExpr.members]
  | [t] => simp [TypeExpr.unionOf]
  | t :: u :: rest => simp [TypeExpr.unionOf, TypeExpr.members, typesMembers_eq_flatMap]

@[simp]
theorem TypeExpr.members_intersectionOf (types : List TypeExpr) :
    (TypeExpr.intersectionOf types).members = types.flatMap TypeExpr.members := by
  match types with
  | [] => simp [TypeExpr.intersectionOf, TypeExpr.members]
  | [t] => simp [TypeExpr.intersectionOf]
  | t :: u :: rest =>
    simp [TypeExpr.intersectionOf, TypeExpr.members, typesMembers_eq_flatMap, List.flatMap_map]

@[simp]
theorem TypeExpr.members_arrayIf (repeated : Bool) (t : TypeExpr) :
    (arrayIf repeated t).members = t.members := by
  cases repeated <;> simp [arrayIf, TypeExpr.arrayOf, TypeExpr.members]

theorem members_enumType (items : List Json) : (enumType items).members = [] := by
  rw [enumType, TypeExpr.members_unionOf, List.flatMap_map, List.flatMap_eq_nil_iff]
  intro item _
  cases item <;> simp [literalType, TypeExpr.members]

end ApiBindings.TypeScript

namespace ApiBindings.Model

/-- A property in the body of a declaration, with the name of the object that it stands in. -/
structure BodyEntry where
  owner : String
  key : String
  property : Property

mutual

/-- The properties written in the body of a shape with the name and kind, at any depth of members.
A hoisted property has a declaration of its own, and what is inside it is written there. -/
def Kind.body (name : String) : Kind → List BodyEntry
  | .intersection members _ => membersBody members
  | .union members _ => membersBody members
  | .object properties _ => propertiesBody name properties
  | _ => []

def membersBody : List Shape → List BodyEntry
  | [] => []
  | ⟨name, _, _, kind⟩ :: rest => kind.body name ++ membersBody rest

def propertiesBody (owner : String) : List (String × Property) → List BodyEntry
  | [] => []
  | (key, ⟨⟨name, repeated, needed, kind⟩, description, required, many, default⟩) :: rest =>
    ⟨owner, key, ⟨⟨name, repeated, needed, kind⟩, description, required, many, default⟩⟩ ::
      ((if Shape.isHoistable ⟨name, repeated, needed, kind⟩ then [] else kind.body name) ++
        propertiesBody owner rest)

end

def Shape.body (s : Shape) : List BodyEntry := s.kind.body s.name

end ApiBindings.Model

namespace ApiBindings.TypeScript
open Model (Shape Kind Property BodyEntry membersBody propertiesBody)

def entryMember (e : BodyEntry) : Member := propertyMember e.owner (e.key, e.property)

mutual

theorem members_kindType (name : String) (kind : Kind) :
    (kindType name kind).members = (kind.body name).map entryMember := by
  match kind with
  | .reference target => simp [kindType, TypeExpr.ofName, TypeExpr.members, Kind.body]
  | .intersection members _ =>
    rw [kindType, TypeExpr.members_intersectionOf, Kind.body, members_memberTypes]
  | .union members _ =>
    rw [kindType, TypeExpr.members_unionOf, Kind.body, members_memberTypes]
  | .enum _ items => rw [kindType, members_enumType]; rfl
  | .object properties _ => rw [kindType, TypeExpr.members, Kind.body, members_objectMembers]
  | .numeric => rfl
  | .string => rfl
  | .boolean => rfl

theorem members_memberTypes (members : List Shape) :
    (memberTypes members).flatMap TypeExpr.members = (membersBody members).map entryMember := by
  match members with
  | [] => rfl
  | ⟨name, repeated, _, kind⟩ :: rest =>
    rw [memberTypes, List.flatMap_cons, TypeExpr.members_arrayIf, members_kindType name kind,
      members_memberTypes rest, membersBody, List.map_append]

theorem members_objectMembers (owner : String) (properties : List (String × Property)) :
    membersWithin (objectMembers owner properties) =
      (propertiesBody owner properties).map entryMember := by
  match properties with
  | [] => rfl
  | (key, ⟨⟨name, repeated, needed, kind⟩, description, required, many, default⟩) :: rest =>
    have hkind := members_kindType name kind
    rw [objectMembers, membersWithin, members_objectMembers owner rest, propertiesBody,
      List.map_cons, List.map_append, TypeExpr.members_arrayIf]
    by_cases hh : Shape.isHoistable ⟨name, repeated, needed, kind⟩ = true
    · simp [hh, entryMember, propertyMember, propertyType, TypeExpr.ofName, TypeExpr.members]
    · simp [hh, hkind, entryMember, propertyMember, propertyType]

end

end ApiBindings.TypeScript
