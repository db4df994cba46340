import ApiBindings.Proofs.TypeMeaning
import Mathlib.Data.List.Nodup

namespace ApiBindings.TypeScript
open Model (Shape Kind Property)

/-- The type of a property, the use as a list apart. -/
def propertyType (parent : String) (s : Shape) : TypeExpr :=
  if s.isHoistable then .ofName (parent ++ "." ++ s.name) else kindType s.name s.kind

def propertyMember (parent : String) (entry : String × Property) : Member :=
  { comment := propertyComment entry.2.description entry.2.default
    key := entry.1
    optional := !entry.2.required
    type := arrayIf entry.2.shape.repeated (propertyType parent entry.2.shape) }

theorem memberTypes_eq_map (members : List Shape) : memberTypes members = members.map useType := by
  induction members with
  | nil => rfl
  | cons m rest ih =>
    obtain ⟨name, repeated, required, kind⟩ := m
    rw [memberTypes, ih]
    rfl

theorem objectMembers_eq_map (parent : String) (properties : List (String × Property)) :
    objectMembers parent properties = properties.map (propertyMember parent) := by
  induction properties with
  | nil => rfl
  | cons entry rest ih =>
    obtain ⟨key, ⟨name, repeated, required, kind⟩, description, needed, many, default⟩ := entry
    rw [objectMembers, ih]
    rfl

@[simp]
theorem kindType_withoutHoisted (name : String) (kind : Kind) :
    kindType name kind.withoutHoisted = kindType name kind := by
  cases kind <;> rfl

/-- The type that the declaration of a shape gives to its name. -/
def declaredType (s : Shape) : TypeExpr :=
  match s.kind with
  | .object properties _ => .object (objectMembers s.name properties)
  | .enum base items =>
    .union ((enumMembers s.name base [] (distinctLiterals items)).map fun m => .literal m.2)
  | _ => useType s

theorem typeIn?_append (as bs : List Exported) (name : String) :
    typeIn? (as ++ bs) name = (typeIn? as name).or (typeIn? bs name) := by
  simp [typeIn?, List.findSome?_append]

theorem spaceIn?_append (as bs : List Exported) (name : String) :
    spaceIn? (as ++ bs) name = (spaceIn? as name).or (spaceIn? bs name) := by
  simp [spaceIn?, List.findSome?_append]

theorem hoistedBody_eq (kind : Kind) : hoistedBody kind = allDeclarations kind.hoisted := by
  cases kind <;> rfl

theorem declarations_eq (s : Shape) :
    declarations s = { declaration := shapeDeclaration s } ::
      if s.hoisted.isEmpty then [] else
        [{ declaration := .space s.name (allDeclarations s.hoisted) }] := by
  obtain ⟨name, repeated, required, kind⟩ := s
  rw [declarations, hoistedBody_eq]
  rfl

theorem typeIn?_declarations (s : Shape) (name : String) :
    typeIn? (declarations s) name = if s.name = name then some (declaredType s) else none := by
  have hdecl : (shapeDeclaration s).typeNamed? name =
      if s.name = name then some (declaredType s) else none := by
    obtain ⟨n, repeated, required, kind⟩ := s
    cases kind <;> rfl
  rw [declarations_eq, typeIn?, List.findSome?_cons, hdecl]
  split <;> split <;> simp_all [Declaration.typeNamed?]

theorem spaceIn?_declarations (s : Shape) (name : String) :
    spaceIn? (declarations s) name =
      if s.name = name ∧ s.hoisted ≠ [] then some (allDeclarations s.hoisted) else none := by
  have hdecl : (shapeDeclaration s).spaceNamed? name = none := by
    unfold shapeDeclaration
    split <;> rfl
  rw [declarations_eq, spaceIn?, List.findSome?_cons, hdecl]
  cases h : s.hoisted with
  | nil => simp
  | cons first rest => simp [Declaration.spaceNamed?]

/-- A block declares a shape that it is made of, unless another one has its name. -/
theorem typeIn?_allDeclarations_of_unique {shapes : List Shape} {s : Shape} (hs : s ∈ shapes)
    (hu : ∀ other ∈ shapes, other.name = s.name → other = s) :
    typeIn? (allDeclarations shapes) s.name = some (declaredType s) := by
  induction shapes with
  | nil => simp at hs
  | cons first rest ih =>
    rw [allDeclarations, typeIn?_append, typeIn?_declarations]
    by_cases hname : first.name = s.name
    · rw [if_pos hname, hu first (.head _) hname, Option.some_or]
    · have hrest : s ∈ rest := (List.mem_cons.mp hs).resolve_left fun h => hname (h ▸ rfl)
      rw [if_neg hname, Option.none_or]
      exact ih hrest fun other ho => hu other (.tail _ ho)

theorem typeIn?_allDeclarations {shapes : List Shape} (hn : (shapes.map Shape.name).Nodup)
    {s : Shape} (hs : s ∈ shapes) :
    typeIn? (allDeclarations shapes) s.name = some (declaredType s) :=
  typeIn?_allDeclarations_of_unique hs fun _ ho hname => List.inj_on_of_nodup_map hn ho hs hname

theorem spaceIn?_allDeclarations {shapes : List Shape} (hn : (shapes.map Shape.name).Nodup)
    {s : Shape} (hs : s ∈ shapes) (hh : s.hoisted ≠ []) :
    spaceIn? (allDeclarations shapes) s.name = some (allDeclarations s.hoisted) := by
  induction shapes with
  | nil => simp at hs
  | cons first rest ih =>
    rw [List.map_cons, List.nodup_cons] at hn
    rw [allDeclarations, spaceIn?_append, spaceIn?_declarations]
    rcases List.mem_cons.mp hs with rfl | hs
    · simp [hh]
    · have hne : first.name ≠ s.name := fun h => hn.1 (h ▸ List.mem_map_of_mem hs)
      rw [if_neg fun h => hne h.1, Option.none_or, ih hn.2 hs]

end ApiBindings.TypeScript
