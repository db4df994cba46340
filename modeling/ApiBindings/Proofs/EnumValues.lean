import ApiBindings.Proofs.MeaningPreserved

namespace ApiBindings

namespace Json

/-- Null and the booleans are written as words. -/
def isWord : Json → Bool
  | .null | .bool _ => true
  | _ => false

def isContainer : Json → Bool
  | .array _ | .object _ => true
  | _ => false

end Json

namespace TypeScript
open Model (EnumBase Shape resolveSchema)

def Declaration.values : Declaration → List Json
  | .enum _ members => members.map fun m => m.2.value
  | _ => []

namespace TypeExpr

def alternatives : TypeExpr → List TypeExpr
  | .union members => members
  | .keyword .never => []
  | t => [t]

def value? : TypeExpr → Option Json
  | .literal l => some l.value
  | .bool b => some (.bool b)
  | .keyword .null => some .null
  | _ => none

def values (t : TypeExpr) : List (Option Json) := t.alternatives.map value?

theorem alternatives_unionOf {ts : List TypeExpr} (h : ∀ t ∈ ts, t.alternatives = [t]) :
    (unionOf ts).alternatives = ts := by
  rcases ts with _ | ⟨t, _ | ⟨u, rest⟩⟩
  · rfl
  · exact h t (.head _)
  · rfl

end TypeExpr

section Meaning

variable {R : String → Json → Prop} {block : List Exported} {v : Json}

theorem inhabits_iff_alternatives {t : TypeExpr} :
    Inhabits R block t v ↔ ∃ a ∈ t.alternatives, Inhabits R block a v := by
  cases t with
  | keyword word => cases word <;> simp [TypeExpr.alternatives, Keyword.Admits]
  | _ => simp [TypeExpr.alternatives]

theorem inhabits_iff_of_value? {t : TypeExpr} {w : Json} (h : t.value? = some w) :
    Inhabits R block t v ↔ v = w := by
  cases t with
  | literal l =>
    cases h
    exact inhabits_literal_iff
  | bool b =>
    cases h
    constructor
    · rintro ⟨⟩
      rfl
    · rintro rfl
      exact .bool block b
  | keyword word =>
    cases word <;> cases h
    exact inhabits_keyword_iff
  | _ => cases h

theorem inhabits_iff_mem_values {t : TypeExpr} (h : none ∉ t.values) :
    Inhabits R block t v ↔ some v ∈ t.values := by
  rw [inhabits_iff_alternatives, TypeExpr.values, List.mem_map]
  refine exists_congr fun a => and_congr_right fun ha => ?_
  cases hw : a.value? with
  | none => exact absurd (List.mem_map.mpr ⟨a, ha, hw⟩) h
  | some w => rw [inhabits_iff_of_value? hw, Option.some.injEq, eq_comm]

theorem inhabits_iff_mem_members {name : String} {members : List (MemberName × Literal)} :
    Inhabits R block (.union (members.map fun m => .literal m.2)) v ↔
      v ∈ (Declaration.enum name members : Declaration).values := by
  simp [Declaration.values, eq_comm]

end Meaning

theorem values_enumType (items : List Json) :
    (enumType items).values = items.eraseDups.map fun item => (literalType item).value? := by
  have halone : ∀ t ∈ (distinctLiterals items).map literalType, t.alternatives = [t] := by
    intro t ht
    obtain ⟨item, -, rfl⟩ := List.mem_map.mp ht
    cases item <;> rfl
  rw [TypeExpr.values, enumType, TypeExpr.alternatives_unionOf halone, List.map_map,
    distinctLiterals_eq_eraseDups]
  rfl

theorem none_not_mem_values_enumType (items : List Json) : none ∉ (enumType items).values := by
  rw [values_enumType, List.mem_map]
  rintro ⟨item, -, h⟩
  cases item <;> cases h

theorem values_enumDeclaration (name : String) (base : EnumBase) (items : List Json) :
    (enumDeclaration name base items).values =
      items.eraseDups.map fun item => (initializer item).value := by
  have hliterals := enumMembers_literals name base [] (distinctLiterals items)
  rw [enumDeclaration, Declaration.values, ← Function.comp_def Literal.value Prod.snd,
    ← List.map_map, hliterals, List.map_map, distinctLiterals_eq_eraseDups]
  rfl

theorem value_initializer_iff (item : Json) :
    (initializer item).value = item ↔ item.isWord = false ∧ item.isContainer = false := by
  cases item <;> simp [initializer, literalText, Literal.value, Json.isWord, Json.isContainer]

theorem value?_literalType_iff (item : Json) :
    (literalType item).value? = some item ↔ item.isContainer = false := by
  cases item <;> simp [literalType, TypeExpr.value?, Literal.value, Json.isContainer]

theorem value?_literalType_eq_initializer_iff (item : Json) :
    (literalType item).value? = some (initializer item).value ↔ item.isWord = false := by
  cases item <;>
    simp [literalType, initializer, literalText, TypeExpr.value?, Literal.value, Json.isWord]

/-- Each rendering of an enumeration has the literals for values, once each and in their order,
exactly if they are of the kinds that it can write, and the two agree exactly if no literal is null
or a boolean. The values are those that inhabit the types. -/
theorem enum_renderings_agree_iff (name : String) (base : EnumBase) (items : List Json) :
    ((enumDeclaration name base items).values = items.eraseDups ↔
      ∀ item ∈ items, item.isWord = false ∧ item.isContainer = false) ∧
    ((enumType items).values = items.eraseDups.map some ↔
      ∀ item ∈ items, item.isContainer = false) ∧
    ((enumType items).values = (enumDeclaration name base items).values.map some ↔
      ∀ item ∈ items, item.isWord = false) ∧
    ∀ (R : String → Json → Prop) (block : List Exported) (v : Json),
      (Inhabits R block (enumType items) v ↔ some v ∈ (enumType items).values) ∧
      ∃ t, (enumDeclaration name base items).typeNamed? name = some t ∧
        (Inhabits R block t v ↔ v ∈ (enumDeclaration name base items).values) := by
  -- The values are read off the literals one by one, so they are compared literal by literal.
  have hforall (p : Json → Prop) : (∀ item ∈ items.eraseDups, p item) ↔ ∀ item ∈ items, p item := by
    simp only [List.mem_eraseDups]
  refine ⟨?_, ?_, ?_, fun R block v => ⟨?_, _, if_pos rfl, ?_⟩⟩
  · have hself := List.map_inj_left (l := items.eraseDups)
      (f := fun item => (initializer item).value) (g := id)
    rw [List.map_id] at hself
    rw [values_enumDeclaration, hself, ← hforall]
    exact forall₂_congr fun item _ => value_initializer_iff item
  · rw [values_enumType, List.map_inj_left, ← hforall]
    exact forall₂_congr fun item _ => value?_literalType_iff item
  · rw [values_enumType, values_enumDeclaration, List.map_map, List.map_inj_left, ← hforall]
    exact forall₂_congr fun item _ => value?_literalType_eq_initializer_iff item
  · exact inhabits_iff_mem_values (none_not_mem_values_enumType items)
  · exact inhabits_iff_mem_members

def nullableItems : List Json := [.string "open", .null]

def nullableStatus : Shape := { name := "Status", kind := .enum .string nullableItems }

/-- A literal that is null stays null where the enumeration is written out, and the declaration has
the text of null for it. -/
theorem nullableStatus_renderings_differ :
    (resolveSchema "Status" (.inline { type := some .string, enum := some nullableItems }) 8).Yields
      nullableStatus [] ∧
    (useType nullableStatus).values = nullableItems.eraseDups.map some ∧
    (shapeDeclaration nullableStatus).values = [.string "open", .string "null"] ∧
    (shapeDeclaration nullableStatus).values ≠ nullableItems.eraseDups := by
  refine ⟨rfl, ?_, ?_, ?_⟩ <;> decide +kernel

end TypeScript

end ApiBindings
