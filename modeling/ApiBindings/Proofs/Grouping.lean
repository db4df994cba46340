import ApiBindings.Model.Api
import ApiBindings.Proofs.Emission
import ApiBindings.Proofs.Resolving
import ApiBindings.Proofs.TypeText
import ApiBindings.TypeScript.Client

namespace ApiBindings.TypeScript
open Model (Shape Kind Property Operation Api)

namespace TypeExpr

theorem grouped_keyword (word : Keyword) : (TypeExpr.keyword word).Grouped :=
  everywhere_keyword.mpr trivial

theorem grouped_ofName (name : String) : (TypeExpr.ofName name).Grouped :=
  everywhere_named.mpr trivial

theorem grouped_literalType (item : Json) : (literalType item).Grouped := by
  cases item <;> simp [Grouped, literalType, KeepsGroups]

theorem isComposite_grouped (t : TypeExpr) : t.grouped.isComposite = false := by
  cases t <;> rfl

theorem Grouped.grouped {t : TypeExpr} (h : t.Grouped) : t.grouped.Grouped := by
  unfold TypeExpr.grouped
  split
  · exact everywhere_parenthesized.mpr ⟨trivial, h⟩
  · exact everywhere_parenthesized.mpr ⟨trivial, h⟩
  · exact h

theorem Grouped.arrayIf {t : TypeExpr} (h : t.Grouped) (repeated : Bool) :
    (arrayIf repeated t).Grouped := by
  cases repeated with
  | false => exact h
  | true => exact everywhere_array.mpr ⟨t.isComposite_grouped, h.grouped⟩

/-- A union is made only of two types or more. -/
theorem Grouped.unionOf {types : List TypeExpr} (h : ∀ t ∈ types, t.Grouped) :
    (TypeExpr.unionOf types).Grouped := by
  rcases types with _ | ⟨t, _ | ⟨u, rest⟩⟩
  · exact grouped_keyword _
  · exact h t (.head _)
  · exact everywhere_union.mpr ⟨Nat.le_add_left 2 _, h⟩

theorem Grouped.intersectionOf {types : List TypeExpr} (h : ∀ t ∈ types, t.Grouped) :
    (TypeExpr.intersectionOf types).Grouped := by
  have hgrouped : ∀ t ∈ types.map TypeExpr.grouped, t.Grouped :=
    List.forall_mem_map.mpr fun t ht => (h t ht).grouped
  have hcomposite : ∀ t ∈ types.map TypeExpr.grouped, t.isComposite = false :=
    List.forall_mem_map.mpr fun t _ => t.isComposite_grouped
  rcases types with _ | ⟨t, _ | ⟨u, rest⟩⟩
  · exact grouped_keyword _
  · exact hgrouped _ (.head _)
  · exact everywhere_intersection.mpr ⟨⟨Nat.le_add_left 2 _, hcomposite⟩, hgrouped⟩

theorem grouped_enumType (items : List Json) : (enumType items).Grouped :=
  .unionOf (List.forall_mem_map.mpr fun item _ => grouped_literalType item)

end TypeExpr

open TypeExpr

mutual

theorem grouped_kindType (name : String) : (kind : Kind) → (kindType name kind).Grouped
  | .reference target => grouped_ofName target
  | .intersection members _ => .intersectionOf (grouped_memberTypes members)
  | .union members _ => .unionOf (grouped_memberTypes members)
  | .enum _ items => grouped_enumType items
  | .object properties _ =>
    everywhere_object.mpr ⟨trivial, grouped_objectMembers name properties⟩
  | .numeric => grouped_keyword _
  | .string => grouped_keyword _
  | .boolean => grouped_keyword _

theorem grouped_memberTypes : (members : List Shape) → ∀ t ∈ memberTypes members, t.Grouped
  | [] => List.forall_mem_nil _
  | ⟨name, repeated, _, kind⟩ :: rest =>
    List.forall_mem_cons.mpr ⟨(grouped_kindType name kind).arrayIf repeated,
      grouped_memberTypes rest⟩

theorem grouped_objectMembers (parent : String) : (properties : List (String × Property)) →
    ∀ m ∈ objectMembers parent properties, m.type.Grouped
  | [] => List.forall_mem_nil _
  | (_, ⟨⟨name, repeated, _, kind⟩, _, _, _, _⟩) :: rest => by
    have hkind := grouped_kindType name kind
    refine List.forall_mem_cons.mpr ⟨.arrayIf ?_ repeated, grouped_objectMembers parent rest⟩
    split
    · exact grouped_ofName _
    · exact hkind

end

/-- The type is written for a shape where it is used, for a property, or for what an operation
answers. -/
inductive WrittenType : TypeExpr → Prop
  | use (s : Shape) : WrittenType (useType s)
  | property {parent : String} {properties : List (String × Property)} {m : Member}
      (hm : m ∈ objectMembers parent properties) : WrittenType m.type
  | response (op : Operation) : WrittenType (responseType op)

theorem grouped_useType (s : Shape) : (useType s).Grouped :=
  (grouped_kindType s.name s.kind).arrayIf s.repeated

theorem grouped_responseType (op : Operation) : (responseType op).Grouped := by
  unfold responseType
  split
  · split
    · exact (grouped_ofName _).arrayIf _
    · exact grouped_useType _
  · exact grouped_keyword _

/-- Whatever is written keeps unions and intersections apart from what binds tighter. So its text is
read as itself just if every name in it is read as a name. -/
theorem writtenType_reads_back_iff {t : TypeExpr} (h : WrittenType t) (depth : Nat) :
    t.Grouped ∧ (readType? (t.text ownComment depth) = some t.tree ↔ t.OnlyRefers) := by
  have hgrouped : t.Grouped := by
    cases h with
    | use s => exact grouped_useType s
    | property hm => exact grouped_objectMembers _ _ _ hm
    | response op => exact grouped_responseType op
  exact ⟨hgrouped, readType?_text_iff hgrouped depth⟩

def parcels : Shape :=
  { name := "Parcels"
    repeated := true
    kind := .intersection
      [{ name := "Parcels", kind := .reference "Base" },
       { name := "Parcels"
         repeated := true
         kind := .union
           [{ name := "Parcels", kind := .enum .string [.string "small", .string "large"] },
            { name := "Parcels", kind := .reference "Size" }] [] },
       { name := "Parcels"
         kind := .object
           [("to", { shape := { name := "To", kind := .reference "Address" }
                     description := some "in | out", required := false, repeated := false
                     default := none })] [] }] [] }

/-- The text has all its brackets and parentheses, and the comment has no effect. -/
theorem parcels_read_back :
    WrittenType (useType parcels) ∧
    (useType parcels).text ownComment 0 =
      "(Base & (\"small\" | \"large\" | Size)[] & \x7b\n  /** in | out */ to?: Address;\n\x7d)[]" ∧
    (useType parcels).Grouped ∧
    readType? ((useType parcels).text ownComment 0) = some (.array (.intersection
      [.named ["Base"],
       .array (.union [.string "small", .string "large", .named ["Size"]]),
       .object [("to", true, .named ["Address"])]])) := by
  have htype : useType parcels = .array (.parenthesized (.intersection
      [.named ["Base"],
       .array (.parenthesized (.union
         [.union [.literal (.string "small"), .literal (.string "large")], .named ["Size"]])),
       .object [{ comment := some "in | out", key := "to", optional := true
                  type := .named ["Address"] }]])) := rfl
  have hnames : isReference ["Base"] = true ∧ isReference ["Size"] = true ∧
      isReference ["Address"] = true := by decide
  have hrefers : (useType parcels).OnlyRefers := by
    simp [htype, OnlyRefers, KeepsName, hnames]
  obtain ⟨hgrouped, hread⟩ := writtenType_reads_back_iff (.use parcels) 0
  exact ⟨.use parcels, by decide +kernel, hgrouped, hread.mpr hrefers⟩

/-- A component whose name has a bar, and another one that is a list of it. -/
def barred : Contract.Document :=
  { components := some
      { schemas :=
          [("A | B", .inline { type := some .number }),
           ("List", .inline
            { type := some .array, items := some (.ref ⟨"/components/schemas/A | B"⟩) })] } }

/-- Only one half of the name is in the list when the text is read. -/
theorem barred_list_reads_as_union :
    ∃ api, (Api.resolve barred 8).Yields api [] ∧ ∃ list ∈ api.schemas,
      (useType list).text ownComment 0 = "A | B[]" ∧
      (useType list).tree = .array (.named ["A | B"]) ∧
      readType? "A | B[]" = some (.union [.named ["A"], .array (.named ["B"])]) ∧
      readType? ((useType list).text ownComment 0) ≠ some (useType list).tree := by
  have hresolve : (Api.resolve barred 8).Yields _ [] := rfl
  have hnames : isReference ["A"] = true ∧ isReference ["B"] = true := by decide
  have hlegible : (TypeExpr.union [.named ["A"], .array (.named ["B"])]).Everywhere Legible := by
    simp [Legible, KeepsGroups, KeepsName, isComposite, hnames]
  have htext : (TypeExpr.array (.named ["A | B"])).text ownComment 0 = "A | B[]" := by
    decide +kernel
  have hread : readType? "A | B[]" = some (.union [.named ["A"], .array (.named ["B"])]) :=
    readType?_text hlegible 0
  refine ⟨_, hresolve, _, .tail _ (.head _), htext, rfl, hread, ?_⟩
  change readType? ((TypeExpr.array (.named ["A | B"])).text ownComment 0) ≠ _
  rw [htext, hread]
  rintro ⟨⟩

end ApiBindings.TypeScript
