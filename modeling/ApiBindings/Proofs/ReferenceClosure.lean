import ApiBindings.Model.Api
import ApiBindings.Proofs.Pairwise
import ApiBindings.Proofs.SchemaForm

namespace ApiBindings.Model
open Contract (Document SchemaNode)
open Resolving

/-- The shapes right inside a shape: members or properties, then hoisted ones. -/
def Shape.children (s : Shape) : List Shape :=
  match s.kind with
  | .intersection members hoisted => members ++ hoisted
  | .union members hoisted => members ++ hoisted
  | .object properties hoisted => properties.map (fun p => p.2.shape) ++ hoisted
  | _ => []

inductive Shape.Refers : Shape → String → Prop
  | here {s : Shape} {target : String} (h : s.kind = .reference target) : s.Refers target
  | inside {s c : Shape} {target : String} (hc : c ∈ s.children) (h : c.Refers target) :
      s.Refers target

theorem Shape.children_congr {s t : Shape} (h : s.kind = t.kind) : s.children = t.children := by
  rw [Shape.children, Shape.children, h]

theorem Shape.children_eq (s : Shape) :
    s.children = { s with kind := s.kind.withoutHoisted }.children ++ s.hoisted := by
  obtain ⟨name, repeated, required, kind⟩ := s
  cases kind <;> simp [Shape.children, Kind.withoutHoisted, Shape.hoisted, Kind.hoisted]

theorem Shape.Refers.congr {s t : Shape} {target : String} (h : s.Refers target)
    (hk : s.kind = t.kind) : t.Refers target := by
  cases h with
  | here hs => exact .here (hk ▸ hs)
  | inside hc hr => exact .inside (Shape.children_congr hk ▸ hc) hr

theorem walkShapes_eq_flatMap (shapes : List Shape) :
    walkShapes shapes = shapes.flatMap Shape.walk := by
  induction shapes with
  | nil => rfl
  | cons s rest ih => rw [walkShapes, ih, List.flatMap_cons]

theorem walkProperties_eq_flatMap (properties : List (String × Property)) :
    walkProperties properties = (properties.map fun p => p.2.shape).flatMap Shape.walk := by
  induction properties with
  | nil => rfl
  | cons entry rest ih =>
    obtain ⟨key, shape, description, required, repeated, default⟩ := entry
    rw [walkProperties, ih, List.map_cons, List.flatMap_cons]

theorem Shape.walk_eq (s : Shape) : s.walk = s :: s.children.flatMap Shape.walk := by
  obtain ⟨name, repeated, required, kind⟩ := s
  cases kind <;> simp [Shape.walk, Kind.walk, Shape.children, walkShapes_eq_flatMap,
    walkProperties_eq_flatMap]

theorem Shape.length_walk_lt {s c : Shape} (hc : c ∈ s.children) :
    c.walk.length < s.walk.length := by
  obtain ⟨before, after, h⟩ := List.append_of_mem hc
  rw [s.walk_eq, h]
  simp only [List.flatMap_append, List.flatMap_cons, List.length_cons, List.length_append]
  omega

/-- What holds of a shape given that it holds of the shapes right inside holds of every shape. -/
theorem Shape.children_induction {P : Shape → Prop}
    (step : ∀ s : Shape, (∀ c ∈ s.children, P c) → P s) (s : Shape) : P s := by
  induction h : s.walk.length using Nat.strongRecOn generalizing s with
  | _ n ih =>
    refine step s fun c hc => ?_
    exact ih _ (h ▸ Shape.length_walk_lt hc) c rfl

theorem Shape.mem_targets_iff {s : Shape} {target : String} :
    target ∈ s.walk.filterMap (fun c => c.kind.target?) ↔ s.Refers target := by
  constructor
  · induction s using Shape.children_induction with
    | step s ih =>
      intro hm
      rw [List.mem_filterMap] at hm
      obtain ⟨x, hx, ht⟩ := hm
      rw [s.walk_eq, List.mem_cons, List.mem_flatMap] at hx
      rcases hx with rfl | ⟨c, hc, hx⟩
      · cases hk : x.kind <;> simp_all [Kind.target?]
        exact .here hk
      · -- What is met inside a child is on its own walk.
        exact .inside hc (ih c hc (List.mem_filterMap.mpr ⟨x, hx, ht⟩))
  · intro h
    rw [List.mem_filterMap]
    induction h with
    | here hk =>
      refine ⟨_, ?_, by rw [hk]; rfl⟩
      rw [Shape.walk_eq]
      exact .head _
    | inside hc _ ih =>
      obtain ⟨x, hx, ht⟩ := ih
      refine ⟨x, ?_, ht⟩
      rw [Shape.walk_eq]
      exact .tail _ (List.mem_flatMap_of_mem hc hx)

/-- Every reference in the shape has a name with the property. -/
def Shape.ClosedUnder (declared : String → Prop) (s : Shape) : Prop :=
  ∀ target, s.Refers target → declared target

theorem dangling?_eq_none_iff {declared : List String} {s : Shape} :
    dangling? declared s = none ↔ s.ClosedUnder (· ∈ declared) := by
  simp only [dangling?, List.find?_eq_none, Shape.mem_targets_iff, Shape.ClosedUnder]
  simp

theorem refers_of_dangling? {declared : List String} {s : Shape} {target : String}
    (h : dangling? declared s = some target) : s.Refers target ∧ target ∉ declared := by
  refine ⟨Shape.mem_targets_iff.mp (List.mem_of_find?_eq_some h), ?_⟩
  simpa using List.find?_some h

/-- The error for a dangling reference is that of the first root with one. -/
def FirstDangling (declared : String → Prop) (roots : List Shape) (e : ResolveError) : Prop :=
  ∃ before root after target, roots = before ++ root :: after ∧
    (∀ r ∈ before, r.ClosedUnder declared) ∧ root.Refers target ∧ ¬ declared target ∧
    e = .unresolvedReference root.name target

theorem FirstDangling.not_closed {declared : String → Prop} {roots : List Shape}
    {e : ResolveError} (h : FirstDangling declared roots e) :
    ¬ ∀ root ∈ roots, root.ClosedUnder declared := by
  obtain ⟨before, root, after, target, rfl, -, hr, ht, -⟩ := h
  intro hall
  exact ht (hall root (by simp) target hr)

theorem checkReferences_cases (declared : List String) (roots : List Shape) :
    (∀ root ∈ roots, root.ClosedUnder (· ∈ declared)) ∧
        (checkReferences declared roots).Yields () [] ∨
      ∃ e, FirstDangling (· ∈ declared) roots e ∧
        (checkReferences declared roots).FailsWith e := by
  induction roots with
  | nil => exact .inl ⟨by simp, rfl⟩
  | cons root rest ih =>
    rw [checkReferences]
    cases hd : dangling? declared root with
    | some target =>
      obtain ⟨hr, ht⟩ := refers_of_dangling? hd
      exact .inr ⟨_, ⟨[], root, rest, target, rfl, by simp, hr, ht, rfl⟩, rfl⟩
    | none =>
      have hroot := dangling?_eq_none_iff.mp hd
      rcases ih with ⟨hrest, hy⟩ | ⟨e, ⟨before, bad, after, target, rfl, hb, hbad⟩, hf⟩
      · exact .inl ⟨List.forall_mem_cons.mpr ⟨hroot, hrest⟩, hy⟩
      · refine .inr ⟨e, ⟨root :: before, bad, after, target, rfl, ?_, hbad⟩, hf⟩
        exact List.forall_mem_cons.mpr ⟨hroot, hb⟩

/-- A list of objects or of literals, which is split where it is a component. -/
def Shape.IsSplit (s : Shape) : Prop :=
  s.repeated = true ∧
    ((∃ properties hoisted, s.kind = .object properties hoisted) ∨
      ∃ base items, s.kind = .enum base items)

theorem componentBlock_cases (s : Shape) :
    ¬ s.IsSplit ∧ componentBlock s = [s] ∨
      s.IsSplit ∧ componentBlock s =
        [{ s.declaration with name := s.name ++ "Item" },
         { name := s.name, repeated := true, kind := .reference (s.name ++ "Item") }] := by
  obtain ⟨name, repeated, required, kind⟩ := s
  cases kind <;> cases repeated <;> simp [componentBlock, Shape.IsSplit]

theorem mem_componentBlock_names_iff {s : Shape} {target : String} :
    target ∈ (componentBlock s).map Shape.name ↔
      target = s.name ∨ s.IsSplit ∧ target = s.name ++ "Item" := by
  rcases componentBlock_cases s with ⟨hs, h⟩ | ⟨hs, h⟩
  · simp [h, hs]
  · simp [h, hs, or_comm]

/-- The names declared for components: their own, and those of the items of split ones. -/
inductive ComponentName (schemas : List (String × SchemaNode)) (limit : Nat) : String → Prop
  | own {entry : String × SchemaNode} (he : entry ∈ schemas) : ComponentName schemas limit entry.1
  | item {entry : String × SchemaNode} {shape : Shape} {ws : List Warning} (he : entry ∈ schemas)
      (h : (resolveSchema entry.1 entry.2 limit).Yields shape ws) (hs : shape.IsSplit) :
      ComponentName schemas limit (entry.1 ++ "Item")

/-- All components and all operations of a contract resolve, each by itself. -/
structure ResolvesParts (doc : Document) (limit : Nat) (shapes : List (Shape × List Warning))
    (operations : List ((List Shape × Operation) × List Warning)) : Prop where
  shapes : List.Forall₂ (fun entry r => (resolveSchema entry.1 entry.2 limit).Yields r.1 r.2)
    (doc.components.getD {}).schemas shapes
  operations : List.Forall₂ (fun o r => (resolveOperation (doc.components.getD {}) limit o.1 o.2.1
    o.2.2.1 o.2.2.2).Yields r.1 r.2) (operationsOf doc.paths) operations

/-- The contract that resolved parts make up. -/
def Api.ofParts (doc : Document) (shapes : List Shape)
    (operations : List (List Shape × Operation)) : Api :=
  { title := doc.info.title
    version := doc.info.version
    schemas := shapes.flatMap componentBlock ++ operations.flatMap Prod.fst
    operations := operations.map Prod.snd }

/-- Where references are looked for: the declarations, then the responses. -/
def Api.roots (api : Api) : List Shape :=
  api.schemas ++ api.operations.filterMap Operation.response

variable {doc : Document} {limit : Nat} {shapes : List (Shape × List Warning)}
  {operations : List ((List Shape × Operation) × List Warning)}

theorem ResolvesParts.mem_declared_iff (h : ResolvesParts doc limit shapes operations)
    {target : String} :
    target ∈ ((shapes.map Prod.fst).flatMap componentBlock).map Shape.name ↔
      ComponentName (doc.components.getD {}).schemas limit target := by
  rw [List.map_flatMap, List.mem_flatMap]
  constructor
  · rintro ⟨s, hs, ht⟩
    obtain ⟨r, hr, rfl⟩ := List.mem_map.mp hs
    obtain ⟨entry, he, hy⟩ := exists_left_of_forall₂ h.shapes hr
    rw [mem_componentBlock_names_iff, resolveSchema_name hy] at ht
    rcases ht with rfl | ⟨hsplit, rfl⟩
    · exact .own he
    · exact .item he hy hsplit
  · intro ht
    cases ht with
    | own he =>
      obtain ⟨r, hr, hy⟩ := exists_right_of_forall₂ h.shapes he
      refine ⟨r.1, List.mem_map_of_mem hr, ?_⟩
      exact mem_componentBlock_names_iff.mpr (.inl (resolveSchema_name hy).symm)
    | item he hy hsplit =>
      obtain ⟨r, hr, hy'⟩ := exists_right_of_forall₂ h.shapes he
      obtain ⟨rfl, -⟩ := hy.unique hy'
      refine ⟨r.1, List.mem_map_of_mem hr, mem_componentBlock_names_iff.mpr (.inr ⟨hsplit, ?_⟩)⟩
      rw [resolveSchema_name hy]

/-- The contract resolves once its parts do and the check of its references passes. -/
theorem ResolvesParts.resolve_yields (h : ResolvesParts doc limit shapes operations)
    {api : Api} (hapi : api = Api.ofParts doc (shapes.map Prod.fst) (operations.map Prod.fst))
    (hcheck : (checkReferences (((shapes.map Prod.fst).flatMap componentBlock).map Shape.name)
      api.roots).Yields () []) :
    (Api.resolve doc limit).Yields api
      (shapes.flatMap Prod.snd ++ operations.flatMap Prod.snd) := by
  have hshapes := each_yields_iff.mpr ⟨shapes, h.shapes, rfl, rfl⟩
  have hops := each_yields_iff.mpr ⟨operations, h.operations, rfl, rfl⟩
  have hend : (do checkReferences _ api.roots; return api : Resolving Api).Yields api ([] ++ []) :=
    hcheck.bind (pure_yields_iff.mpr ⟨rfl, rfl⟩)
  subst hapi
  refine bind_yields_iff.mpr ⟨_, _, _, hshapes, ?_, rfl⟩
  exact bind_yields_iff.mpr ⟨_, _, _, hops, hend, by simp⟩

/-- Once the parts resolve, the contract does so or fails as the check of its references does. -/
theorem ResolvesParts.resolve_cases (h : ResolvesParts doc limit shapes operations) :
    let api := Api.ofParts doc (shapes.map Prod.fst) (operations.map Prod.fst)
    let declared := ComponentName (doc.components.getD {}).schemas limit
    (∀ root ∈ api.roots, root.ClosedUnder declared) ∧
        (Api.resolve doc limit).Yields api
          (shapes.flatMap Prod.snd ++ operations.flatMap Prod.snd) ∨
      ∃ e, FirstDangling declared api.roots e ∧ (Api.resolve doc limit).FailsWith e := by
  intro api declared
  have hnames : (· ∈ ((shapes.map Prod.fst).flatMap componentBlock).map Shape.name) = declared := by
    funext target
    exact propext h.mem_declared_iff
  have hshapes := each_yields_iff.mpr ⟨shapes, h.shapes, rfl, rfl⟩
  have hops := each_yields_iff.mpr ⟨operations, h.operations, rfl, rfl⟩
  have hcheck := checkReferences_cases
    (((shapes.map Prod.fst).flatMap componentBlock).map Shape.name) api.roots
  rw [hnames] at hcheck
  rcases hcheck with ⟨hclosed, hy⟩ | ⟨e, hfirst, hf⟩
  · exact .inl ⟨hclosed, h.resolve_yields rfl hy⟩
  · refine .inr ⟨e, hfirst, ?_⟩
    exact hshapes.bind_failsWith (hops.bind_failsWith (hf.bind _))

/-- A contract that resolves is made up of its parts, and closed under references. -/
theorem ofParts_of_resolve {api : Api} {ws : List Warning}
    (h : (Api.resolve doc limit).Yields api ws) :
    ∃ shapes operations, ResolvesParts doc limit shapes operations ∧
      api = Api.ofParts doc (shapes.map Prod.fst) (operations.map Prod.fst) ∧
      ∀ root ∈ api.roots, root.ClosedUnder (· ∈ api.schemas.map Shape.name) := by
  have hsteps := h
  rw [Api.resolve] at hsteps
  obtain ⟨_, _, _, hs, hrest, -⟩ := bind_yields_iff.mp hsteps
  obtain ⟨shapes, hshapes, rfl, rfl⟩ := each_yields_iff.mp hs
  obtain ⟨_, _, _, ho, -, -⟩ := bind_yields_iff.mp hrest
  obtain ⟨operations, hops, rfl, rfl⟩ := each_yields_iff.mp ho
  have hparts : ResolvesParts doc limit shapes operations := ⟨hshapes, hops⟩
  rcases hparts.resolve_cases with ⟨hclosed, hy⟩ | ⟨e, -, hf⟩
  · obtain ⟨rfl, -⟩ := h.unique hy
    refine ⟨shapes, operations, hparts, rfl, fun root hroot target ht => ?_⟩
    have hname := hparts.mem_declared_iff.mpr (hclosed root hroot target ht)
    rw [Api.ofParts, List.map_append]
    exact List.mem_append_left _ hname
  · exact absurd hf h.not_failsWith

/-- A contract whose parts resolve does so itself just when all references in the result name
components or items of split ones. Otherwise the error is for the first root where one does not. -/
theorem resolve_ok_iff_closed (h : ResolvesParts doc limit shapes operations) :
    let api := Api.ofParts doc (shapes.map Prod.fst) (operations.map Prod.fst)
    let declared := ComponentName (doc.components.getD {}).schemas limit
    ((∃ result ws, (Api.resolve doc limit).Yields result ws) ↔
        ∀ root ∈ api.roots, root.ClosedUnder declared) ∧
      (∀ result ws, (Api.resolve doc limit).Yields result ws → result = api) ∧
      ((¬ ∀ root ∈ api.roots, root.ClosedUnder declared) →
        ∃ e, FirstDangling declared api.roots e ∧ (Api.resolve doc limit).FailsWith e) := by
  intro api declared
  rcases h.resolve_cases with ⟨hclosed, hy⟩ | ⟨e, hfirst, hf⟩
  · refine ⟨⟨fun _ => hclosed, fun _ => ⟨_, _, hy⟩⟩, ?_, fun hopen => absurd hclosed hopen⟩
    intro result ws hr
    exact (hr.unique hy).1
  · have hno : ∀ result ws, ¬ (Api.resolve doc limit).Yields result ws :=
      fun result ws hr => hr.not_failsWith hf
    refine ⟨⟨?_, fun hall => absurd hall hfirst.not_closed⟩, ?_, fun _ => ⟨e, hfirst, hf⟩⟩
    · rintro ⟨result, ws, hr⟩
      exact absurd hr (hno result ws)
    · exact fun result ws hr => absurd hr (hno result ws)

def askOwner : Contract.Operation :=
  { operationId := some "owner"
    responses :=
      [("200", .inline
        { content :=
            [("application/json", { schema := some (.ref ⟨"/components/schemas/Owner"⟩) })] })] }

def kennel : Document :=
  { components := some
      { schemas :=
          [("Pets", .inline
            { type := some .array
              items := some (.inline
                { properties := some [("name", .inline { type := some .string })] }) }),
           ("Owner", .inline
            { properties := some [("pet", .ref ⟨"/components/schemas/PetsItem"⟩)] })] }
    paths := [("/owners", { get := some askOwner })] }

/-- The kennel has a reference to the items of its split list, and one in a response. -/
theorem kennel_ok_iff_closed :
    ∃ shapes operations, ResolvesParts kennel 8 shapes operations ∧
      ((∃ result ws, (Api.resolve kennel 8).Yields result ws) ↔
        ∀ root ∈ (Api.ofParts kennel (shapes.map Prod.fst) (operations.map Prod.fst)).roots,
          root.ClosedUnder (ComponentName (kennel.components.getD {}).schemas 8)) := by
  have hpath : (resolvePath "owner" "/owners").Yields [[.literal "owners"]] [] := by
    have hl : Contract.PathTemplate.longest? "/owners".toList =
        some ([[.literal "owners"]], []) := by decide +kernel
    rw [resolvePath, Contract.PathTemplate.parse, hl]
    rfl
  have hop : (resolveOperation (kennel.components.getD {}) 8 "/owners" { get := some askOwner } .get
      askOwner).Yields (_, _) [] :=
    .through (a := "owner") rfl rfl hpath rfl
  have hparts : ResolvesParts kennel 8 [(_, _), (_, _)] [(_, [])] :=
    ⟨.cons rfl (.cons rfl .nil), .cons hop .nil⟩
  exact ⟨_, _, hparts, (resolve_ok_iff_closed hparts).1⟩

end ApiBindings.Model
