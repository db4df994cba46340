import ApiBindings.Proofs.Keyed
import ApiBindings.Proofs.OperationParts
import ApiBindings.Proofs.Scoping
import ApiBindings.TypeScript.Client

/-!
The client module imports what its functions write in their signatures, each name once and in the
order of first use, and all of it is declared by the module of the schemas. The names are found by a
walk over the response and the types are written by another; the two agree since a response that is
written out in full has nothing hoisted at any depth.
-/
namespace ApiBindings.TypeScript
open Model (Shape Kind Property Operation)

mutual

/-- The declared types that a type names, in the order written. -/
def TypeExpr.names : TypeExpr → List String
  | .keyword _ | .literal _ | .bool _ => []
  | .named path => [".".intercalate path]
  | .generic _ args => typesNames args
  | .array item => item.names
  | .union members => typesNames members
  | .intersection members => typesNames members
  | .parenthesized inner => inner.names
  | .object members => membersNames members
  | .function params result => paramsNames params ++ result.names

def typesNames : List TypeExpr → List String
  | [] => []
  | t :: rest => t.names ++ typesNames rest

def membersNames : List Member → List String
  | [] => []
  | ⟨_, _, _, type⟩ :: rest => type.names ++ membersNames rest

def paramsNames : List (String × TypeExpr) → List String
  | [] => []
  | (_, type) :: rest => type.names ++ paramsNames rest

end

/-- The names in the signature of a function, that of its first parameter apart, which is what sends
requests. -/
def Declaration.signatureNames : Declaration → List String
  | .function _ (_ :: params) result _ => paramsNames params ++ result.names
  | _ => []

def Module.importsFrom (source : String) (m : Module) : List String :=
  m.flatMap fun
    | .importTypes names s => if s = source then names else []
    | _ => []

theorem typesNames_eq_flatMap (types : List TypeExpr) :
    typesNames types = types.flatMap TypeExpr.names := by
  induction types with
  | nil => rfl
  | cons t rest ih => rw [typesNames, ih, List.flatMap_cons]

theorem membersNames_eq_flatMap (members : List Member) :
    membersNames members = members.flatMap fun m => m.type.names := by
  induction members with
  | nil => rfl
  | cons m rest ih =>
    obtain ⟨comment, key, optional, type⟩ := m
    rw [membersNames, ih, List.flatMap_cons]

namespace TypeExpr

@[simp]
theorem names_ofName (name : String) : (ofName name).names = [name] := by
  have hjoin :
      ".".intercalate ((Text.splitBy (· != '.') name.toList).map String.ofList) = name := by
    apply String.toList_injective
    rw [String.toList_intercalate, List.map_map]
    simpa [Function.comp_def] using Text.intercalate_splitBy '.' name.toList
  rw [ofName, names, hjoin]

@[simp]
theorem names_grouped (t : TypeExpr) : t.grouped.names = t.names := by
  cases t <;> rfl

@[simp]
theorem names_arrayIf (repeated : Bool) (t : TypeExpr) :
    (arrayIf repeated t).names = t.names := by
  cases repeated with
  | false => rfl
  | true => exact names_grouped t

theorem names_unionOf (types : List TypeExpr) : (unionOf types).names = types.flatMap names := by
  match types with
  | [] => rfl
  | [t] => simp [unionOf]
  | t :: u :: rest => exact typesNames_eq_flatMap _

theorem names_intersectionOf (types : List TypeExpr) :
    (intersectionOf types).names = types.flatMap names := by
  match types with
  | [] => rfl
  | [t] => simp [intersectionOf]
  | t :: u :: rest => simp [intersectionOf, names, typesNames_eq_flatMap, List.flatMap_map]

theorem names_enumType (items : List Json) : (enumType items).names = [] := by
  rw [enumType, names_unionOf, List.flatMap_map, List.flatMap_eq_nil_iff]
  intro item _
  cases item <;> rfl

end TypeExpr

end ApiBindings.TypeScript

namespace ApiBindings.Model
open Contract (SchemaNode Document)
open TypeScript Resolving

/-- The names that references in a shape have as their targets, in the order of the walk. -/
def Shape.targets (s : Shape) : List String := s.walk.filterMap fun c => c.kind.target?

theorem Shape.targets_eq (s : Shape) :
    s.targets = s.kind.target?.toList ++ s.children.flatMap Shape.targets := by
  rw [Shape.targets, Shape.walk_eq, List.filterMap_cons, List.filterMap_flatMap]
  cases s.kind.target? <;> rfl

theorem Shape.targets_congr {s t : Shape} (h : s.kind = t.kind) : s.targets = t.targets := by
  rw [s.targets_eq, t.targets_eq, Shape.children_congr h, h]

theorem Kind.withoutHoisted_of_hoisted_eq_nil {kind : Kind} (h : kind.hoisted = []) :
    kind.withoutHoisted = kind := by
  cases kind <;> simp_all [Kind.hoisted, Kind.withoutHoisted]

theorem targets_composed {make : List Shape → List Shape → Kind}
    (hmake : make = .intersection ∨ make = .union) (name : String) {members : List Shape}
    (h : ∀ m ∈ members, m.hoisted = []) :
    (composed make name members).targets = members.flatMap Shape.targets := by
  -- Nothing moves up from the members, so they stay as they are.
  have hhoisted : members.flatMap Shape.hoisted = [] := List.flatMap_eq_nil_iff.mpr h
  have hkept :
      members.map (fun m : Shape => { m with kind := m.kind.withoutHoisted }) = members := by
    apply (List.map_congr_left fun m hm => ?_).trans (List.map_id members)
    rw [Kind.withoutHoisted_of_hoisted_eq_nil (h m hm)]
    cases m
    rfl
  rw [composed, hhoisted, hkept, Shape.targets_eq]
  rcases hmake with h | h
  · subst h; simp [Kind.target?, Shape.children]
  · subst h; simp [Kind.target?, Shape.children]

theorem targets_objectOf {name : String} {properties : List (String × Property)}
    (h : hoistedOf properties = []) :
    (objectOf name properties).targets = properties.flatMap fun entry => entry.2.shape.targets := by
  rw [objectOf, h, Shape.targets_eq]
  simp [Kind.target?, Shape.children, List.flatMap_map]

theorem isHoistable_eq_false_of_hoistedOf {properties : List (String × Property)}
    (h : hoistedOf properties = []) {entry : String × Property} (he : entry ∈ properties) :
    entry.2.shape.isHoistable = false := by
  by_contra hh
  have hmem := declaration_mem_hoistedOf he (Bool.not_eq_false _ ▸ hh)
  rw [h] at hmem
  exact List.not_mem_nil hmem

/-- What the walk over a shape without hoisted ones finds is what its type names. -/
def NamesTargets (s : Shape) : Prop :=
  s.hoisted = [] → (kindType s.name s.kind).names = s.targets

theorem NamesTargets.congr {s t : Shape} (h : NamesTargets s) (hname : s.name = t.name)
    (hkind : s.kind = t.kind) : NamesTargets t := by
  intro hnone
  rw [← hname, ← hkind, ← Shape.targets_congr hkind]
  apply h
  rw [Shape.hoisted, hkind]
  exact hnone

theorem namesTargets_composed {make : List Shape → List Shape → Kind}
    {join : List TypeExpr → TypeExpr} (hmake : make = .intersection ∨ make = .union)
    (hkind : ∀ name members hoisted,
      kindType name (make members hoisted) = join (members.map useType))
    (hjoin : ∀ types, (join types).names = types.flatMap TypeExpr.names)
    (hhoisted : ∀ members hoisted, (make members hoisted).hoisted = hoisted)
    (name : String) {members : List Shape} (h : ∀ m ∈ members, NamesTargets m) :
    NamesTargets (composed make name members) := by
  intro hnone
  rw [composed, Shape.hoisted, hhoisted, List.flatMap_eq_nil_iff] at hnone
  rw [targets_composed hmake name hnone, composed, hkind, hjoin, List.map_map, List.flatMap_map]
  apply List.flatMap_congr
  intro m hm
  rw [Function.comp_apply, useType, TypeExpr.names_arrayIf, kindType_withoutHoisted]
  exact h m hm (hnone m hm)

theorem namesTargets_objectOf (name : String) {properties : List (String × Property)}
    (h : ∀ entry ∈ properties, NamesTargets entry.2.shape) :
    NamesTargets (objectOf name properties) := by
  intro hnone
  change hoistedOf properties = [] at hnone
  rw [targets_objectOf hnone, objectOf, kindType, objectMembers_eq_map, TypeExpr.names,
    membersNames_eq_flatMap, List.flatMap_map]
  apply List.flatMap_congr
  intro entry he
  have hplain := isHoistable_eq_false_of_hoistedOf hnone he
  rw [propertyMember, TypeExpr.names_arrayIf, propertyType, hplain]
  exact h entry he (Shape.hoisted_eq_nil_of_not_isHoistable hplain)

theorem namesTargets_members {name : String} {nodes : List SchemaNode}
    {results : List (Shape × List Warning)}
    (h : List.Forall₂ (fun _ r => r.1.name = name ∧ NamesTargets r.1) nodes results) :
    ∀ m ∈ results.map Prod.fst, NamesTargets m := by
  intro m hm
  obtain ⟨r, hr, rfl⟩ := List.mem_map.mp hm
  obtain ⟨node, -, -, hnames⟩ := exists_left_of_forall₂ h hr
  exact hnames

theorem resolveSchema_namesTargets {limit : Nat} {name : String} {node : SchemaNode} {shape : Shape}
    {ws : List Warning} (h : (resolveSchema name node limit).Yields shape ws) :
    NamesTargets shape := by
  -- A list takes the name that its item was resolved under, so no qualified name in it changes.
  refine (resolveNode_induction (P := fun name _ shape _ => shape.name = name ∧ NamesTargets shape)
    ?reference ?allOf ?oneOf ?enum ?array ?object ?scalar h).2
  case reference =>
    intro name p _
    refine ⟨rfl, fun _ => ?_⟩
    rw [kindType, TypeExpr.names_ofName, Shape.targets_eq]
    rfl
  case allOf =>
    intro name s nodes results _ hall
    refine ⟨rfl, namesTargets_composed (.inl rfl) ?_ TypeExpr.names_intersectionOf
      (fun _ _ => rfl) name (namesTargets_members hall)⟩
    exact fun name members hoisted => by rw [kindType, memberTypes_eq_map]
  case oneOf =>
    intro name s nodes results _ hall
    refine ⟨rfl, namesTargets_composed (.inr rfl) ?_ TypeExpr.names_unionOf
      (fun _ _ => rfl) name (namesTargets_members hall)⟩
    exact fun name members hoisted => by rw [kindType, memberTypes_eq_map]
  case enum =>
    intro name s items base _ _
    refine ⟨rfl, fun _ => ?_⟩
    rw [kindType, TypeExpr.names_enumType, Shape.targets_eq]
    rfl
  case array =>
    intro name s item shape ws _ _ hi
    exact ⟨rfl, hi.2.congr hi.1 rfl⟩
  case object =>
    intro name s properties results _ hall
    refine ⟨rfl, namesTargets_objectOf name ?_⟩
    intro entry he
    obtain ⟨r, hr, rfl⟩ := List.mem_map.mp he
    obtain ⟨_, -, shape, hshape, -, hnames⟩ := exists_left_of_forall₂ hall hr
    rw [hshape]
    exact hnames.congr rfl rfl
  case scalar =>
    intro name s type kind _ hk
    refine ⟨rfl, fun _ => ?_⟩
    rw [Shape.targets_eq]
    unfold primitive? at hk
    split at hk <;> cases hk <;> rfl

theorem names_responseType {op : Operation}
    (h : ∀ response ∈ op.response, NamesTargets response) :
    op.request :: (responseType op).names = usedNames op := by
  rw [responseType, usedNames]
  cases hr : op.response with
  | none => rfl
  | some response =>
    by_cases hh : response.isHoistable = true
    · simp only [if_pos hh, TypeExpr.names_arrayIf, TypeExpr.names_ofName]
    · have hnone := Shape.hoisted_eq_nil_of_not_isHoistable (Bool.not_eq_true _ ▸ hh)
      simp only [if_neg hh, useType, TypeExpr.names_arrayIf]
      rw [h response (hr ▸ rfl) hnone]
      rfl

theorem signatureNames_operationFunction {op : Operation}
    (h : ∀ response ∈ op.response, NamesTargets response) :
    (operationFunction op).declaration.signatureNames = usedNames op := by
  rw [← names_responseType h]
  change paramsNames [("req", .ofName op.request)] ++ typesNames [responseType op] = _
  simp [paramsNames, typesNames]

theorem importsFrom_clientModule (operations : List Operation) :
    (clientModule operations).importsFrom schemasSource = importedNames operations := by
  have hdeclared (exported : List Exported) :
      Module.importsFrom schemasSource (exported.map .declared) = [] := by
    rw [Module.importsFrom, List.flatMap_map, List.flatMap_eq_nil_iff]
    exact fun _ _ => rfl
  rw [clientModule, Module.importsFrom, List.flatMap_append]
  refine (congrArg _ (hdeclared _)).trans ?_
  cases h : importedNames operations with
  | nil => rfl
  | cons name rest => simp

theorem exported_clientModule (operations : List Operation) :
    (clientModule operations).exported =
      requestInterface :: requesterAlias :: operations.map operationFunction := by
  rw [clientModule, Module.exported, List.filterMap_append]
  refine (congrArg _ (Module.exported_declared _)).trans ?_
  cases (importedNames operations).isEmpty <;> rfl

namespace OperationParts

variable {components : Contract.Components} {limit : Nat} {entry : OperationEntry}
  {result : List Shape × Operation}

theorem namesTargets (parts : OperationParts components limit entry result) :
    ∀ response ∈ result.2.response, NamesTargets response := by
  intro response hr
  obtain ⟨node, ws, hs⟩ := parts.response_resolves hr
  exact resolveSchema_namesTargets hs

/-- Whatever the function of an operation names is declared: the envelope and a response of its own
by the operation, other names since references are. -/
theorem declares_usedNames (parts : OperationParts components limit entry result)
    {schemas : List Shape} (hd : result.1 ⊆ schemas)
    (hclosed : ∀ response ∈ result.2.response,
      response.ClosedUnder (· ∈ schemas.map Shape.name)) :
    ∀ name ∈ usedNames result.2, name ∈ schemas.map Shape.name := by
  intro name hname
  rw [usedNames, List.mem_cons] at hname
  rcases hname with hname | hname
  · subst hname
    exact List.mem_map.mpr ⟨_, hd parts.envelope_mem, rfl⟩
  · cases hr : result.2.response with
    | none => simp [hr] at hname
    | some response =>
      rw [hr] at hname
      by_cases hh : response.isHoistable = true
      · simp only [if_pos hh, List.mem_singleton] at hname
        subst hname
        exact List.mem_map.mpr ⟨_, hd (parts.response_mem hr hh), rfl⟩
      · simp only [if_neg hh] at hname
        exact hclosed response hr name (Shape.mem_targets_iff.mp hname)

end OperationParts

/-- The client imports exactly the names in the signatures of its functions, each once and in the
order of first use. All are declared by the module of the schemas; that of a hoistable response as
the response itself, unless another schema has its name. -/
theorem client_imports_exact {doc : Document} {limit : Nat} {api : Api} {ws : List Warning}
    (h : (Api.resolve doc limit).Yields api ws) :
    let client := clientModule api.operations
    let schemas := (schemasModule api.schemas).exported
    let imported := client.importsFrom schemasSource
    imported.Nodup ∧
      imported = (client.exported.flatMap fun e => e.declaration.signatureNames).eraseDups ∧
      (∀ name ∈ imported, (typeIn? schemas name).isSome) ∧
      ∀ op ∈ api.operations, ∀ response ∈ op.response, response.isHoistable = true →
        response.name ∈ imported ∧ response.declaration ∈ api.schemas ∧
        ((∀ s ∈ api.schemas, s.name = response.name → s = response.declaration) →
          typeIn? schemas response.name = some (declaredType response.declaration)) := by
  intro client schemas imported
  obtain ⟨shapes, operations, hparts, rfl, hclosed⟩ := ofParts_of_resolve h
  let used := ((operations.map Prod.fst).map Prod.snd).flatMap usedNames
  have himported : imported = used.eraseDups := by
    change Module.importsFrom schemasSource client = _
    rw [importsFrom_clientModule, importedNames, distinctBy_id_eq_eraseDups]
    rfl
  have hschemas : schemas = allDeclarations _ := exported_schemasModule _
  refine ⟨?_, ?_, ?_, ?_⟩
  · rw [himported]
    exact nodup_eraseDups _
  · rw [himported, exported_clientModule, List.flatMap_cons, List.flatMap_cons, List.flatMap_map]
    congr 1
    apply List.flatMap_congr
    intro op hop
    obtain ⟨result, hr, rfl⟩ := List.mem_map.mp hop
    obtain ⟨_, -, ⟨parts⟩⟩ := hparts.exists_parts hr
    exact (signatureNames_operationFunction parts.namesTargets).symm
  · intro name hname
    rw [himported, List.mem_eraseDups, List.mem_flatMap] at hname
    obtain ⟨op, hop, hname⟩ := hname
    obtain ⟨result, hr, rfl⟩ := List.mem_map.mp hop
    obtain ⟨_, -, ⟨parts⟩⟩ := hparts.exists_parts hr
    rw [← Option.ne_none_iff_isSome, hschemas, ne_eq, typeIn?_allDeclarations_eq_none_iff, not_not]
    apply parts.declares_usedNames (declared_subset_schemas doc _ hr) _ name hname
    intro response hresponse
    apply hclosed
    exact List.mem_append_right _ (List.mem_filterMap.mpr ⟨result.2, hop, hresponse⟩)
  · intro op hop response hresponse hh
    obtain ⟨result, hr, rfl⟩ := List.mem_map.mp hop
    obtain ⟨_, -, ⟨parts⟩⟩ := hparts.exists_parts hr
    have hmem := declared_subset_schemas doc (shapes.map Prod.fst) hr
      (parts.response_mem hresponse hh)
    refine ⟨?_, hmem, ?_⟩
    · rw [himported, List.mem_eraseDups, List.mem_flatMap]
      refine ⟨result.2, hop, .tail _ ?_⟩
      rw [Option.mem_def.mp hresponse]
      simp only [if_pos hh]
      exact .head _
    · intro hunique
      rw [hschemas]
      exact typeIn?_allDeclarations_of_unique hmem hunique

def askVisit : Contract.Operation :=
  { operationId := some "lastVisit"
    responses := [("200", .inline { content := [("application/json",
      { schema := some (.inline
          { properties := some [("pet", .ref ⟨"/components/schemas/Pet"⟩)] }) })] })] }

def findVisitors : Contract.Operation :=
  { operationId := some "findVisitors"
    responses := [("200", .inline { content := [("application/json",
      { schema := some (.inline
          { type := some .array
            items := some (.inline
              { oneOf := some
                  [.ref ⟨"/components/schemas/Pet"⟩, .ref ⟨"/components/schemas/Vet"⟩,
                   .ref ⟨"/components/schemas/Pet"⟩] }) }) })] })] }

def visitPath : Contract.PathItem := { get := some askVisit, post := some findVisitors }

def clinic : Document :=
  { components := some
      { schemas :=
          [("Vet", .inline { type := some .string }), ("Pet", .inline { type := some .string })] }
    paths := [("/visits", visitPath)] }

/-- The clinic's client imports the pets once, before the vets. -/
theorem clinic_imports_exact :
    ∃ api, (Api.resolve clinic 8).Yields api [] ∧
      (clientModule api.operations).importsFrom schemasSource =
        ["LastVisitRequest", "LastVisitResponse", "FindVisitorsRequest", "Pet", "Vet"] ∧
      ((clientModule api.operations).exported.flatMap
        fun e => e.declaration.signatureNames).eraseDups =
        ["LastVisitRequest", "LastVisitResponse", "FindVisitorsRequest", "Pet", "Vet"] ∧
      ∃ op ∈ api.operations, ∃ response ∈ op.response,
        response.isHoistable = true ∧ response.name = "LastVisitResponse" ∧
        typeIn? (schemasModule api.schemas).exported "LastVisitResponse" =
          some (declaredType response.declaration) := by
  have hpath (id : String) : (resolvePath id "/visits").Yields [[.literal "visits"]] [] :=
    resolvePath_yields_of_longest (by decide +kernel) id
  have hvisit : (resolveOperation (clinic.components.getD {}) 8 "/visits" visitPath .get
      askVisit).Yields (_, _) [] :=
    .through (a := "lastVisit") rfl rfl (hpath _) rfl
  have hfind : (resolveOperation (clinic.components.getD {}) 8 "/visits" visitPath .post
      findVisitors).Yields (_, _) [] :=
    .through (a := "findVisitors") rfl rfl (hpath _) rfl
  have hparts : ResolvesParts clinic 8 [(_, []), (_, [])] [(_, []), (_, [])] :=
    ⟨.cons rfl (.cons rfl .nil), .cons hvisit (.cons hfind .nil)⟩
  have h := hparts.resolve_yields rfl rfl
  obtain ⟨-, heq, -, hresponse⟩ := client_imports_exact h
  have hn : ["Vet", "Pet", "LastVisitResponse", "LastVisitRequest",
      "FindVisitorsRequest"].Nodup := by
    decide
  obtain ⟨-, hmem, htype⟩ := hresponse _ (.head _) _ rfl rfl
  refine ⟨_, h, rfl, heq.symm.trans rfl, _, .head _, _, rfl, rfl, rfl, htype ?_⟩
  intro s hs hname
  apply List.inj_on_of_nodup_map (f := Shape.name) _ hs hmem hname
  exact hn

end ApiBindings.Model
