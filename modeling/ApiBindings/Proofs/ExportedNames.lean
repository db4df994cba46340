import ApiBindings.Proofs.ClientImports
import ApiBindings.Proofs.DeclaredNames
import ApiBindings.TypeScript.Package
import Mathlib.Data.List.Perm.Basic

namespace ApiBindings.TypeScript
open Model (Shape Operation Api exported_clientModule)

def Declaration.name : Declaration → String
  | .interface name _ | .alias name _ | .enum name _ | .space name _ | .function name _ _ _ => name

def Declaration.isSpace : Declaration → Bool
  | .space .. => true
  | _ => false

/-- The names that a module declares. A namespace shares the name of the declaration before it. -/
def Module.declaredNames (m : Module) : List String :=
  (m.exported.filter fun e => !e.declaration.isSpace).map fun e => e.declaration.name

def Module.passedOn (m : Module) : List String :=
  m.filterMap fun
    | .exportAll source => some source
    | _ => none

/-- The modules of the package that `indexModule` passes on. -/
def packageModules (api : Api) : List (String × Module) :=
  [(clientSource, clientModule api.operations), (schemasSource, schemasModule api.schemas)]

/-- The names that the package exports. -/
def exportedNames (api : Api) (client : Bool) : List String :=
  (indexModule client).passedOn.flatMap fun source =>
    (((packageModules api).lookup source).getD []).declaredNames

theorem name_shapeDeclaration (s : Shape) : (shapeDeclaration s).name = s.name := by
  unfold shapeDeclaration
  split <;> rfl

theorem isSpace_shapeDeclaration (s : Shape) : (shapeDeclaration s).isSpace = false := by
  unfold shapeDeclaration
  split <;> rfl

theorem declaredNames_schemasModule (shapes : List Shape) :
    (schemasModule shapes).declaredNames = shapes.map Shape.name := by
  rw [Module.declaredNames, exported_schemasModule]
  induction shapes with
  | nil => rfl
  | cons s rest ih =>
    have hs : ((declarations s).filter fun e => !e.declaration.isSpace) =
        [{ declaration := shapeDeclaration s }] := by
      rw [declarations_eq, List.filter_cons_of_pos (by simp [isSpace_shapeDeclaration])]
      split <;> rfl
    rw [allDeclarations, List.filter_append, List.map_append, hs, ih, List.map_singleton,
      name_shapeDeclaration, List.map_cons, List.singleton_append]

theorem name_operationFunction (op : Operation) :
    (operationFunction op).declaration.name = functionName op.id := by
  simp only [operationFunction, Declaration.name]

theorem isSpace_operationFunction (op : Operation) :
    (operationFunction op).declaration.isSpace = false := rfl

theorem declaredNames_clientModule (operations : List Operation) :
    (clientModule operations).declaredNames =
      "ApiRequest" :: "Requester" :: operations.map fun op => functionName op.id := by
  have hall : ((operations.map operationFunction).filter fun e => !e.declaration.isSpace) =
      operations.map operationFunction := by
    rw [List.filter_eq_self]
    intro e he
    obtain ⟨op, -, rfl⟩ := List.mem_map.mp he
    rw [isSpace_operationFunction, Bool.not_false]
  have hclient : ((requestInterface :: requesterAlias ::
      operations.map operationFunction).filter fun e => !e.declaration.isSpace) =
        requestInterface :: requesterAlias :: operations.map operationFunction := by
    rw [List.filter_cons_of_pos rfl, List.filter_cons_of_pos rfl, hall]
  have hnames : (operations.map operationFunction).map (fun e => e.declaration.name) =
      operations.map fun op => functionName op.id := by
    simp only [List.map_map, Function.comp_def, name_operationFunction]
  rw [Module.declaredNames, exported_clientModule, hclient, List.map_cons, List.map_cons, hnames]
  simp only [requestInterface, requesterAlias, Declaration.name]

theorem exportedNames_true (api : Api) :
    exportedNames api true =
      ("ApiRequest" :: "Requester" :: api.operations.map fun op => functionName op.id) ++
        api.schemas.map Shape.name := by
  have hsources : (indexModule true).passedOn = [clientSource, schemasSource] := rfl
  have hclient : (packageModules api).lookup clientSource = some (clientModule api.operations) :=
    rfl
  have hschemas : (packageModules api).lookup schemasSource = some (schemasModule api.schemas) :=
    rfl
  rw [exportedNames, hsources, List.flatMap_cons, List.flatMap_singleton, hclient, hschemas,
    Option.getD_some, Option.getD_some, declaredNames_clientModule, declaredNames_schemasModule]

end ApiBindings.TypeScript

namespace ApiBindings.Model
open Contract (Document SchemaNode PathItem SplitList)
open Resolving TypeScript

/-- No two sources of exported names meet. `Split` holds of the components whose items are declared
apart, and `Answered` of the operations whose responses are. -/
structure NamesApart (functions keys stems : List String) (Split Answered : String → Prop) :
    Prop where
  nodup_functions : functions.Nodup
  nodup_keys : keys.Nodup
  nodup_stems : stems.Nodup
  functions_keys : functions.Disjoint keys
  client_keys : "ApiRequest" ∉ keys ∧ "Requester" ∉ keys
  client_stems : "Api" ∉ stems
  items : ∀ key, Split key → key ++ "Item" ∉ functions ∧ key ++ "Item" ∉ keys
  requests : ∀ stem ∈ stems, stem ++ "Request" ∉ functions ∧ stem ++ "Request" ∉ keys
  responses : ∀ stem, Answered stem → stem ++ "Response" ∉ functions ∧ stem ++ "Response" ∉ keys

section Endings

variable {names others : List String} {ending : String} {c : Char}

theorem getLast?_append_toList {s : String} (h : ending.toList.getLast? = some c) :
    (s ++ ending).toList.getLast? = some c := by
  rw [String.toList_append, List.getLast?_append, h, Option.some_or]

theorem append_ending_injective (ending : String) : Function.Injective (· ++ ending) := by
  intro s t h
  apply String.toList_injective
  have hlist := congrArg String.toList h
  simpa using hlist

theorem disjoint_map_append_iff :
    others.Disjoint (names.map (· ++ ending)) ↔ ∀ name ∈ names, name ++ ending ∉ others := by
  constructor
  · intro h name hn ho
    exact h ho (List.mem_map_of_mem hn)
  · intro h s ho hs
    obtain ⟨name, hn, rfl⟩ := List.mem_map.mp hs
    exact h name hn ho

theorem disjoint_map_append (h : ending.toList.getLast? = some c)
    (ho : ∀ s ∈ others, s.toList.getLast? ≠ some c) :
    others.Disjoint (names.map (· ++ ending)) := by
  rw [disjoint_map_append_iff]
  intro name _ hm
  exact ho _ hm (getLast?_append_toList h)

theorem getLast?_of_mem_map_append {d : Char} (h : ending.toList.getLast? = some c) (hd : c ≠ d) :
    ∀ s ∈ names.map (· ++ ending), s.toList.getLast? ≠ some d := by
  intro s hs hlast
  obtain ⟨name, -, rfl⟩ := List.mem_map.mp hs
  rw [getLast?_append_toList h] at hlast
  exact hd (Option.some.inj hlast)

end Endings

def clientNames : List String := ["ApiRequest", "Requester"]

theorem clientNames_disjoint_functions (ids : List String) :
    clientNames.Disjoint (ids.map functionName) := by
  have hupper : ∀ s ∈ clientNames, ∃ c rest, s.toList = c :: rest ∧ c.isUpper = true := by
    simp [clientNames]
  intro s hc hf
  obtain ⟨id, -, rfl⟩ := List.mem_map.mp hf
  obtain ⟨c, rest, hs, hu⟩ := hupper _ hc
  rw [isUpper_head_functionName hs] at hu
  exact absurd hu Bool.false_ne_true

theorem clientNames_disjoint_requests_iff {stems : List String} :
    clientNames.Disjoint (stems.map (· ++ "Request")) ↔ "Api" ∉ stems := by
  rw [disjoint_map_append_iff]
  constructor
  · intro h hm
    exact h "Api" hm (.head _)
  · intro h stem hm hc
    simp only [clientNames, List.mem_cons, List.not_mem_nil, or_false] at hc
    rcases hc with hc | hc
    · have hapi : stem = "Api" := append_ending_injective "Request" hc
      exact h (hapi ▸ hm)
    · have hlast : (stem ++ "Request").toList.getLast? = some 't' := getLast?_append_toList rfl
      rw [hc] at hlast
      exact absurd hlast (by decide)

/-- The sources of names that have different endings never meet. -/
theorem nodup_names_iff {functions keys split stems answered : List String}
    (hclient : clientNames.Disjoint functions) (hsplit : split.Sublist keys)
    (hanswered : answered.Sublist stems) :
    [clientNames, functions, keys, split.map (· ++ "Item"), stems.map (· ++ "Request"),
      answered.map (· ++ "Response")].flatten.Nodup ↔
      NamesApart functions keys stems (· ∈ split) (· ∈ answered) := by
  have hinj := append_ending_injective
  rw [List.nodup_flatten]
  simp only [List.forall_mem_cons, List.pairwise_cons]
  constructor
  · rintro ⟨⟨-, hf, hk, -, hr, -, -⟩, ⟨-, hck, -, hcr, -, -⟩, ⟨hfk, hfi, hfr, hfs, -⟩,
      ⟨hki, hkr, hks, -⟩, -⟩
    rw [disjoint_map_append_iff] at hfi hfr hfs hki hkr hks
    exact
      { nodup_functions := hf
        nodup_keys := hk
        nodup_stems := hr.of_map
        functions_keys := hfk
        client_keys := ⟨hck (.head _), hck (.tail _ (.head _))⟩
        client_stems := clientNames_disjoint_requests_iff.mp hcr
        items := fun key h => ⟨hfi key h, hki key h⟩
        requests := fun stem h => ⟨hfr stem h, hkr stem h⟩
        responses := fun stem h => ⟨hfs stem h, hks stem h⟩ }
  · intro h
    have hck : clientNames.Disjoint keys := by
      intro s hs hk
      simp only [clientNames, List.mem_cons, List.not_mem_nil, or_false] at hs
      rcases hs with hs | hs
      · exact h.client_keys.1 (hs ▸ hk)
      · exact h.client_keys.2 (hs ▸ hk)
    refine ⟨⟨by decide, h.nodup_functions, h.nodup_keys, ?_, ?_, ?_, by simp⟩,
      ⟨hclient, hck, ?_, ?_, ?_, by simp⟩, ⟨h.functions_keys, ?_, ?_, ?_, by simp⟩,
      ⟨?_, ?_, ?_, by simp⟩, ⟨?_, ?_, by simp⟩, ⟨?_, by simp⟩, by simp⟩
    · exact (h.nodup_keys.sublist hsplit).map (hinj _)
    · exact h.nodup_stems.map (hinj _)
    · exact (h.nodup_stems.sublist hanswered).map (hinj _)
    · exact disjoint_map_append (c := 'm') rfl (by decide)
    · exact clientNames_disjoint_requests_iff.mpr h.client_stems
    · exact disjoint_map_append (c := 'e') rfl (by decide)
    · exact disjoint_map_append_iff.mpr fun key hk => (h.items key hk).1
    · exact disjoint_map_append_iff.mpr fun stem hs => (h.requests stem hs).1
    · exact disjoint_map_append_iff.mpr fun stem hs => (h.responses stem hs).1
    · exact disjoint_map_append_iff.mpr fun key hk => (h.items key hk).2
    · exact disjoint_map_append_iff.mpr fun stem hs => (h.requests stem hs).2
    · exact disjoint_map_append_iff.mpr fun stem hs => (h.responses stem hs).2
    · exact disjoint_map_append rfl (getLast?_of_mem_map_append (c := 'm') rfl (by decide))
    · exact disjoint_map_append rfl (getLast?_of_mem_map_append (c := 'm') rfl (by decide))
    · exact disjoint_map_append rfl (getLast?_of_mem_map_append (c := 't') rfl (by decide))

/-- The items of the component's list are declared apart from it. -/
def SplitKey (doc : Document) (key : String) : Prop :=
  ∃ node, (key, node) ∈ (doc.components.getD {}).schemas ∧ SplitList node

/-- An operation whose capitalised name this is has a response that is declared. -/
def AnsweredStem (doc : Document) (stem : String) : Prop :=
  ∃ o ∈ operationsOf doc.paths, Text.pascalCase (operationId o) = stem ∧
    DeclaresResponse (doc.components.getD {}) o.2.2.1 o.2.2.2.responses

open scoped List in
/-- Each source declares a name, and some another one. All their names, up to the order. -/
theorem names_perm {α β : Type} {r : α → β → Prop} (own extra : α → String)
    {names : β → List String} (Extends : α → Prop) [DecidablePred Extends]
    (hr : ∀ a b, r a b → ¬ Extends a ∧ names b = [own a] ∨ Extends a ∧ names b = [extra a, own a])
    {as : List α} {bs : List β} (h : List.Forall₂ r as bs) :
    (bs.flatMap names).Perm (as.map own ++ (as.filter (Extends ·)).map extra) := by
  induction h with
  | nil => exact .refl _
  | @cons a b as bs hab _ ih =>
    rw [List.flatMap_cons, List.map_cons]
    rcases hr a b hab with ⟨hno, hb⟩ | ⟨hyes, hb⟩
    · rw [hb, List.filter_cons_of_neg (by simpa using hno)]
      exact ih.cons _
    · rw [hb, List.filter_cons_of_pos (by simpa using hyes), List.map_cons]
      calc
        [extra a, own a] ++ bs.flatMap names
        _ ~ own a :: extra a :: bs.flatMap names := .swap _ _ _
        _ ~ own a :: extra a :: (as.map own ++ (as.filter (Extends ·)).map extra) :=
          (ih.cons _).cons _
        _ ~ own a :: (as.map own ++ extra a :: (as.filter (Extends ·)).map extra) :=
          List.perm_middle.symm.cons _

section Contract

variable {doc : Document} {limit : Nat} {shapes : List (Shape × List Warning)}
  {operations : List ((List Shape × Operation) × List Warning)}

theorem ResolvesParts.operationIds_eq (h : ResolvesParts doc limit shapes operations) :
    operations.map (fun r => r.1.2.id) = (operationsOf doc.paths).map operationId := by
  rw [← List.forall₂_eq_eq_eq, List.forall₂_map_left_iff, List.forall₂_map_right_iff]
  exact h.operations.flip.imp fun _ _ => resolveOperation_id

open scoped Classical in
/-- The components that are declared with their items apart. -/
noncomputable def splitKeys (doc : Document) : List String :=
  ((doc.components.getD {}).schemas.filter (SplitList ·.2)).map Prod.fst

open scoped Classical in
noncomputable def answeredStems (doc : Document) : List String :=
  ((operationsOf doc.paths).filter fun o =>
    DeclaresResponse (doc.components.getD {}) o.2.2.1 o.2.2.2.responses).map fun o =>
      Text.pascalCase (operationId o)

theorem ResolvesParts.componentNames_perm (h : ResolvesParts doc limit shapes operations) :
    (((shapes.map Prod.fst).flatMap componentBlock).map Shape.name).Perm
      ((doc.components.getD {}).schemas.map Prod.fst ++ (splitKeys doc).map (· ++ "Item")) := by
  classical
  rw [List.map_flatMap, List.flatMap_map, splitKeys, List.map_map]
  refine names_perm Prod.fst (fun entry : String × SchemaNode => entry.1 ++ "Item")
    (fun entry => SplitList entry.2) ?_ h.shapes
  intro entry r hy
  rw [← resolveSchema_isSplit_iff hy]
  rcases componentBlock_cases r.1 with ⟨hno, hblock⟩ | ⟨hyes, hblock⟩
  · refine .inl ⟨hno, ?_⟩
    rw [hblock, List.map_singleton, resolveSchema_name hy]
  · refine .inr ⟨hyes, ?_⟩
    rw [hblock, List.map_cons, List.map_singleton, resolveSchema_name hy]

theorem ResolvesParts.operationNames_perm (h : ResolvesParts doc limit shapes operations) :
    (((operations.map Prod.fst).flatMap Prod.fst).map Shape.name).Perm
      ((((operationsOf doc.paths).map operationId).map Text.pascalCase).map (· ++ "Request") ++
        (answeredStems doc).map (· ++ "Response")) := by
  classical
  rw [List.map_flatMap, List.flatMap_map, answeredStems, List.map_map, List.map_map, List.map_map]
  refine names_perm
    (fun o => Text.pascalCase (operationId o) ++ "Request")
    (fun o => Text.pascalCase (operationId o) ++ "Response")
    (fun o => DeclaresResponse (doc.components.getD {}) o.2.2.1 o.2.2.2.responses)
    ?_ h.operations
  intro o r hy
  obtain ⟨parts⟩ := resolveOperation_parts hy
  rw [← resolveOperation_id hy]
  exact parts.names_cases

end Contract

theorem mem_splitKeys_iff {doc : Document} {key : String} :
    key ∈ splitKeys doc ↔ SplitKey doc key := by
  simp [splitKeys, SplitKey]

theorem mem_answeredStems_iff {doc : Document} {stem : String} :
    stem ∈ answeredStems doc ↔ AnsweredStem doc stem := by
  classical
  unfold answeredStems AnsweredStem
  rw [List.mem_map]
  constructor
  · rintro ⟨o, ho, hstem⟩
    rw [List.mem_filter, decide_eq_true_eq] at ho
    exact ⟨o, ho.1, hstem, ho.2⟩
  · rintro ⟨o, ho, hstem, hd⟩
    exact ⟨o, List.mem_filter.mpr ⟨ho, decide_eq_true hd⟩, hstem⟩

/-- In a contract that resolves, the names that the package exports are pairwise distinct just when
the sources that they come from do not meet. -/
theorem exportedNames_nodup_iff {doc : Document} {limit : Nat} {api : Api} {ws : List Warning}
    (h : (Api.resolve doc limit).Yields api ws) :
    (exportedNames api true).Nodup ↔
      NamesApart (((operationsOf doc.paths).map operationId).map functionName)
        ((doc.components.getD {}).schemas.map Prod.fst)
        (((operationsOf doc.paths).map operationId).map Text.pascalCase)
        (SplitKey doc) (AnsweredStem doc) := by
  obtain ⟨shapes, operations, hparts, rfl, -⟩ := ofParts_of_resolve h
  have hsplit : SplitKey doc = (· ∈ splitKeys doc) := by
    funext key
    exact propext mem_splitKeys_iff.symm
  have hanswered : AnsweredStem doc = (· ∈ answeredStems doc) := by
    funext stem
    exact propext mem_answeredStems_iff.symm
  have hfunctions : ((operations.map Prod.fst).map Prod.snd).map (fun op => functionName op.id) =
      ((operationsOf doc.paths).map operationId).map functionName := by
    rw [← hparts.operationIds_eq]
    simp only [List.map_map, Function.comp_def]
  have hnames : (exportedNames (Api.ofParts doc (shapes.map Prod.fst) (operations.map Prod.fst))
      true).Perm (clientNames ++ ((operationsOf doc.paths).map operationId).map functionName ++
        (((doc.components.getD {}).schemas.map Prod.fst ++ (splitKeys doc).map (· ++ "Item")) ++
          ((((operationsOf doc.paths).map operationId).map Text.pascalCase).map (· ++ "Request") ++
            (answeredStems doc).map (· ++ "Response")))) := by
    rw [exportedNames_true, Api.ofParts, hfunctions, List.map_append]
    exact (hparts.componentNames_perm.append hparts.operationNames_perm).append_left _
  rw [hsplit, hanswered, hnames.nodup_iff, ← nodup_names_iff]
  · simp
  · exact clientNames_disjoint_functions _
  · exact List.filter_sublist.map _
  · rw [List.map_map]
    exact List.filter_sublist.map _

def listBirds : Contract.Operation :=
  { operationId := some "listBirds"
    responses := [("200", .inline { content := [("application/json",
      { schema := some (.inline
          { properties := some [("birds", .ref ⟨"/components/schemas/Birds"⟩)] }) })] })] }

def addBird : Contract.Operation :=
  { operationId := some "add_bird", responses := [("204", .inline {})] }

def birdPath : PathItem := { get := some listBirds, post := some addBird }

def aviary : Document :=
  { components := some
      { schemas := [("Birds", .inline
          { type := some .array
            items := some (.inline
              { properties := some [("ring", .inline { type := some .string })] }) })] }
    paths := [("/birds", birdPath)] }

/-- All sources give names for the aviary, and none of them meet. -/
theorem aviary_names_nodup : ∃ api, (Api.resolve aviary 8).Yields api [] ∧
    exportedNames api true =
      ["ApiRequest", "Requester", "listBirds", "addBird", "BirdsItem", "Birds",
        "ListBirdsResponse", "ListBirdsRequest", "AddBirdRequest"] ∧
    (exportedNames api true).Nodup := by
  have hpath (id : String) : (resolvePath id "/birds").Yields [[.literal "birds"]] [] :=
    resolvePath_yields_of_longest (by decide +kernel) id
  have hlist : (resolveOperation (aviary.components.getD {}) 8 "/birds" birdPath .get
      listBirds).Yields (_, _) [] :=
    .through (a := "listBirds") rfl rfl (hpath _) rfl
  have hadd : (resolveOperation (aviary.components.getD {}) 8 "/birds" birdPath .post
      addBird).Yields (_, _) [] :=
    .through (a := "add_bird") rfl rfl (hpath _) rfl
  have hparts : ResolvesParts aviary 8 [(_, [])] [(_, []), (_, [])] :=
    ⟨.cons rfl .nil, .cons hlist (.cons hadd .nil)⟩
  have h := hparts.resolve_yields rfl rfl
  have hfunctions : ["listBirds", "add_bird"].map functionName = ["listBirds", "addBird"] := by
    decide +kernel
  have hstems : ["listBirds", "add_bird"].map Text.pascalCase = ["ListBirds", "AddBird"] := by
    decide +kernel
  have hids : (operationsOf aviary.paths).map operationId = ["listBirds", "add_bird"] := rfl
  have hkeys : (aviary.components.getD {}).schemas.map Prod.fst = ["Birds"] := rfl
  refine ⟨_, h, ?_, (exportedNames_nodup_iff h).mpr ?_⟩
  · decide +kernel
  · rw [hids, hfunctions, hstems, hkeys]
    refine ⟨by decide, by decide, by decide, ?_, by decide, by decide, ?_, by decide, ?_⟩
    · exact List.disjoint_singleton.mpr (by decide)
    · rintro key ⟨node, hn, -⟩
      have hkey : key = "Birds" := List.mem_singleton.mp (hkeys ▸ List.mem_map_of_mem hn)
      rw [hkey]
      decide
    · rintro stem ⟨o, ho, hstem, -⟩
      have hmem : stem ∈ ["ListBirds", "AddBird"] := by
        rw [← hstems, ← hids, ← hstem]
        exact List.mem_map_of_mem (List.mem_map_of_mem ho)
      have hall : ∀ stem ∈ ["ListBirds", "AddBird"],
          stem ++ "Response" ∉ ["listBirds", "addBird"] ∧ stem ++ "Response" ∉ ["Birds"] := by
        decide
      exact hall stem hmem

def callApi : Contract.Operation :=
  { operationId := some "api", responses := [("204", .inline {})] }

/-- A list of pets that is split, beside a component with the name of its items, and an operation
whose envelope is called like what the client declares. -/
def clashing : Document :=
  { components := some
      { schemas :=
          [("Pets", .inline
            { type := some .array
              items := some (.inline
                { properties := some [("name", .inline { type := some .string })] }) }),
           ("PetsItem", .inline { type := some .string })] }
    paths := [("/api", { post := some callApi })] }

/-- The contract resolves without a warning, and two names are exported twice. -/
theorem clashing_names_not_nodup : ∃ api, (Api.resolve clashing 8).Yields api [] ∧
    exportedNames api true =
      ["ApiRequest", "Requester", "api", "PetsItem", "Pets", "PetsItem", "ApiRequest"] ∧
    ¬ (exportedNames api true).Nodup := by
  have hpath : (resolvePath "api" "/api").Yields [[.literal "api"]] [] :=
    resolvePath_yields_of_longest (by decide +kernel) _
  have hcall : (resolveOperation (clashing.components.getD {}) 8 "/api" { post := some callApi }
      .post callApi).Yields (_, _) [] :=
    .through (a := "api") rfl rfl hpath rfl
  have hparts : ResolvesParts clashing 8 [(_, []), (_, [])] [(_, [])] :=
    ⟨.cons rfl (.cons rfl .nil), .cons hcall .nil⟩
  refine ⟨_, hparts.resolve_yields rfl rfl, ?_, ?_⟩
  · decide +kernel
  · decide +kernel

end ApiBindings.Model
