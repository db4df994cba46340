import ApiBindings.Proofs.Decoding

namespace ApiBindings.Decode

theorem namedEntries_cons {e : Key × Tree} (h : e.1 ≠ .other) (rest : List (Key × Tree)) :
    namedEntries (e :: rest) =
      { parts := e :: (namedEntries rest).parts, stop := (namedEntries rest).stop } := by
  obtain ⟨key, t⟩ := e
  cases key with
  | other => exact absurd rfl h
  | text name => rfl
  | position n => rfl

theorem namedEntries_of_forall {entries : List (Key × Tree)} (h : ∀ e ∈ entries, e.1 ≠ .other) :
    namedEntries entries = { parts := entries } := by
  induction entries with
  | nil => rfl
  | cons e rest ih =>
    rw [List.forall_mem_cons] at h
    rw [namedEntries_cons h.1, ih h.2]

theorem stop_namedEntries {entries : List (Key × Tree)} :
    (namedEntries entries).stop = none ↔ ∀ e ∈ entries, e.1 ≠ .other := by
  induction entries with
  | nil => simp [namedEntries]
  | cons e rest ih =>
    rw [List.forall_mem_cons, ← ih]
    by_cases he : e.1 = .other
    · obtain ⟨key, t⟩ := e
      cases he
      simp [namedEntries]
    · simp [he, namedEntries_cons he]

section Filter

variable {ν α : Type} [Node ν] {keep : Key → Bool}

/-- Entries may be taken out before the rest is cut off at a key that can name no field. -/
theorem namedEntries_filter (keep : Key → Bool) (hk : keep .other = true)
    (entries : List (Key × Tree)) :
    namedEntries (entries.filter fun e => keep e.1) =
      { parts := (namedEntries entries).parts.filter fun e => keep e.1
        stop := (namedEntries entries).stop } := by
  induction entries with
  | nil => rfl
  | cons e rest ih =>
    by_cases he : e.1 = .other
    · obtain ⟨key, t⟩ := e
      cases he
      rw [List.filter_cons_of_pos (by simpa using hk)]
      rfl
    · rw [namedEntries_cons he]
      cases hkeep : keep e.1 with
      | true =>
        rw [List.filter_cons_of_pos (by simpa using hkeep), namedEntries_cons he, ih,
          List.filter_cons_of_pos (by simpa using hkeep)]
      | false =>
        rw [List.filter_cons_of_neg (by simp [hkeep]), ih,
          List.filter_cons_of_neg (by simp [hkeep])]

variable {fields : List (Field ν α)} {name : String} {blank value : α}

/-- Entries that no field is for make no difference, if they can be passed over. -/
theorem readNamed_filter (h : ∀ key, keep key = false → findField? fields key = none)
    {entries : List (Key × ν)}
    (hskip : ∀ e ∈ entries, keep e.1 = false → Node.skip e.2 = .ok ()) (seen : List String)
    (value : α) :
    readNamed fields (entries.filter fun e => keep e.1) seen value =
      readNamed fields entries seen value := by
  induction entries generalizing seen value with
  | nil => rfl
  | cons e rest ih =>
    obtain ⟨key, node⟩ := e
    rw [List.forall_mem_cons] at hskip
    cases hkeep : keep key with
    | true =>
      rw [List.filter_cons_of_pos (by simpa using hkeep), readNamed, readNamed]
      simp only [ih hskip.2]
    | false =>
      rw [List.filter_cons_of_neg (by simp [hkeep]), ih hskip.2, readNamed, h key hkeep]
      dsimp only
      rw [hskip.1 hkeep]
      rfl

theorem record_without (h : ∀ key, keep key = false → findField? fields key = none) {node other : ν}
    {run : Run (Key × ν)} (hr : Node.record name node = .ok (.named run))
    (ho : Node.record name other =
      .ok (.named { run with parts := run.parts.filter fun e => keep e.1 }))
    (hv : record name fields blank node = .ok value) :
    record name fields blank other = .ok value := by
  obtain ⟨seen, hread⟩ := record_named hr hv
  have hskip : ∀ e ∈ run.parts, keep e.1 = false → Node.skip e.2 = .ok () := by
    intro e he hkeep
    exact (mem_of_readNamed hread he).2 (h e.1 hkeep)
  rw [record_eq_of_named hr] at hv
  rw [record_eq_of_named ho, readNamed_filter h hskip]
  exact hv

end Filter

section Single

variable {α : Type} {field : Field Tree α} {blank value : α} {entries : List (Key × Tree)}

theorem eq_of_findField?_single {key : Key} {found : Field Tree α}
    (h : findField? [field] key = some found) : found = field :=
  List.mem_singleton.mp (mem_of_findField? h)

theorem readNamed_single_iff (h : ∀ e ∈ entries, findField? [field] e.1 = some field) :
    (∃ seen, readNamed [field] entries [] blank = .ok (seen, value) ∧ field.name ∈ seen) ↔
      ∃ key part put, entries = [(key, part)] ∧ field.read part = .ok put ∧ put blank = value := by
  constructor
  · rintro ⟨seen, hread, hseen⟩
    cases entries with
    | nil =>
      cases hread
      cases hseen
    | cons first rest =>
      obtain ⟨key, part⟩ := first
      rw [List.forall_mem_cons] at h
      simp only [readNamed, h.1, List.contains_nil, Bool.false_eq_true, if_false] at hread
      obtain ⟨put, hput, hread⟩ := bind_eq_ok_iff.mp hread
      cases rest with
      | nil =>
        cases hread
        exact ⟨key, part, put, rfl, within_eq_ok_iff.mp hput, rfl⟩
      | cons second rest =>
        -- The name has been seen by then.
        simp [readNamed, h.2 second List.mem_cons_self] at hread
  · rintro ⟨key, part, put, rfl, hput, rfl⟩
    refine ⟨[field.name], ?_, List.mem_singleton_self _⟩
    simp only [readNamed, h _ List.mem_cons_self, List.contains_nil, Bool.false_eq_true, if_false]
    rw [hput]
    rfl

theorem record_eq_ok_iff_seen {name : String} (hf : field.absence = .fault) :
    record name [field] blank (.map entries) = .ok value ↔ (namedEntries entries).stop = none ∧
      ∃ seen, readNamed [field] (namedEntries entries).parts [] blank = .ok (seen, value) ∧
        field.name ∈ seen := by
  have hrecord : Node.record name (Tree.map entries) = .ok (.named (namedEntries entries)) := rfl
  rw [record_eq_of_named hrecord]
  constructor
  · intro h
    obtain ⟨⟨seen, result⟩, hread, h⟩ := bind_eq_ok_iff.mp h
    obtain ⟨_, hstop, h⟩ := bind_eq_ok_iff.mp h
    split at h
    · cases h
    · next hmissing =>
      cases h
      exact ⟨checkRun_eq_ok_iff.mp hstop, seen, hread, by simpa [hf] using hmissing⟩
  · rintro ⟨hstop, seen, hread, hseen⟩
    rw [hread, bind_eq_ok_iff]
    refine ⟨(seen, value), rfl, bind_eq_ok_iff.mpr ⟨(), checkRun_eq_ok_iff.mpr hstop, ?_⟩⟩
    simp [hf, hseen, pure, Except.pure]

theorem record_single_iff {name : String} (hf : field.absence = .fault) :
    record name [field] blank (.map entries) = .ok value ↔
      (∀ e ∈ entries, e.1 ≠ .other) ∧
        ∃ key part put, (entries.filter fun e => (findField? [field] e.1).isSome) = [(key, part)] ∧
          field.read part = .ok put ∧ put blank = value := by
  rw [record_eq_ok_iff_seen hf, stop_namedEntries]
  apply and_congr_right
  intro hnamed
  have hmeant : ∀ e ∈ entries.filter fun e => (findField? [field] e.1).isSome,
      findField? [field] e.1 = some field := by
    intro e he
    obtain ⟨found, hfound⟩ := Option.isSome_iff_exists.mp (List.mem_filter.mp he).2
    rw [hfound, eq_of_findField?_single hfound]
  have hskipped : ∀ key, (findField? [field] key).isSome = false → findField? [field] key = none :=
    fun key h => by simpa using h
  rw [namedEntries_of_forall hnamed, ← readNamed_single_iff hmeant,
    readNamed_filter hskipped fun _ _ _ => rfl]

end Single

end ApiBindings.Decode

namespace ApiBindings.Contract
open Decode

/-- Is the key taken for `$ref`? A number counts fields, and a reference has but one. -/
def isRefKey (key : Key) : Bool := key = .text "$ref" || key = .position 0

/-- What makes a map a reference: one `$ref` with a pointer into the contract as its text, among
keys that can all name something. -/
structure RefersTo (entries : List (Key × Tree)) (p : Pointer) : Prop where
  named : ∀ e ∈ entries, e.1 ≠ .other
  single : ∃ key s, (entries.filter fun e => isRefKey e.1) = [(key, .text s)] ∧
    Pointer.parse s = .ok p

theorem pointer_eq_ok_iff {tree : Tree} {p : Pointer} :
    pointer tree = .ok p ↔ ∃ s, tree = .text s ∧ Pointer.parse s = .ok p := by
  have htext : ∀ s, Node.text "a component reference" tree = .ok s ↔ tree = .text s := by
    intro s
    cases tree <;> simp [Node.text, wrongTree]
  unfold pointer
  simp only [bind_eq_ok_iff, htext]
  apply exists_congr
  intro s
  apply and_congr_right
  intro _
  cases Pointer.parse s with
  | ok found => simp [pure, Except.pure]
  | error e => simp

theorem reference_map_iff {entries : List (Key × Tree)} {p : Pointer} :
    reference (.map entries) = .ok p ↔ RefersTo entries p := by
  have hkey (key : Key) :
      (findField? [(.of "$ref" .fault pointer fun p _ => p : Field Tree Pointer)] key).isSome =
        isRefKey key := by
    cases key with
    | text name => by_cases h : name = "$ref" <;> simp [findField?, isRefKey, Field.of, h, eq_comm]
    | position n => cases n <;> simp [findField?, isRefKey]
    | other => rfl
  unfold reference
  rw [record_single_iff rfl]
  simp only [hkey]
  constructor
  · rintro ⟨hnamed, key, part, put, hfilter, hput, rfl⟩
    obtain ⟨found, hfound, rfl⟩ := read_eq_ok_iff.mp hput
    obtain ⟨s, rfl, hs⟩ := pointer_eq_ok_iff.mp hfound
    exact ⟨hnamed, key, s, hfilter, hs⟩
  · rintro ⟨hnamed, key, s, hfilter, hs⟩
    have hput := pointer_eq_ok_iff.mpr ⟨s, rfl, hs⟩
    exact ⟨hnamed, key, .text s, fun _ => p, hfilter, read_eq_ok_iff.mpr ⟨p, hput, rfl⟩, rfl⟩

/-- A map or an object without its `$ref`. -/
def withoutRef {ν : Type} (entries : List (Key × ν)) : List (Key × ν) :=
  entries.filter fun e => e.1 ≠ .text "$ref"

theorem record_map_withoutRef (name : String) (entries : List (Key × Tree)) :
    Node.record name (Tree.map (withoutRef entries)) =
      .ok (.named
        { namedEntries entries with parts := withoutRef (namedEntries entries).parts }) := by
  have h : namedEntries (withoutRef entries) =
      { namedEntries entries with parts := withoutRef (namedEntries entries).parts } :=
    namedEntries_filter (fun key => key ≠ .text "$ref") rfl entries
  rw [← h]
  rfl

inductive Definition : {ν α : Type} → [Node ν] → String → Decoder ν α → Prop
  | schema (height : Nat) :
      Definition "Schema" (record "Schema" (schemaFields (schemaTree height)) {})
  | parameter {ν : Type} [Node ν] : Definition "Parameter" (parameter : Decoder ν Parameter)
  | requestBody {ν : Type} [Node ν] :
      Definition "RequestBody" (requestBody : Decoder ν RequestBody)
  | response {ν : Type} [Node ν] : Definition "Response" (response : Decoder ν Response)

theorem Definition.exists_record {ν α : Type} [Node ν] {name : String} {inner : Decoder ν α}
    (h : Definition name inner) :
    ∃ fields blank, inner = record name fields blank ∧
      findField? fields (.text "$ref") = none := by
  cases h with
  | schema height => exact ⟨_, _, rfl, by simp [findField?, schemaFields, Field.of]⟩
  | parameter => exact ⟨_, _, rfl, by simp [findField?, Field.of]⟩
  | requestBody => exact ⟨_, _, rfl, by simp [findField?, Field.of]⟩
  | response => exact ⟨_, _, rfl, by simp [findField?, Field.of]⟩

theorem Definition.without_ref {ν α : Type} [Node ν] {name : String} {inner : Decoder ν α}
    (h : Definition name inner) {node other : ν} {run : Run (Key × ν)}
    (hr : Node.record name node = .ok (.named run))
    (ho : Node.record name other = .ok (.named { run with parts := withoutRef run.parts }))
    {value : α} (hv : inner node = .ok value) : inner other = .ok value := by
  obtain ⟨fields, blank, rfl, hfield⟩ := h.exists_record
  have hkeep : ∀ key : Key, decide (key ≠ .text "$ref") = false → findField? fields key = none := by
    intro key hkey
    rw [decide_eq_false_iff_not, Decidable.not_not] at hkey
    rw [hkey, hfield]
  exact record_without hkeep hr ho hv

theorem refOrTree_eq_ref_iff {α : Type} (inner : Decoder Tree α) {tree : Tree} {p : Pointer} :
    refOrTree inner tree = .ok (.ref p) ↔ reference tree = .ok p := by
  unfold refOrTree
  cases reference tree with
  | ok found => simp
  | error fault => cases inner tree <;> simp

theorem refOrTree_eq_inline_iff {α : Type} {inner : Decoder Tree α} {tree : Tree} {value : α} :
    refOrTree inner tree = .ok (.inline value) ↔
      (∀ p, reference tree ≠ .ok p) ∧ inner tree = .ok value := by
  unfold refOrTree
  cases reference tree with
  | ok found => simp
  | error fault => cases inner tree <;> simp

/-- What stands at a place for a reference or a definition. -/
theorem Definition.refOrTree_map {α : Type} {name : String} {inner : Decoder Tree α}
    (hdef : Definition name inner) {entries : List (Key × Tree)} {result : RefOr α}
    (h : refOrTree inner (.map entries) = .ok result) :
    (∀ p, result = .ref p ↔ RefersTo entries p) ∧
      ∀ value, result = .inline value ↔
        (∀ p, ¬RefersTo entries p) ∧ inner (.map (withoutRef entries)) = .ok value := by
  have hwithout {value : α} (hvalue : inner (.map entries) = .ok value) :
      inner (.map (withoutRef entries)) = .ok value :=
    hdef.without_ref rfl (record_map_withoutRef name entries) hvalue
  simp only [← reference_map_iff]
  constructor
  · intro p
    rw [← refOrTree_eq_ref_iff inner, h, Except.ok.injEq]
  · intro value
    constructor
    · rintro rfl
      obtain ⟨hno, hvalue⟩ := refOrTree_eq_inline_iff.mp h
      exact ⟨hno, hwithout hvalue⟩
    · rintro ⟨hno, hvalue⟩
      cases result with
      | ref p => exact absurd ((refOrTree_eq_ref_iff inner).mp h) (hno p)
      | inline found =>
        have hfound := hwithout (refOrTree_eq_inline_iff.mp h).2
        cases hvalue.symm.trans hfound
        rfl

/-- At a place for a reference or a definition, a map is a reference just if `RefersTo` says so.
Otherwise it is a definition, and the contract is refused unless it is one without its `$ref`. At a
place for definitions alone, a `$ref` never matters. -/
theorem decodes_ref_places {ν : Type} [Node ν] {root : ν} {doc : Document}
    (hdoc : document root = .ok doc) :
    (∀ {α : Type} {name : String} {inner : Decoder Tree α} {entries : List (Key × Tree)},
      Definition name inner →
      Relation.ReflTransGen Asks ⟨document, root⟩ ⟨refOrTree inner, Tree.map entries⟩ →
      ∃ result, refOrTree inner (.map entries) = .ok result ∧
        (∀ p, result = .ref p ↔ RefersTo entries p) ∧
        ∀ value, result = .inline value ↔
          (∀ p, ¬RefersTo entries p) ∧ inner (.map (withoutRef entries)) = .ok value) ∧
    ∀ {α : Type} {name : String} {inner : Decoder ν α} {node other : ν} {run : Run (Key × ν)},
      Definition name inner → Relation.ReflTransGen Asks ⟨document, root⟩ ⟨inner, node⟩ →
      Node.record name node = .ok (.named run) →
      Node.record name other = .ok (.named { run with parts := withoutRef run.parts }) →
      ∃ value, inner node = .ok value ∧ inner other = .ok value := by
  have hroot : Task.Succeeds ⟨document, root⟩ := ⟨doc, hdoc⟩
  constructor
  · intro α name inner entries hdef hplace
    obtain ⟨result, hresult⟩ := succeeds_of_asks hplace hroot
    exact ⟨result, hresult, hdef.refOrTree_map hresult⟩
  · intro α name inner node other run hdef hplace hr ho
    obtain ⟨value, hvalue⟩ := succeeds_of_asks hplace hroot
    exact ⟨value, hvalue, hdef.without_ref hr ho hvalue⟩

def contractOf (parts : List (Key × Tree)) : Tree :=
  .map
    [(.text "openapi", .text "3.0.0"),
     (.text "info", .map [(.text "title", .text "Pets"), (.text "version", .text "1")]),
     (.text "components", .map parts)]

theorem asks_components (parts : List (Key × Tree)) :
    Relation.ReflTransGen Asks ⟨document, contractOf parts⟩ ⟨components, Tree.map parts⟩ := by
  have hfield : Asks ⟨document, contractOf parts⟩ ⟨optional components, Tree.map parts⟩ :=
    .named rfl (.tail _ (.tail _ (.head _))) rfl
  exact .head hfield (.single (.optional rfl))

def describedPet : List (Key × Tree) :=
  [(.text "description", .text "The pet."), (.text "$ref", .text "#/components/schemas/Animal")]

def goneResponse : List (Key × Tree) :=
  [(.text "$ref", .text "#/components/responses/Lost"), (.text "description", .text "Gone")]

def petParts : List (Key × Tree) :=
  [(.text "schemas", .map [(.text "Pet", .map describedPet)]),
   (.text "responses", .map [(.text "Gone", .map goneResponse)])]

theorem pet_refers_gone_does_not :
    schemaNode (Tree.map describedPet) = .ok (.ref ⟨"/components/schemas/Animal"⟩) ∧
      ∃ value, response (Tree.map goneResponse) = .ok value ∧
        response (Tree.map [(.text "description", .text "Gone")]) = .ok value := by
  have hdoc : ∃ doc, document (contractOf petParts) = .ok doc := ⟨_, rfl⟩
  obtain ⟨doc, hdoc⟩ := hdoc
  constructor
  · have hschemas : Asks ⟨components, Tree.map petParts⟩
        ⟨map schemaNode, Tree.map [(.text "Pet", .map describedPet)]⟩ := .named rfl (.head _) rfl
    have hpet : Asks ⟨map schemaNode, Tree.map [(.text "Pet", .map describedPet)]⟩
        ⟨schemaNode, Tree.map describedPet⟩ := .entry rfl (.head _)
    have hplace := (((asks_components petParts).tail hschemas).tail hpet).tail (.wholeSchema rfl)
    have hrefers : RefersTo describedPet ⟨"/components/schemas/Animal"⟩ :=
      ⟨by simp [describedPet], .text "$ref", "#/components/schemas/Animal", rfl, rfl⟩
    obtain ⟨result, hresult, href, -⟩ := (decodes_ref_places hdoc).1 (.schema 1) hplace
    rw [(href _).mpr hrefers] at hresult
    exact hresult
  · have hresponses : Asks ⟨components, Tree.map petParts⟩
        ⟨map response, Tree.map [(.text "Gone", .map goneResponse)]⟩ :=
      .named rfl (.tail _ (.head _)) rfl
    have hgone : Asks ⟨map response, Tree.map [(.text "Gone", .map goneResponse)]⟩
        ⟨response, Tree.map goneResponse⟩ := .entry rfl (.head _)
    exact (decodes_ref_places hdoc).2 .response
      (((asks_components petParts).tail hresponses).tail hgone) rfl rfl

/-- A reference into another file is passed over where the rest is a definition. -/
theorem foreign_ref_decodes_inline :
    document (contractOf [(.text "schemas", .map [(.text "Pet", .map
        [(.text "$ref", .text "other.yaml#/Pet"), (.text "type", .text "string")])])]) =
      .ok
        { openapi := "3.0.0"
          info := { title := "Pets", version := "1" }
          components := some { schemas := [("Pet", .inline { type := some .string })] } } := by
  rfl

end ApiBindings.Contract
