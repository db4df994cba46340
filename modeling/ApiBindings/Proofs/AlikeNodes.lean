import ApiBindings.Proofs.Decoding
import ApiBindings.Proofs.Pairwise

/-!
Values of two notations that are decoded alike. Where related values answer the questions of a
decoder alike, the decoders of all parts of a contract give the same result for them, or a fault for
both.
-/
namespace ApiBindings.Decode

section Results

variable {α β γ δ : Type} {r : α → β → Prop} {s : γ → δ → Prop}

/-- Both results are values, and related, or both are faults. -/
inductive Alike (r : α → β → Prop) : Except Fault α → Except Fault β → Prop
  | ok {a : α} {b : β} (h : r a b) : Alike r (.ok a) (.ok b)
  | error (fault fault' : Fault) : Alike r (.error fault) (.error fault')

theorem Alike.bind {x : Except Fault α} {y : Except Fault β} {f : α → Except Fault γ}
    {g : β → Except Fault δ} (h : Alike r x y) (hfg : ∀ a b, r a b → Alike s (f a) (g b)) :
    Alike s (x >>= f) (y >>= g) := by
  cases h with
  | ok h => exact hfg _ _ h
  | error fault fault' => exact .error fault fault'

theorem Alike.within {x : Except Fault α} {y : Except Fault β} (h : Alike r x y)
    (step step' : Step) : Alike r (within step x) (within step' y) := by
  cases h with
  | ok h => exact .ok h
  | error fault fault' => exact .error _ _

theorem Alike.map {x y : Except Fault α} (h : Alike Eq x y) (f : α → γ) :
    Alike Eq (x.map f) (y.map f) := by
  cases h with
  | ok h => exact .ok (h ▸ rfl)
  | error fault fault' => exact .error fault fault'

theorem Alike.refl (x : Except Fault α) : Alike Eq x x := by
  cases x with
  | ok a => exact .ok rfl
  | error fault => exact .error fault fault

theorem Alike.symm {x y : Except Fault α} (h : Alike Eq x y) : Alike Eq y x := by
  cases h with
  | ok h => exact .ok h.symm
  | error fault fault' => exact .error fault' fault

theorem Alike.trans {x y z : Except Fault α} (hxy : Alike Eq x y) (hyz : Alike Eq y z) :
    Alike Eq x z := by
  cases hxy with
  | ok h => exact h ▸ hyz
  | error fault fault' =>
    cases hyz with
    | error _ fault'' => exact .error fault fault''

theorem Alike.both {x y : Except Fault α} (h : Alike Eq x y) :
    (∃ a, x = .ok a ∧ y = .ok a) ∨ ∃ fault fault', x = .error fault ∧ y = .error fault' := by
  cases h with
  | ok h => exact .inl ⟨_, rfl, h ▸ rfl⟩
  | error fault fault' => exact .inr ⟨fault, fault', rfl, rfl⟩

end Results

section Nodes

variable {ν μ α β : Type}

/-- The parts correspond, and if one run ends early both do. -/
structure Run.Alike (r : α → β → Prop) (run : Run α) (run' : Run β) : Prop where
  parts : List.Forall₂ r run.parts run'.parts
  stop : run.stop.isSome = run'.stop.isSome

theorem Run.Alike.checkRun {r : α → β → Prop} {run : Run α} {run' : Run β}
    (h : run.Alike r run') : Decode.Alike Eq (checkRun run) (checkRun run') := by
  obtain ⟨parts, stop⟩ := run
  obtain ⟨parts', stop'⟩ := run'
  have hstop := h.stop
  cases stop with
  | none =>
    cases stop' with
    | none => exact .ok rfl
    | some fault' => cases hstop
  | some fault =>
    cases stop' with
    | none => cases hstop
    | some fault' => exact .error fault fault'

def EntryAlike {κ : Type} (r : ν → μ → Prop) (e : κ × ν) (e' : κ × μ) : Prop :=
  e.1 = e'.1 ∧ r e.2 e'.2

inductive RecordForm.Alike (r : ν → μ → Prop) : RecordForm ν → RecordForm μ → Prop
  | named {run : Run (Key × ν)} {run' : Run (Key × μ)} (h : run.Alike (EntryAlike r) run') :
      Alike r (.named run) (.named run')
  | listed {run : Run ν} {run' : Run μ} {beyond beyond' : Nat → Option Fault}
      (h : run.Alike r run') (hb : ∀ n, (beyond n).isSome = (beyond' n).isSome) :
      Alike r (.listed run beyond) (.listed run' beyond')

/-- The case that a value chooses, the rest of it being in order. -/
def chosen [Node ν] (node : ν) : Except Fault Key := do
  let choice ← Node.choice node
  choice.rest
  return choice.key

/-- Related values of two notations are alike in all that a decoder can ask of them. -/
structure Bridge [Node ν] [Node μ] (r : ν → μ → Prop) : Prop where
  text {n : ν} {m : μ} (h : r n m) (expected : String) :
    Alike Eq (Node.text expected n) (Node.text expected m)
  bool {n : ν} {m : μ} (h : r n m) : Alike Eq (Node.bool n) (Node.bool m)
  isNull {n : ν} {m : μ} (h : r n m) : Alike Eq (Node.isNull n) (Node.isNull m)
  items {n : ν} {m : μ} (h : r n m) : Alike (Run.Alike r) (Node.items n) (Node.items m)
  entries {n : ν} {m : μ} (h : r n m) :
    Alike (Run.Alike (EntryAlike r)) (Node.entries n) (Node.entries m)
  record {n : ν} {m : μ} (h : r n m) (name : String) :
    Alike (RecordForm.Alike r) (Node.record name n) (Node.record name m)
  chosen {n : ν} {m : μ} (h : r n m) : Alike Eq (chosen n) (chosen m)
  skip {n : ν} {m : μ} (h : r n m) : Alike Eq (Node.skip n) (Node.skip m)
  tree {n : ν} {m : μ} (h : r n m) : Alike Eq (Node.tree n) (Node.tree m)

def Agree (r : ν → μ → Prop) (f : Decoder ν α) (g : Decoder μ α) : Prop :=
  ∀ ⦃n m⦄, r n m → Alike Eq (f n) (g m)

structure Field.Alike (r : ν → μ → Prop) (field : Field ν α) (field' : Field μ α) : Prop where
  name : field.name = field'.name
  absence : field.absence = field'.absence
  read : Agree r field.read field'.read

theorem Agree.field {r : ν → μ → Prop} {f : Decoder ν β} {g : Decoder μ β} (h : Agree r f g)
    (name : String) (absence : Absence) (store : β → α → α) :
    (Field.of name absence f store).Alike r (.of name absence g store) := by
  refine ⟨rfl, rfl, fun n m hnm => ?_⟩
  exact (h hnm).map store

theorem Agree.decodeParts {r : ν → μ → Prop} {f : Decoder ν α} {g : Decoder μ α}
    (h : Agree r f g) {parts : List ν} {parts' : List μ} (hp : List.Forall₂ r parts parts')
    (n : Nat) : Decode.Alike Eq (decodeParts f n parts) (decodeParts g n parts') := by
  induction hp generalizing n with
  | nil => exact .ok rfl
  | cons hr _ ih =>
    refine ((h hr).within _ _).bind fun value _ hvalue => ?_
    refine (ih (n + 1)).bind fun values _ hvalues => ?_
    exact .ok (hvalue ▸ hvalues ▸ rfl)

theorem Agree.decodeEntries {r : ν → μ → Prop} {f : Decoder ν α} {g : Decoder μ α}
    (h : Agree r f g) {entries : List (String × ν)} {entries' : List (String × μ)}
    (hp : List.Forall₂ (EntryAlike r) entries entries') :
    Decode.Alike Eq (decodeEntries f entries) (decodeEntries g entries') := by
  induction hp with
  | nil => exact .ok rfl
  | @cons e e' rest rest' hr _ ih =>
    obtain ⟨key, node⟩ := e
    obtain ⟨key', node'⟩ := e'
    obtain ⟨rfl, hr⟩ := hr
    refine ((h hr).within _ _).bind fun value _ hvalue => ?_
    refine ih.bind fun values _ hvalues => ?_
    exact .ok (hvalue ▸ hvalues ▸ rfl)

section Fields

variable {r : ν → μ → Prop} {fields : List (Field ν α)} {fields' : List (Field μ α)}
  (hf : List.Forall₂ (Field.Alike r) fields fields')
include hf

theorem findField?_alike (key : Key) :
    Option.Rel (Field.Alike r) (findField? fields key) (findField? fields' key) := by
  cases key with
  | text name => exact find?_rel hf fun field field' h => by rw [h.name]
  | position n => exact getElem?_rel hf n
  | other => exact .none

theorem readListed_alike {parts : List ν} {parts' : List μ} (hp : List.Forall₂ r parts parts')
    (n : Nat) (value : α) :
    Alike Eq (readListed fields n parts value) (readListed fields' n parts' value) := by
  induction hf generalizing n parts parts' value with
  | nil =>
    rw [readListed, readListed]
    · exact .ok rfl
    · simp
    · simp
  | cons hfield _ ih =>
    cases hp with
    | nil => exact .ok rfl
    | cons hnode hrest =>
      refine ((hfield.read hnode).within _ _).bind fun put _ hput => ?_
      exact hput ▸ ih hrest (n + 1) (put value)

theorem firstUnlisted?_alike (n : Nat) : firstUnlisted? fields n = firstUnlisted? fields' n := by
  induction hf generalizing n with
  | nil => rfl
  | cons hfield _ ih => rw [firstUnlisted?, firstUnlisted?, hfield.absence, ih]

variable [Node ν] [Node μ] (hr : Bridge r)
include hr

theorem readNamed_alike {entries : List (Key × ν)} {entries' : List (Key × μ)}
    (he : List.Forall₂ (EntryAlike r) entries entries') (seen : List String) (value : α) :
    Alike Eq (readNamed fields entries seen value) (readNamed fields' entries' seen value) := by
  induction he generalizing seen value with
  | nil => exact .ok rfl
  | @cons e e' rest rest' hnode _ ih =>
    obtain ⟨key, node⟩ := e
    obtain ⟨key', node'⟩ := e'
    obtain ⟨rfl, hnode⟩ := hnode
    rw [readNamed, readNamed]
    have hfound := findField?_alike hf key
    generalize findField? fields key = found at hfound ⊢
    generalize findField? fields' key = found' at hfound ⊢
    cases hfound with
    | none => exact ((hr.skip hnode).within _ _).bind fun _ _ _ => ih seen value
    | @some field field' hfield =>
      dsimp only
      rw [hfield.name]
      split
      · exact .error _ _
      · refine ((hfield.read hnode).within _ _).bind fun put _ hput => ?_
        exact hput ▸ ih (field'.name :: seen) (put value)

theorem agree_record (name : String) (blank : α) :
    Agree r (record name fields blank) (record name fields' blank) := by
  intro n m hnm
  refine (hr.record hnm name).bind fun form form' hform => ?_
  cases hform with
  | @named run run' hrun =>
    refine (readNamed_alike hf hr hrun.parts [] blank).bind fun result _ hresult => ?_
    subst hresult
    refine hrun.checkRun.bind fun _ _ _ => ?_
    have hmissing := find?_rel hf (p := fun f => f.absence = .fault && !result.1.contains f.name)
      (q := fun f => f.absence = .fault && !result.1.contains f.name)
      fun field field' h => by rw [h.absence, h.name]
    generalize fields.find? _ = missing at hmissing ⊢
    generalize fields'.find? _ = missing' at hmissing ⊢
    cases hmissing with
    | none => exact .ok rfl
    | some _ => exact .error _ _
  | @listed run run' beyond beyond' hrun hbeyond =>
    refine (readListed_alike hf hrun.parts 0 blank).bind fun value _ hvalue => ?_
    subst hvalue
    rw [hrun.parts.length_eq, hf.length_eq]
    split
    · refine hrun.checkRun.bind fun _ _ _ => ?_
      rw [firstUnlisted?_alike (List.forall₂_drop run'.parts.length hf)]
      exact .refl _
    · have hb := hbeyond fields'.length
      generalize beyond fields'.length = stop at hb ⊢
      generalize beyond' fields'.length = stop' at hb ⊢
      cases stop with
      | none =>
        cases stop' with
        | none => exact .ok rfl
        | some fault' => cases hb
      | some fault =>
        cases stop' with
        | none => cases hb
        | some fault' => exact .error fault fault'

end Fields

def caseOf (cases : List (String × α)) (other : Option α) (key : Key) : Except Fault α :=
  let found := match key with
    | .text name => cases.lookup name
    | .position n => (cases[n]?).map Prod.snd
    | .other => none
  match found, other, key with
  | some value, _, _ => .ok value
  | none, some value, .text _ => .ok value
  | none, some value, .position _ => .ok value
  | none, _, _ => .error (.here .noVariant)

/-- It does not matter for success whether a case is looked up before or after the rest of the value
has been found in order. -/
theorem oneOf_alike [Node ν] (cases : List (String × α)) (other : Option α) (node : ν) :
    Alike Eq (oneOf cases other node) (chosen node >>= caseOf cases other) := by
  unfold oneOf chosen
  cases Node.choice node with
  | error fault => exact .error fault fault
  | ok choice =>
    obtain ⟨key, rest⟩ := choice
    cases rest with
    | error fault =>
      show Alike Eq _ (Except.error fault)
      dsimp only [bind, Except.bind]
      split <;> exact .error _ _
    | ok =>
      cases key with
      | text name =>
        dsimp only [bind, Except.bind, pure, Except.pure, caseOf]
        cases cases.lookup name with
        | some value => exact .ok rfl
        | none =>
          cases other with
          | some value => exact .ok rfl
          | none => exact .error _ _
      | position n =>
        dsimp only [bind, Except.bind, pure, Except.pure, caseOf]
        cases (cases[n]?).map Prod.snd with
        | some value => exact .ok rfl
        | none =>
          cases other with
          | some value => exact .ok rfl
          | none => exact .error _ _
      | other => cases other <;> exact .error _ _

section Combinators

variable [Node ν] [Node μ] {r : ν → μ → Prop} (hr : Bridge r)
include hr

theorem agree_string : Agree r string string := fun _ _ hnm => hr.text hnm "a string"

theorem agree_optional {f : Decoder ν α} {g : Decoder μ α} (h : Agree r f g) :
    Agree r (optional f) (optional g) := by
  intro n m hnm
  refine (hr.isNull hnm).bind fun isNull _ hnull => ?_
  subst hnull
  split
  · exact .ok rfl
  · refine (h hnm).bind fun value _ hvalue => ?_
    exact .ok (hvalue ▸ rfl)

theorem agree_list {f : Decoder ν α} {g : Decoder μ α} (h : Agree r f g) :
    Agree r (list f) (list g) := by
  intro n m hnm
  refine (hr.items hnm).bind fun run run' hrun => ?_
  refine (h.decodeParts hrun.parts 0).bind fun values _ hvalues => ?_
  exact hrun.checkRun.bind fun _ _ _ => .ok hvalues

theorem agree_map {f : Decoder ν α} {g : Decoder μ α} (h : Agree r f g) :
    Agree r (map f) (map g) := by
  intro n m hnm
  refine (hr.entries hnm).bind fun run run' hrun => ?_
  refine (h.decodeEntries hrun.parts).bind fun values _ hvalues => ?_
  exact hrun.checkRun.bind fun _ _ _ => .ok (hvalues ▸ rfl)

theorem agree_oneOf (cases : List (String × α)) (other : Option α) :
    Agree r (oneOf cases other) (oneOf cases other) := by
  intro n m hnm
  refine (oneOf_alike cases other n).trans (.trans ?_ (oneOf_alike cases other m).symm)
  refine (hr.chosen hnm).bind fun key _ hkey => ?_
  exact hkey ▸ .refl _

end Combinators

end Nodes

end ApiBindings.Decode

namespace ApiBindings.Contract
open Decode

section

variable {ν μ : Type} [Node ν] [Node μ] {r : ν → μ → Prop} (hr : Bridge r)
include hr

theorem agree_refOr {α : Type} (inner : Decoder Tree α) : Agree r (refOr inner) (refOr inner) := by
  intro n m hnm
  refine (hr.tree hnm).bind fun tree _ htree => ?_
  exact htree ▸ .refl _

theorem agree_schemaNode : Agree r schemaNode schemaNode := by
  intro n m hnm
  refine (hr.tree hnm).bind fun tree _ htree => ?_
  exact htree ▸ .refl _

theorem agree_bool : Agree r Node.bool Node.bool := fun _ _ hnm => hr.bool hnm

theorem agree_location : Agree r location location := agree_oneOf hr _ _

theorem agree_parameter : Agree r parameter parameter := by
  have hstring := agree_string hr
  refine agree_record ?_ hr _ _
  simp only [List.forall₂_cons]
  exact ⟨hstring.field .., (agree_location hr).field .., (agree_bool hr).field ..,
    (agree_optional hr hstring).field .., (agree_optional hr (agree_schemaNode hr)).field .., .nil⟩

theorem agree_mediaType : Agree r mediaType mediaType := by
  refine agree_record ?_ hr _ _
  exact .cons ((agree_optional hr (agree_schemaNode hr)).field ..) .nil

theorem agree_requestBody : Agree r requestBody requestBody := by
  refine agree_record ?_ hr _ _
  simp only [List.forall₂_cons]
  exact ⟨(agree_optional hr (agree_string hr)).field .., (agree_bool hr).field ..,
    (agree_map hr (agree_mediaType hr)).field .., .nil⟩

theorem agree_response : Agree r response response := by
  refine agree_record ?_ hr _ _
  simp only [List.forall₂_cons]
  exact ⟨(agree_optional hr (agree_string hr)).field ..,
    (agree_map hr (agree_mediaType hr)).field .., .nil⟩

theorem agree_operation : Agree r operation operation := by
  have htext := agree_optional hr (agree_string hr)
  refine agree_record ?_ hr _ _
  simp only [List.forall₂_cons]
  exact ⟨htext.field .., htext.field .., htext.field ..,
    (agree_list hr (agree_refOr hr parameter)).field ..,
    (agree_optional hr (agree_refOr hr requestBody)).field ..,
    (agree_map hr (agree_refOr hr response)).field .., .nil⟩

theorem agree_pathItem : Agree r pathItem pathItem := by
  have htext := agree_optional hr (agree_string hr)
  have hop := agree_optional hr (agree_operation hr)
  refine agree_record ?_ hr _ _
  simp only [List.forall₂_cons]
  exact ⟨htext.field .., htext.field .., (agree_list hr (agree_refOr hr parameter)).field ..,
    hop.field .., hop.field .., hop.field .., hop.field .., hop.field .., hop.field ..,
    hop.field .., hop.field .., .nil⟩

theorem agree_info : Agree r info info := by
  have hstring := agree_string hr
  refine agree_record ?_ hr _ _
  simp only [List.forall₂_cons]
  exact ⟨hstring.field .., (agree_optional hr hstring).field .., hstring.field .., .nil⟩

theorem agree_components : Agree r components components := by
  refine agree_record ?_ hr _ _
  simp only [List.forall₂_cons]
  exact ⟨(agree_map hr (agree_schemaNode hr)).field .., (agree_map hr (agree_response hr)).field ..,
    (agree_map hr (agree_parameter hr)).field .., (agree_map hr (agree_requestBody hr)).field ..,
    .nil⟩

/-- A contract is decoded alike from two notations that answer alike. -/
theorem agree_document : Agree r document document := by
  refine agree_record ?_ hr _ _
  simp only [List.forall₂_cons]
  exact ⟨(agree_string hr).field .., (agree_info hr).field ..,
    (agree_map hr (agree_pathItem hr)).field ..,
    (agree_optional hr (agree_components hr)).field .., .nil⟩

end

end ApiBindings.Contract
