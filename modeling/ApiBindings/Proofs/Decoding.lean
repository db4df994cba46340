import ApiBindings.Contract.Decode
import Mathlib.Logic.Relation

namespace ApiBindings.Decode

theorem bind_eq_ok_iff {ε α β : Type} {x : Except ε α} {f : α → Except ε β} {b : β} :
    x >>= f = .ok b ↔ ∃ a, x = .ok a ∧ f a = .ok b := by
  cases x with
  | error e => simp [bind, Except.bind]
  | ok a => simp [bind, Except.bind]

theorem within_eq_ok_iff {α : Type} {step : Step} {x : Except Fault α} {a : α} :
    within step x = .ok a ↔ x = .ok a := by
  cases x with
  | error e => constructor <;> (intro h; cases h)
  | ok b => exact Iff.rfl

theorem checkRun_eq_ok_iff {α : Type} {run : Run α} : checkRun run = .ok () ↔ run.stop = none := by
  unfold checkRun
  cases run.stop with
  | none => simp
  | some fault => simp

structure Task where
  {ν : Type}
  {α : Type}
  decode : Decoder ν α
  node : ν

def Task.Succeeds (t : Task) : Prop := ∃ value, t.decode t.node = .ok value

section Parts

variable {ν α β : Type}

theorem succeeds_of_decodeParts {inner : Decoder ν α} {n : Nat} {parts : List ν}
    {values : List α} (h : decodeParts inner n parts = .ok values) {node : ν} (hm : node ∈ parts) :
    Task.Succeeds ⟨inner, node⟩ := by
  induction parts generalizing n values with
  | nil => cases hm
  | cons first rest ih =>
    obtain ⟨value, hvalue, h⟩ := bind_eq_ok_iff.mp h
    obtain ⟨others, hothers, -⟩ := bind_eq_ok_iff.mp h
    cases hm with
    | head => exact ⟨value, within_eq_ok_iff.mp hvalue⟩
    | tail _ hm => exact ih hothers hm

theorem succeeds_of_decodeEntries {inner : Decoder ν α} {entries : List (String × ν)}
    {values : List (String × α)} (h : decodeEntries inner entries = .ok values) {key : String}
    {node : ν} (hm : (key, node) ∈ entries) : Task.Succeeds ⟨inner, node⟩ := by
  induction entries generalizing values with
  | nil => cases hm
  | cons first rest ih =>
    obtain ⟨value, hvalue, h⟩ := bind_eq_ok_iff.mp h
    obtain ⟨others, hothers, -⟩ := bind_eq_ok_iff.mp h
    cases hm with
    | head => exact ⟨value, within_eq_ok_iff.mp hvalue⟩
    | tail _ hm => exact ih hothers hm

theorem read_eq_ok_iff {name : String} {absence : Absence} {inner : Decoder ν β}
    {store : β → α → α} {node : ν} {put : α → α} :
    (Field.of name absence inner store).read node = .ok put ↔
      ∃ value, inner node = .ok value ∧ store value = put := by
  unfold Field.of
  dsimp only
  cases inner node with
  | error fault => simp [Except.map]
  | ok value => simp [Except.map]

theorem mem_of_readNamed [Node ν] {fields : List (Field ν α)} {entries : List (Key × ν)}
    {seen : List String} {value : α} {result : List String × α}
    (h : readNamed fields entries seen value = .ok result) {key : Key} {node : ν}
    (hm : (key, node) ∈ entries) :
    (∀ field, findField? fields key = some field → ∃ put, field.read node = .ok put) ∧
      (findField? fields key = none → Node.skip node = .ok ()) := by
  induction entries generalizing seen value with
  | nil => cases hm
  | cons first rest ih =>
    obtain ⟨k, first⟩ := first
    rw [readNamed] at h
    cases hk : findField? fields k with
    | none =>
      rw [hk] at h
      obtain ⟨_, hskip, h⟩ := bind_eq_ok_iff.mp h
      cases hm with
      | head => exact ⟨fun _ hf => (nomatch hk.symm.trans hf), fun _ => within_eq_ok_iff.mp hskip⟩
      | tail _ hm => exact ih h hm
    | some found =>
      rw [hk] at h
      dsimp only at h
      split at h
      · cases h
      · obtain ⟨put, hput, h⟩ := bind_eq_ok_iff.mp h
        cases hm with
        | head =>
          refine ⟨fun field hf => ?_, fun hf => (nomatch hk.symm.trans hf)⟩
          cases hk.symm.trans hf
          exact ⟨put, within_eq_ok_iff.mp hput⟩
        | tail _ hm => exact ih h hm

theorem read_of_readListed {fields : List (Field ν α)} {n : Nat} {parts : List ν}
    {value result : α} (h : readListed fields n parts value = .ok result) {place : Nat} {node : ν}
    (hn : parts[place]? = some node) {field : Field ν α} (hf : fields[place]? = some field) :
    ∃ put, field.read node = .ok put := by
  induction fields generalizing n parts value place with
  | nil => simp at hf
  | cons first rest ih =>
    cases parts with
    | nil => simp at hn
    | cons part parts =>
      obtain ⟨put, hput, h⟩ := bind_eq_ok_iff.mp h
      cases place with
      | zero =>
        cases hn
        cases hf
        exact ⟨put, within_eq_ok_iff.mp hput⟩
      | succ place => exact ih h (by simpa using hn) (by simpa using hf)

theorem record_eq_of_named [Node ν] {name : String} {fields : List (Field ν α)} {blank : α}
    {node : ν} {run : Run (Key × ν)} (hr : Node.record name node = .ok (.named run)) :
    record name fields blank node = (do
      let (seen, value) ← readNamed fields run.parts [] blank
      checkRun run
      match fields.find? fun f => f.absence = .fault && !seen.contains f.name with
      | some field => .error (.here (.missingField field.name))
      | none => return value) := by
  unfold record
  rw [hr]
  rfl

theorem record_named [Node ν] {name : String} {fields : List (Field ν α)} {blank value : α}
    {node : ν} {run : Run (Key × ν)} (hr : Node.record name node = .ok (.named run))
    (h : record name fields blank node = .ok value) :
    ∃ seen, readNamed fields run.parts [] blank = .ok (seen, value) := by
  rw [record_eq_of_named hr] at h
  obtain ⟨⟨seen, result⟩, hread, h⟩ := bind_eq_ok_iff.mp h
  obtain ⟨_, -, h⟩ := bind_eq_ok_iff.mp h
  split at h
  · cases h
  · cases h
    exact ⟨seen, hread⟩

theorem record_listed [Node ν] {name : String} {fields : List (Field ν α)} {blank value : α}
    {node : ν} {run : Run ν} {beyond : Nat → Option Fault}
    (hr : Node.record name node = .ok (.listed run beyond))
    (h : record name fields blank node = .ok value) :
    readListed fields 0 run.parts blank = .ok value := by
  obtain ⟨form, hform, h⟩ := bind_eq_ok_iff.mp h
  cases hr.symm.trans hform
  obtain ⟨result, hread, h⟩ := bind_eq_ok_iff.mp h
  have hvalue : result = value := by
    split at h
    · obtain ⟨_, -, h⟩ := bind_eq_ok_iff.mp h
      split at h <;> cases h
      rfl
    · split at h <;> cases h
      rfl
  exact hvalue ▸ hread

theorem mem_of_findField? {fields : List (Field ν α)} {key : Key} {field : Field ν α}
    (h : findField? fields key = some field) : field ∈ fields := by
  unfold findField? at h
  cases key with
  | text name => exact List.mem_of_find?_eq_some h
  | position n => exact List.mem_of_getElem? h
  | other => cases h

section Invariant

variable {P : α → Prop} {fields : List (Field ν α)}
  (hput : ∀ field ∈ fields, ∀ node put, field.read node = .ok put →
    ∀ value, P value → P (put value))
include hput

theorem readNamed_invariant [Node ν] {entries : List (Key × ν)} {seen : List String} {value : α}
    {result : List String × α} (h : readNamed fields entries seen value = .ok result)
    (hvalue : P value) : P result.2 := by
  induction entries generalizing seen value with
  | nil =>
    cases h
    exact hvalue
  | cons first rest ih =>
    obtain ⟨key, node⟩ := first
    rw [readNamed] at h
    cases hk : findField? fields key with
    | none =>
      rw [hk] at h
      obtain ⟨_, -, h⟩ := bind_eq_ok_iff.mp h
      exact ih h hvalue
    | some field =>
      rw [hk] at h
      dsimp only at h
      split at h
      · cases h
      · obtain ⟨put, hread, h⟩ := bind_eq_ok_iff.mp h
        apply ih h
        exact hput field (mem_of_findField? hk) node put (within_eq_ok_iff.mp hread) value hvalue

theorem readListed_invariant {n : Nat} {parts : List ν} {value result : α}
    (h : readListed fields n parts value = .ok result) (hvalue : P value) : P result := by
  induction fields generalizing n parts value with
  | nil =>
    rw [readListed] at h
    · cases h
      exact hvalue
    · simp
  | cons field fields ih =>
    rw [List.forall_mem_cons] at hput
    cases parts with
    | nil =>
      cases h
      exact hvalue
    | cons node parts =>
      obtain ⟨put, hread, h⟩ := bind_eq_ok_iff.mp h
      exact ih hput.2 h (hput.1 node put (within_eq_ok_iff.mp hread) value hvalue)

/-- A property of the blank value that reading a field keeps is one of the record. -/
theorem record_invariant [Node ν] {name : String} {blank value : α} {node : ν} (hblank : P blank)
    (h : record name fields blank node = .ok value) : P value := by
  obtain ⟨form, hform, -⟩ := bind_eq_ok_iff.mp h
  cases form with
  | named run =>
    obtain ⟨seen, hread⟩ := record_named hform h
    exact readNamed_invariant hput hread hblank
  | listed run beyond => exact readListed_invariant hput (record_listed hform h) hblank

end Invariant

end Parts

end ApiBindings.Decode

namespace ApiBindings.Contract
open Decode

/-- A decoder asks for a part of its value to be decoded. A whole tree is asked for as a definition
only if it is no reference. -/
inductive Asks : Task → Task → Prop
  | optional {ν α : Type} [Node ν] {inner : Decoder ν α} {node : ν}
      (h : Node.isNull node = .ok false) : Asks ⟨Decode.optional inner, node⟩ ⟨inner, node⟩
  | item {ν α : Type} [Node ν] {inner : Decoder ν α} {node part : ν} {run : Run ν}
      (h : Node.items node = .ok run) (hm : part ∈ run.parts) :
      Asks ⟨list inner, node⟩ ⟨inner, part⟩
  | entry {ν α : Type} [Node ν] {inner : Decoder ν α} {node part : ν} {key : String}
      {run : Run (String × ν)} (h : Node.entries node = .ok run) (hm : (key, part) ∈ run.parts) :
      Asks ⟨map inner, node⟩ ⟨inner, part⟩
  | named {ν α β : Type} [Node ν] {name field : String} {fields : List (Field ν α)} {blank : α}
      {node part : ν} {run : Run (Key × ν)} {key : Key} {absence : Absence} {inner : Decoder ν β}
      {store : β → α → α} (h : Node.record name node = .ok (.named run))
      (hm : (key, part) ∈ run.parts)
      (hf : findField? fields key = some (.of field absence inner store)) :
      Asks ⟨record name fields blank, node⟩ ⟨inner, part⟩
  | listed {ν α β : Type} [Node ν] {name field : String} {fields : List (Field ν α)} {blank : α}
      {node part : ν} {run : Run ν} {beyond : Nat → Option Fault} {place : Nat} {absence : Absence}
      {inner : Decoder ν β} {store : β → α → α}
      (h : Node.record name node = .ok (.listed run beyond)) (hn : run.parts[place]? = some part)
      (hf : fields[place]? = some (.of field absence inner store)) :
      Asks ⟨record name fields blank, node⟩ ⟨inner, part⟩
  | whole {ν α : Type} [Node ν] {inner : Decoder Tree α} {node : ν} {tree : Tree}
      (h : Node.tree node = .ok tree) : Asks ⟨refOr inner, node⟩ ⟨refOrTree inner, tree⟩
  | wholeSchema {ν : Type} [Node ν] {node : ν} {tree : Tree} (h : Node.tree node = .ok tree) :
      Asks ⟨schemaNode, node⟩ ⟨schemaTree (tree.height + 1), tree⟩
  | definition {α : Type} {inner : Decoder Tree α} {tree : Tree} {fault : Fault}
      (h : reference tree = .error fault) : Asks ⟨refOrTree inner, tree⟩ ⟨inner, tree⟩

theorem Asks.succeeds {t part : Task} (h : Asks t part) (ht : t.Succeeds) : part.Succeeds := by
  obtain ⟨value, hv⟩ := ht
  cases h with
  | optional h =>
    obtain ⟨isNull, hn, hv⟩ := bind_eq_ok_iff.mp hv
    cases h.symm.trans hn
    obtain ⟨inside, hi, -⟩ := bind_eq_ok_iff.mp hv
    exact ⟨inside, hi⟩
  | item h hm =>
    obtain ⟨run, hr, hv⟩ := bind_eq_ok_iff.mp hv
    cases h.symm.trans hr
    obtain ⟨values, hd, -⟩ := bind_eq_ok_iff.mp hv
    exact succeeds_of_decodeParts hd hm
  | entry h hm =>
    obtain ⟨run, hr, hv⟩ := bind_eq_ok_iff.mp hv
    cases h.symm.trans hr
    obtain ⟨values, hd, -⟩ := bind_eq_ok_iff.mp hv
    exact succeeds_of_decodeEntries hd hm
  | named h hm hf =>
    obtain ⟨seen, hread⟩ := record_named h hv
    obtain ⟨put, hput⟩ := (mem_of_readNamed hread hm).1 _ hf
    obtain ⟨inside, hi, -⟩ := read_eq_ok_iff.mp hput
    exact ⟨inside, hi⟩
  | listed h hn hf =>
    obtain ⟨put, hput⟩ := read_of_readListed (record_listed h hv) hn hf
    obtain ⟨inside, hi, -⟩ := read_eq_ok_iff.mp hput
    exact ⟨inside, hi⟩
  | whole h =>
    obtain ⟨tree, ht, hv⟩ := bind_eq_ok_iff.mp hv
    cases h.symm.trans ht
    exact ⟨value, hv⟩
  | wholeSchema h =>
    obtain ⟨tree, ht, hv⟩ := bind_eq_ok_iff.mp hv
    cases h.symm.trans ht
    exact ⟨value, hv⟩
  | definition h =>
    simp only [refOrTree, h] at hv
    split at hv
    · next inside hi => exact ⟨inside, hi⟩
    · cases hv

/-- All that decoding comes to ask for succeeds if the whole does. -/
theorem succeeds_of_asks {t part : Task} (h : Relation.ReflTransGen Asks t part)
    (ht : t.Succeeds) : part.Succeeds := by
  induction h with
  | refl => exact ht
  | tail _ hstep ih => exact hstep.succeeds ih

end ApiBindings.Contract
