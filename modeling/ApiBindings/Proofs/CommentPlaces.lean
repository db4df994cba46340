import ApiBindings.TypeScript.Package

/-!
Comments are printed where they belong. No two members or declarations of a module share a place, so
that looking comments up in the table prints before each of them its own comment and no other, as if
it stood in the tree. The texts of modules can therefore be put together from those of their parts.
-/
namespace ApiBindings.TypeScript

def ownComment (text : String) : String := leading (commentBody text)

namespace CommentTable

/-- The places in use keep their comments. -/
def Continues (t later : CommentTable) : Prop :=
  t.next ≤ later.next ∧ ∀ place < t.next, later.commentsAt place = t.commentsAt place

theorem Continues.refl (t : CommentTable) : t.Continues t := ⟨Nat.le_refl _, fun _ _ => rfl⟩

theorem Continues.trans {t t' t'' : CommentTable} (h : t.Continues t') (h' : t'.Continues t'') :
    t.Continues t'' := by
  refine ⟨Nat.le_trans h.1 h'.1, fun place hp => ?_⟩
  rw [h'.2 place (Nat.lt_of_lt_of_le hp h.1), h.2 place hp]

theorem commentsAt_next (t : CommentTable) : t.commentsAt t.next = [] := by
  have hnone : t.entries.filter (fun e => e.1 = t.next) = [] := by
    rw [List.filter_eq_nil_iff]
    intro e he hnext
    have hlt := t.inUse e he
    simp only [decide_eq_true_eq] at hnext
    omega
  rw [commentsAt, hnone]
  rfl

theorem commentsAt_allot (comment : Option String) (t : CommentTable) (place : Nat) :
    (allot comment t).2.commentsAt place =
      t.commentsAt place ++ if place = t.next then comment.toList.map commentBody else [] := by
  rw [commentsAt, allot, List.filter_append, List.map_append, ← commentsAt]
  congr 1
  cases comment with
  | none => simp
  | some text => by_cases hp : place = t.next <;> simp [hp, eq_comm]

theorem continues_allot (comment : Option String) (t : CommentTable) :
    t.Continues (allot comment t).2 := by
  refine ⟨Nat.le_succ t.next, fun place hp => ?_⟩
  rw [commentsAt_allot, if_neg (Nat.ne_of_lt hp), List.append_nil]

theorem leading_allot (comment : Option String) {t later : CommentTable}
    (h : (allot comment t).2.Continues later) :
    later.leading (allot comment t).1 = leadText ownComment comment := by
  have hplace : later.commentsAt t.next = comment.toList.map commentBody := by
    rw [h.2 t.next (Nat.lt_succ_self t.next), commentsAt_allot, if_pos rfl, commentsAt_next,
      List.nil_append]
  change String.join ((later.commentsAt t.next).map TypeScript.leading) = _
  rw [hplace]
  cases comment with
  | none => rfl
  | some text => simp [leadText, ownComment]

end CommentTable

namespace Placing

variable {α β : Type} {P : CommentTable → α → Prop} {Q : CommentTable → β → Prop}

/-- Only new places are taken, and what is made holds of every table that goes on from there. -/
def Ensures (m : Placing α) (P : CommentTable → α → Prop) : Prop :=
  ∀ t, t.Continues (m.run t).2 ∧ ∀ later, (m.run t).2.Continues later → P later (m.run t).1

theorem ensures_pure {a : α} (h : ∀ later, P later a) : Ensures (pure a) P :=
  fun t => ⟨.refl t, fun later _ => h later⟩

theorem Ensures.bind {m : Placing α} {f : α → Placing β} (hm : Ensures m P)
    (hf : ∀ a, Ensures (f a) fun later b => P later a → Q later b) : Ensures (m >>= f) Q := by
  intro t
  obtain ⟨hcont, hP⟩ := hm t
  obtain ⟨hcont', hQ⟩ := hf (m.run t).1 (m.run t).2
  exact ⟨hcont.trans hcont', fun later h => hQ later h (hP later (hcont'.trans h))⟩

theorem ensures_takePlace (comment : Option String) :
    Ensures (takePlace comment) fun later place =>
      later.leading place = leadText ownComment comment :=
  fun t => ⟨t.continues_allot comment, fun _ => CommentTable.leading_allot comment⟩

end Placing

open Placing

mutual

theorem TypeExpr.place_ensures : (t : TypeExpr) → Ensures t.place fun later placed =>
    ∀ level, placed.text later.leading level = t.text ownComment level
  | .keyword _ => ensures_pure fun _ _ => rfl
  | .literal _ => ensures_pure fun _ _ => rfl
  | .bool _ => ensures_pure fun _ _ => rfl
  | .named _ => ensures_pure fun _ _ => rfl
  | .generic name args => (placeTypes_ensures args).bind fun placed =>
      ensures_pure fun later h level => by rw [TypeExpr.text, TypeExpr.text, h]
  | .array item => (TypeExpr.place_ensures item).bind fun placed =>
      ensures_pure fun later h level => by rw [TypeExpr.text, TypeExpr.text, h]
  | .union members => (placeTypes_ensures members).bind fun placed =>
      ensures_pure fun later h level => by rw [TypeExpr.text, TypeExpr.text, h]
  | .intersection members => (placeTypes_ensures members).bind fun placed =>
      ensures_pure fun later h level => by rw [TypeExpr.text, TypeExpr.text, h]
  | .parenthesized inner => (TypeExpr.place_ensures inner).bind fun placed =>
      ensures_pure fun later h level => by rw [TypeExpr.text, TypeExpr.text, h]
  | .object members => (placeMembers_ensures members).bind fun placed =>
      ensures_pure fun later h level => by rw [TypeExpr.text, TypeExpr.text, h]
  | .function params result => (placeParams_ensures params).bind fun placed =>
      (TypeExpr.place_ensures result).bind fun placed' =>
      ensures_pure fun later h' h level => by rw [TypeExpr.text, TypeExpr.text, h, h']

theorem placeTypes_ensures : (types : List TypeExpr) → Ensures (placeTypes types)
    fun later placed => ∀ level,
      typeTexts later.leading level placed = typeTexts ownComment level types
  | [] => ensures_pure fun _ _ => rfl
  | t :: rest => (TypeExpr.place_ensures t).bind fun placed =>
      (placeTypes_ensures rest).bind fun placed' =>
      ensures_pure fun later h' h level => by rw [typeTexts, typeTexts, h, h']

theorem placeMembers_ensures : (members : List Member) → Ensures (placeMembers members)
    fun later placed => ∀ level,
      memberTexts later.leading level placed = memberTexts ownComment level members
  | [] => ensures_pure fun _ _ => rfl
  | ⟨comment, key, optional, type⟩ :: rest =>
      -- The places inside the type and after the member are new, and leave this one as it is.
      (ensures_takePlace comment).bind fun place =>
      (TypeExpr.place_ensures type).bind fun placed =>
      (placeMembers_ensures rest).bind fun placed' =>
      ensures_pure fun later h' h hc level => by
        rw [memberTexts, memberTexts, h, h', leadText, hc]

theorem placeParams_ensures : (params : List (String × TypeExpr)) → Ensures (placeParams params)
    fun later placed => ∀ level,
      paramTexts later.leading level placed = paramTexts ownComment level params
  | [] => ensures_pure fun _ _ => rfl
  | (name, type) :: rest => (TypeExpr.place_ensures type).bind fun placed =>
      (placeParams_ensures rest).bind fun placed' =>
      ensures_pure fun later h' h level => by rw [paramTexts, paramTexts, h, h']

end

mutual

theorem Declaration.place_ensures : (d : Declaration) → Ensures d.place fun later placed =>
    ∀ level, placed.text later.leading level = d.text ownComment level
  | .interface _ members => (placeMembers_ensures members).bind fun placed =>
      ensures_pure fun later h level => by rw [Declaration.text, Declaration.text, h]
  | .alias _ type => type.place_ensures.bind fun placed =>
      ensures_pure fun later h level => by rw [Declaration.text, Declaration.text, h]
  | .enum _ _ => ensures_pure fun _ _ => rfl
  | .space _ body => (placeExports_ensures body).bind fun placed =>
      ensures_pure fun later h level => by rw [Declaration.text, Declaration.text, h]
  | .function _ params result _ => (placeParams_ensures params).bind fun placed =>
      result.place_ensures.bind fun placed' =>
      ensures_pure fun later h' h level => by rw [Declaration.text, Declaration.text, h, h']

theorem placeExports_ensures : (exports : List Exported) → Ensures (placeExports exports)
    fun later placed => ∀ level,
      exportedTexts later.leading level placed = exportedTexts ownComment level exports
  | [] => ensures_pure fun _ _ => rfl
  | ⟨comment, declaration⟩ :: rest => (ensures_takePlace comment).bind fun place =>
      (Declaration.place_ensures declaration).bind fun placed =>
      (placeExports_ensures rest).bind fun placed' =>
      ensures_pure fun later h' h hc level => by
        rw [exportedTexts, exportedTexts, h, h', leadText, hc]

end

theorem Item.place_ensures (item : Item) : Ensures item.place fun later placed =>
    placed.text later.leading = item.text ownComment := by
  cases item with
  | importTypes names source => exact ensures_pure fun _ => rfl
  | exportAll source => exact ensures_pure fun _ => rfl
  | declared e =>
    have hexported : Ensures e.place fun later placed =>
        placed.text later.leading 0 = e.text ownComment 0 :=
      (ensures_takePlace e.comment).bind fun place => e.declaration.place_ensures.bind fun placed =>
        ensures_pure fun later h hc => by rw [Exported.text, Exported.text, h, leadText, hc]
    exact hexported.bind fun placed => ensures_pure fun later h => h

theorem placeItems_ensures (items : Module) : Ensures (placeItems items) fun later placed =>
    placed.map (Item.text later.leading) = items.map (Item.text ownComment) := by
  induction items with
  | nil => exact ensures_pure fun _ => rfl
  | cons item rest ih =>
    exact item.place_ensures.bind fun placed => ih.bind fun placed' =>
      ensures_pure fun later h' h => by rw [List.map_cons, List.map_cons, h, h']

/-- A module is printed as if its comments stood in the tree. -/
theorem Module.text_eq (items : Module) :
    Module.text items = itemLines (items.map (Item.text ownComment)) := by
  have hplaced := (placeItems_ensures items {}).2 _ (.refl _)
  exact congrArg itemLines hplaced

theorem itemLines_of_ne_nil {texts : List String} (h : texts ≠ []) :
    itemLines texts = String.join (texts.map fun text => text ++ "\n") := by
  rw [itemLines, if_neg (by simpa using h)]

theorem join_flatMap {α : Type} (f : α → List String) (as : List α) :
    String.join (as.flatMap f) = String.join (as.map fun a => String.join (f a)) := by
  induction as with
  | nil => rfl
  | cons a rest ih =>
    rw [List.flatMap_cons, String.join_append, ih, List.map_cons, String.join_cons]

section Schemas
open Model (Shape Api)

theorem schemasModule_ne_nil {shapes : List Shape} (h : shapes ≠ []) :
    schemasModule shapes ≠ [] := by
  obtain ⟨s, rest, rfl⟩ := List.exists_cons_of_ne_nil h
  obtain ⟨name, repeated, required, kind⟩ := s
  rw [schemasModule, List.flatMap_cons, declarations]
  exact List.cons_ne_nil _ _

/-- The lines of a shape, each comment taken from where it stands in the tree. -/
def commentedLines (s : Shape) : String :=
  String.join ((declarations s).map fun e => (Item.declared e).text ownComment ++ "\n")

theorem text_schemasModule {shapes : List Shape} (h : shapes ≠ []) :
    (schemasModule shapes).text = String.join (shapes.map commentedLines) := by
  have hne : (schemasModule shapes).map (Item.text ownComment) ≠ [] := by
    simpa using schemasModule_ne_nil h
  rw [Module.text_eq, itemLines_of_ne_nil hne, schemasModule]
  simp only [List.map_map, List.map_flatMap, join_flatMap]
  rfl

theorem declarationTexts_eq (api : Api) :
    declarationTexts api = api.schemas.map fun s => (s.name, commentedLines s) := by
  refine List.map_congr_left fun s _ => ?_
  rw [text_schemasModule (List.cons_ne_nil s []), List.map_singleton, String.join_cons,
    String.join_nil, String.append_empty]

/-- Printing all schemas in one module, with one table of comments, gives the same text as printing
each of them in a module and with a table of its own. Both ways each comment stands before what it
belongs to. -/
theorem schemas_text_eq_join_declarations (api : Api) (client : Bool) (h : api.schemas ≠ []) :
    (files api client).lookup "schemas.ts" =
        some (String.join ((declarationTexts api).map Prod.snd)) ∧
      declarationTexts api = api.schemas.map fun s => (s.name, commentedLines s) := by
  have hfile : (files api client).lookup "schemas.ts" = some (schemasModule api.schemas).text := rfl
  refine ⟨?_, declarationTexts_eq api⟩
  rw [hfile, text_schemasModule h, declarationTexts_eq, List.map_map]
  rfl

def crateSize : Shape where
  name := "Size"
  kind := .object
    [("width", ⟨{ name := "width", kind := .numeric }, some "In metres.", true, false, none⟩)] []

def crate : Shape where
  name := "Crate"
  kind := .object
    [("label", ⟨{ name := "label", kind := .string }, some "Its label.", true, false, none⟩),
      ("size", ⟨crateSize, none, false, false, none⟩)] [crateSize]

def tag : Shape where
  name := "Tag"
  kind := .union
    [⟨"Tag", false, false, .string⟩, ⟨"Tag", false, false, .object
      [("text", ⟨{ name := "text", kind := .string }, some "Never empty.", true, false, none⟩)] []⟩]
    []

def depot : Api where
  title := "Depot"
  version := "1"
  schemas := [crate, tag]
  operations := []

theorem depot_text_eq_join_declarations :
    depot.schemas ≠ [] ∧
      (files depot true).lookup "schemas.ts" =
        some (String.join ((declarationTexts depot).map Prod.snd)) ∧
      String.join ((declarationTexts depot).map Prod.snd) =
        "export interface Crate \x7b\n  /** Its label. */ label: string;\n"
          ++ "  size?: Crate.Size;\n\x7d\n"
          ++ "export namespace Crate \x7b\n"
          ++ "  export interface Size \x7b\n    /** In metres. */ width: number;\n  \x7d\n\x7d\n"
          ++ "export type Tag = string | \x7b\n  /** Never empty. */ text: string;\n\x7d;\n" :=
  have hne : depot.schemas ≠ [] := List.cons_ne_nil _ _
  ⟨hne, (schemas_text_eq_join_declarations depot true hne).1, by decide +kernel⟩

end Schemas

end ApiBindings.TypeScript
