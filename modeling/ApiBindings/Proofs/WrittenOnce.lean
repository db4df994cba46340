import ApiBindings.Proofs.Scoping
import Mathlib.Data.List.Perm.Basic

namespace ApiBindings.Contract

/-- The nodes that the meaning of a node rests on, each as often as it stands there. -/
def reachedFrom : SchemaNode → List SchemaNode
  | .ref p => [.ref p]
  | .inline s => .inline s :: s.form.children.attach.flatMap fun c => reachedFrom c.1
termination_by node => sizeOf node
decreasing_by
  have hlt := sizeOf_lt_of_mem_children c.2
  rw [RefOr.inline.sizeOf_spec]
  omega

theorem reachedFrom_ref (p : Pointer) : reachedFrom (.ref p) = [.ref p] := by
  rw [reachedFrom]

theorem reachedFrom_inline (s : Schema) :
    reachedFrom (.inline s) = .inline s :: s.form.children.flatMap reachedFrom := by
  rw [reachedFrom]
  simp [List.flatMap_subtype]

theorem mem_reachedFrom_iff {node inner : SchemaNode} :
    inner ∈ reachedFrom node ↔ Reaches node inner := by
  constructor
  · induction node using reachedFrom.induct with
    | case1 p =>
      rw [reachedFrom_ref, List.mem_singleton]
      exact fun h => h ▸ .self _
    | case2 s ih =>
      rw [reachedFrom_inline, List.mem_cons, List.mem_flatMap]
      rintro (rfl | ⟨c, hc, h⟩)
      · exact .self _
      · exact .child hc (ih ⟨c, hc⟩ h)
  · intro h
    induction h with
    | self node =>
      cases node with
      | ref p => rw [reachedFrom_ref]; exact .head _
      | inline s => rw [reachedFrom_inline]; exact .head _
    | child hc _ ih =>
      rw [reachedFrom_inline]
      exact .tail _ (List.mem_flatMap_of_mem hc ih)

end ApiBindings.Contract

namespace ApiBindings.Model
open Contract (Schema SchemaNode reachedFrom reachedFrom_ref reachedFrom_inline)
open Resolving

variable {β : Type}

structure Enumeration where
  base : Option EnumBase
  items : List Json

mutual

/-- What is written in the body of a shape of the kind, from what is written for a property and for
an enumeration. A hoisted property has a declaration of its own, and what is inside it is written
there. -/
def Kind.written (ofProperty : String × Property → List β) (ofEnum : Enumeration → List β) :
    Kind → List β
  | .intersection members _ => writtenMembers ofProperty ofEnum members
  | .union members _ => writtenMembers ofProperty ofEnum members
  | .enum base items => ofEnum ⟨some base, items⟩
  | .object properties _ => writtenProperties ofProperty ofEnum properties
  | _ => []

def writtenMembers (ofProperty : String × Property → List β) (ofEnum : Enumeration → List β) :
    List Shape → List β
  | [] => []
  | ⟨_, _, _, kind⟩ :: rest =>
    kind.written ofProperty ofEnum ++ writtenMembers ofProperty ofEnum rest

def writtenProperties (ofProperty : String × Property → List β) (ofEnum : Enumeration → List β) :
    List (String × Property) → List β
  | [] => []
  | (key, ⟨⟨name, repeated, needed, kind⟩, description, required, many, default⟩) :: rest =>
    ofProperty (key, ⟨⟨name, repeated, needed, kind⟩, description, required, many, default⟩) ++
      (if Shape.isHoistable ⟨name, repeated, needed, kind⟩ then []
        else kind.written ofProperty ofEnum) ++
      writtenProperties ofProperty ofEnum rest

end

mutual

/-- The shapes declared with a shape, in the order of their declarations: itself and, inside its
namespace, those declared with its hoisted shapes. -/
def Shape.declared : Shape → List Shape
  | ⟨name, repeated, required, kind⟩ => ⟨name, repeated, required, kind⟩ :: kind.declaredInside

def Kind.declaredInside : Kind → List Shape
  | .intersection _ hoisted => declaredWith hoisted
  | .union _ hoisted => declaredWith hoisted
  | .object _ hoisted => declaredWith hoisted
  | _ => []

def declaredWith : List Shape → List Shape
  | [] => []
  | s :: rest => s.declared ++ declaredWith rest

end

theorem declaredWith_eq_flatMap (shapes : List Shape) :
    declaredWith shapes = shapes.flatMap Shape.declared := by
  induction shapes with
  | nil => rfl
  | cons s rest ih => rw [declaredWith, ih, List.flatMap_cons]

theorem Shape.declared_eq (s : Shape) : s.declared = s :: s.hoisted.flatMap Shape.declared := by
  obtain ⟨name, repeated, required, kind⟩ := s
  rw [Shape.declared, ← declaredWith_eq_flatMap]
  cases kind <;> rfl

section Written

variable (ofProperty : String × Property → List β) (ofEnum : Enumeration → List β)

def Shape.written (s : Shape) : List β := s.kind.written ofProperty ofEnum

end Written

end ApiBindings.Model

namespace ApiBindings.TypeScript
open Model

mutual

def Declaration.allMembers : Declaration → List Member
  | .interface _ members => membersWithin members
  | .alias _ type => type.members
  | .space _ body => exportedMembers body
  | _ => []

def exportedMembers : List Exported → List Member
  | [] => []
  | ⟨_, declaration⟩ :: rest => declaration.allMembers ++ exportedMembers rest

end

/-- The type is made up of the types of these enumerations, one after another, and of types without
literals. A relation, since one literal after another may be two enumerations or one. -/
inductive TypeExpr.Spells : TypeExpr → List Enumeration → Prop
  | enumeration (e : Enumeration) : Spells (enumType e.items) [e]
  | keyword {word : Keyword} (h : word ≠ .null) : Spells (.keyword word) []
  | named (path : List String) : Spells (.named path) []
  | array {item : TypeExpr} {es : List Enumeration} (h : item.Spells es) : Spells (.array item) es
  | parenthesized {inner : TypeExpr} {es : List Enumeration} (h : inner.Spells es) :
      Spells (.parenthesized inner) es
  | union {types : List TypeExpr} {parts : List (List Enumeration)}
      (h : List.Forall₂ TypeExpr.Spells types parts) : Spells (.union types) parts.flatten
  | intersection {types : List TypeExpr} {parts : List (List Enumeration)}
      (h : List.Forall₂ TypeExpr.Spells types parts) : Spells (.intersection types) parts.flatten
  | object {members : List Member} {parts : List (List Enumeration)}
      (h : List.Forall₂ (fun m part => TypeExpr.Spells m.type part) members parts) :
      Spells (.object members) parts.flatten

theorem TypeExpr.Spells.grouped {t : TypeExpr} {es : List Enumeration} (h : t.Spells es) :
    t.grouped.Spells es := by
  unfold TypeExpr.grouped
  split
  · exact .parenthesized h
  · exact .parenthesized h
  · exact h

theorem TypeExpr.Spells.arrayIf {t : TypeExpr} {es : List Enumeration} (h : t.Spells es)
    (repeated : Bool) : (arrayIf repeated t).Spells es := by
  unfold TypeScript.arrayIf
  split
  · exact .array h.grouped
  · exact h

/-- The same of a declaration. An enumeration may be declared, also inside a namespace. -/
inductive Declaration.Spells : Declaration → List Enumeration → Prop
  | enum (name : String) (base : EnumBase) (items : List Json) :
      Spells (enumDeclaration name base items) [⟨some base, items⟩]
  | interface {name : String} {members : List Member} {es : List Enumeration}
      (h : (TypeExpr.object members).Spells es) : Spells (.interface name members) es
  | alias {name : String} {type : TypeExpr} {es : List Enumeration} (h : type.Spells es) :
      Spells (.alias name type) es
  | space {name : String} {body : List Exported} {parts : List (List Enumeration)}
      (h : List.Forall₂ (fun e part => Declaration.Spells e.declaration part) body parts) :
      Spells (.space name body) parts.flatten

open Contract (Schema SchemaNode reachedFrom)

end ApiBindings.TypeScript
