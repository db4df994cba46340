import ApiBindings.Proofs.Scoping
import ApiBindings.Proofs.TypeLexemes

namespace ApiBindings.TypeScript

namespace TypeExpr

mutual

/-- The type without parentheses and comments. A union directly inside a union is a part of it. -/
def tree : TypeExpr → TypeTree
  | .keyword word => .keyword word
  | .literal (.string value) => .string value
  | .literal (.number value) => .number value.chars
  | .bool value => .bool value
  | .named path => .named path
  | .generic name args => .generic name (trees args)
  | .array item => .array (tree item)
  | .union members => .union (alternativeTrees members)
  | .intersection members => .intersection (trees members)
  | .parenthesized inner => tree inner
  | .object members => .object (fieldTrees members)
  | .function params result => .function (paramTrees params) (tree result)

def trees : List TypeExpr → List TypeTree
  | [] => []
  | t :: rest => tree t :: trees rest

def alternativeTrees : List TypeExpr → List TypeTree
  | [] => []
  | .union inner :: rest => alternativeTrees inner ++ alternativeTrees rest
  | t :: rest => tree t :: alternativeTrees rest

def fieldTrees : List Member → List (String × Bool × TypeTree)
  | [] => []
  | ⟨_, key, optional, type⟩ :: rest => (key, optional, tree type) :: fieldTrees rest

def paramTrees : List (String × TypeExpr) → List (String × TypeTree)
  | [] => []
  | (name, type) :: rest => (name, tree type) :: paramTrees rest

end

def isComposite : TypeExpr → Bool
  | .union _ | .intersection _ => true
  | _ => false

/-- The type holds its parts together: what binds tighter has no union and no intersection directly
inside. Type arguments and functions, whose insides are not looked at, are not allowed. -/
def KeepsGroups : TypeExpr → Prop
  | .array item => item.isComposite = false
  | .union members => 2 ≤ members.length
  | .intersection members => 2 ≤ members.length ∧ ∀ m ∈ members, m.isComposite = false
  | .generic _ _ | .function _ _ => False
  | _ => True

/-- A name is read as the name of a declared type. -/
def KeepsName : TypeExpr → Prop
  | .named path => isReference path = true
  | _ => True

/-- The property holds of the type and of every type inside of it. -/
def Everywhere (P : TypeExpr → Prop) (t : TypeExpr) : Prop := ∀ u : TypeExpr, u.Within t → P u

def Grouped (t : TypeExpr) : Prop := t.Everywhere KeepsGroups

def OnlyRefers (t : TypeExpr) : Prop := t.Everywhere KeepsName

section Everywhere

variable {P : TypeExpr → Prop}

@[simp]
theorem everywhere_keyword {word : Keyword} :
    (TypeExpr.keyword word).Everywhere P ↔ P (.keyword word) :=
  ⟨fun h => h _ .self, by rintro h u ⟨⟩; exact h⟩

@[simp]
theorem everywhere_literal {value : Literal} :
    (TypeExpr.literal value).Everywhere P ↔ P (.literal value) :=
  ⟨fun h => h _ .self, by rintro h u ⟨⟩; exact h⟩

@[simp]
theorem everywhere_bool {value : Bool} : (TypeExpr.bool value).Everywhere P ↔ P (.bool value) :=
  ⟨fun h => h _ .self, by rintro h u ⟨⟩; exact h⟩

@[simp]
theorem everywhere_named {path : List String} :
    (TypeExpr.named path).Everywhere P ↔ P (.named path) :=
  ⟨fun h => h _ .self, by rintro h u ⟨⟩; exact h⟩

@[simp]
theorem everywhere_array {item : TypeExpr} :
    (TypeExpr.array item).Everywhere P ↔ P (.array item) ∧ item.Everywhere P := by
  constructor
  · exact fun h => ⟨h _ .self, fun u hu => h u (.array hu)⟩
  · rintro ⟨hself, h⟩ u ⟨⟩
    · exact hself
    · next hu => exact h u hu

@[simp]
theorem everywhere_union {types : List TypeExpr} :
    (TypeExpr.union types).Everywhere P ↔ P (.union types) ∧ ∀ t ∈ types, t.Everywhere P := by
  constructor
  · exact fun h => ⟨h _ .self, fun t ht u hu => h u (.union ht hu)⟩
  · rintro ⟨hself, h⟩ u ⟨⟩
    · exact hself
    · next t hu ht => exact h t ht u hu

@[simp]
theorem everywhere_intersection {types : List TypeExpr} :
    (TypeExpr.intersection types).Everywhere P ↔
      P (.intersection types) ∧ ∀ t ∈ types, t.Everywhere P := by
  constructor
  · exact fun h => ⟨h _ .self, fun t ht u hu => h u (.intersection ht hu)⟩
  · rintro ⟨hself, h⟩ u ⟨⟩
    · exact hself
    · next t hu ht => exact h t ht u hu

@[simp]
theorem everywhere_parenthesized {inner : TypeExpr} :
    (TypeExpr.parenthesized inner).Everywhere P ↔
      P (.parenthesized inner) ∧ inner.Everywhere P := by
  constructor
  · exact fun h => ⟨h _ .self, fun u hu => h u (.parenthesized hu)⟩
  · rintro ⟨hself, h⟩ u ⟨⟩
    · exact hself
    · next hu => exact h u hu

@[simp]
theorem everywhere_object {members : List Member} :
    (TypeExpr.object members).Everywhere P ↔
      P (.object members) ∧ ∀ m ∈ members, m.type.Everywhere P := by
  constructor
  · exact fun h => ⟨h _ .self, fun m hm u hu => h u (.object hm hu)⟩
  · rintro ⟨hself, h⟩ u ⟨⟩
    · exact hself
    · next m hu hm => exact h m hm u hu

end Everywhere

theorem trees_eq_map (ts : List TypeExpr) : trees ts = ts.map tree := by
  induction ts with
  | nil => rfl
  | cons t ts ih => rw [trees, ih, List.map_cons]

theorem fieldTrees_eq_map (members : List Member) :
    fieldTrees members = members.map fun m => (m.key, m.optional, m.type.tree) := by
  induction members with
  | nil => rfl
  | cons m members ih =>
    obtain ⟨comment, key, optional, type⟩ := m
    rw [fieldTrees, ih, List.map_cons]

theorem alternativeTrees_cons (t : TypeExpr) (ts : List TypeExpr) :
    alternativeTrees (t :: ts) = alternativeTrees [t] ++ alternativeTrees ts := by
  cases t <;> simp [alternativeTrees]

theorem alternativeTrees_singleton {t : TypeExpr} (h : ∀ members, t ≠ .union members) :
    alternativeTrees [t] = [t.tree] := by
  cases t with
  | union members => exact absurd rfl (h members)
  | _ => rfl

theorem alternativeTrees_eq_flatMap (ts : List TypeExpr) :
    alternativeTrees ts = ts.flatMap fun t => alternativeTrees [t] := by
  induction ts with
  | nil => rfl
  | cons t ts ih => rw [alternativeTrees_cons, ih, List.flatMap_cons]

theorem alternativeTrees_union (members : List TypeExpr) :
    alternativeTrees [.union members] = alternativeTrees members := by
  rw [alternativeTrees, alternativeTrees, List.append_nil]

end TypeExpr

section Reading

/-- The text is read as one operand, whatever is around it. -/
def ReadsOperand (cs : List Char) (t : TypeTree) : Prop :=
  ∀ around alternatives factors rest, Delimited rest →
    readFrom (.type around ⟨alternatives, factors, none⟩) (cs ++ rest) =
      readFrom (.type around ⟨alternatives, factors, some t⟩) rest

def ReadsFactors (cs : List Char) (ts : List TypeTree) : Prop :=
  ∀ around alternatives before rest, Delimited rest → ∃ (factors : List TypeTree) (last : TypeTree),
    factors ++ [last] = before ++ ts ∧
      readFrom (.type around ⟨alternatives, before, none⟩) (cs ++ rest) =
        readFrom (.type around ⟨alternatives, factors, some last⟩) rest

def ReadsAlternatives (cs : List Char) (ts : List TypeTree) : Prop :=
  ∀ around before rest, Delimited rest → ∃ (level : Level) (last : TypeTree),
    level.product? = some last ∧ level.alternatives ++ [last] = before ++ ts ∧
      readFrom (.type around { alternatives := before }) (cs ++ rest) =
        readFrom (.type around level) rest

def ReadsFields (cs : List Char) (fields : List (String × Bool × TypeTree)) : Prop :=
  ∀ around level before rest, readFrom (.fields around level before) (cs ++ rest) =
    readFrom (.fields around level (before ++ fields)) rest

theorem readsOperand_word {path : List String} {t : TypeTree} (hne : path ≠ [])
    (h : ∀ part ∈ path, Text.isIdentifier part = true) (ht : wordTree? path = some t) :
    ReadsOperand (".".intercalate path).toList t := by
  intro around alternatives factors rest hrest
  rw [readFrom_word hne h _ hrest, step, ht]
  rfl

theorem readsOperand_named {path : List String} (h : isReference path = true) :
    ReadsOperand (".".intercalate path).toList (.named path) := by
  have hparts : ∀ part ∈ path, Text.isIdentifier part = true :=
    List.all_eq_true.mp (Bool.and_eq_true_iff.mp h).1
  refine readsOperand_word ?_ hparts (if_pos h)
  rintro rfl
  cases h

theorem readsOperand_predefined {word : String} {t : TypeTree}
    (h : Text.isIdentifier word = true) (ht : wordTree? [word] = some t) :
    ReadsOperand word.toList t := by
  have hword := readsOperand_word (List.cons_ne_nil word []) (by simpa using h) ht
  rwa [String.intercalate_singleton] at hword

theorem readsOperand_keyword (word : Keyword) : ReadsOperand word.text.toList (.keyword word) := by
  cases word <;> exact readsOperand_predefined (by decide) rfl

theorem readsOperand_bool (value : Bool) :
    ReadsOperand (if value then "true" else "false").toList (.bool value) := by
  cases value <;> exact readsOperand_predefined (by decide) rfl

theorem readsOperand_string (value : String) :
    ReadsOperand (stringLiteral value).toList (.string value) := by
  intro around alternatives factors rest _
  rw [readFrom_stringLiteral]
  rfl

theorem readsOperand_number (value : Numeral) :
    ReadsOperand value.chars (.number value.chars) := by
  intro around alternatives factors rest hrest
  rw [readFrom_number value _ hrest]
  rfl

theorem ReadsOperand.array {cs : List Char} {t : TypeTree} (h : ReadsOperand cs t) :
    ReadsOperand (cs ++ ['[', ']']) (.array t) := by
  intro around alternatives factors rest _
  calc
    _ = readFrom (.type around ⟨alternatives, factors, none⟩) (cs ++ '[' :: ']' :: rest) := by
      rw [List.append_assoc, List.cons_append, List.singleton_append]
    _ = readFrom (.type around ⟨alternatives, factors, some t⟩) ('[' :: ']' :: rest) :=
      h _ _ _ _ (delimited_cons rfl _)
    _ = readFrom (.brackets around ⟨alternatives, factors, some t⟩) (']' :: rest) :=
      readFrom_mark rfl _ _
    _ = readFrom (.type around ⟨alternatives, factors, some (.array t)⟩) rest :=
      readFrom_mark rfl _ _

theorem ReadsOperand.factors {cs : List Char} {t : TypeTree} (h : ReadsOperand cs t) :
    ReadsFactors cs [t] := fun around alternatives before rest hrest =>
  ⟨before, t, rfl, h around alternatives before rest hrest⟩

theorem ReadsFactors.ampersand {cs ds : List Char} {ts us : List TypeTree}
    (hc : ReadsFactors cs ts) (hd : ReadsFactors ds us) :
    ReadsFactors (cs ++ " & ".toList ++ ds) (ts ++ us) := by
  intro around alternatives before rest hrest
  obtain ⟨factors, last, hlast, hread⟩ :=
    hc around alternatives before (' ' :: '&' :: ' ' :: (ds ++ rest)) (delimited_cons rfl _)
  obtain ⟨factors', last', hlast', hread'⟩ := hd around alternatives (before ++ ts) rest hrest
  refine ⟨factors', last', by rw [hlast', List.append_assoc], ?_⟩
  rw [List.append_assoc, List.append_assoc]
  refine hread.trans ?_
  rw [readFrom_blank, readFrom_mark rfl, ← hread', ← hlast]
  exact readFrom_blank _ _

theorem ReadsFactors.alternatives {cs : List Char} {ts : List TypeTree} (h : ReadsFactors cs ts) :
    ReadsAlternatives cs [joined .intersection ts] := by
  intro around before rest hrest
  obtain ⟨factors, last, hlast, hread⟩ := h around before [] rest hrest
  refine ⟨⟨before, factors, some last⟩, joined .intersection ts, ?_, rfl, hread⟩
  rw [Level.product?, Option.map_some, hlast, List.nil_append]

theorem ReadsAlternatives.bar {cs ds : List Char} {ts us : List TypeTree}
    (hc : ReadsAlternatives cs ts) (hd : ReadsAlternatives ds us) :
    ReadsAlternatives (cs ++ " | ".toList ++ ds) (ts ++ us) := by
  intro around before rest hrest
  obtain ⟨level, last, hlast, hlevel, hread⟩ :=
    hc around before (' ' :: '|' :: ' ' :: (ds ++ rest)) (delimited_cons rfl _)
  -- The bar ends the last type of the first text, so that the second one finds them all before it.
  obtain ⟨level', last', hlast', hlevel', hread'⟩ := hd around (before ++ ts) rest hrest
  refine ⟨level', last', hlast', by rw [hlevel', List.append_assoc], ?_⟩
  rw [List.append_assoc, List.append_assoc]
  refine hread.trans ?_
  rw [readFrom_blank, readFrom_mark rfl, step, hlast, ← hread', ← hlevel]
  exact readFrom_blank _ _

/-- What holds of parts, and goes over to two texts with a separator between them, holds of all the
parts together. -/
theorem intercalate_reads {Reads : List Char → List TypeTree → Prop} {separator : List Char}
    (hsep : ∀ {cs ds ts us}, Reads cs ts → Reads ds us → Reads (cs ++ separator ++ ds) (ts ++ us))
    {α : Type} {chars : α → List Char} {parts : α → List TypeTree} {as : List α} (hne : as ≠ [])
    (h : ∀ a ∈ as, Reads (chars a) (parts a)) :
    Reads (separator.intercalate (as.map chars)) (as.flatMap parts) := by
  induction as with
  | nil => exact absurd rfl hne
  | cons a as ih =>
    have ha := h a (.head _)
    cases as with
    | nil => simpa using ha
    | cons b as =>
      have has := ih (List.cons_ne_nil b as) fun c hc => h c (.tail _ hc)
      rw [List.map_cons, List.map_cons, List.intercalate_cons_cons, List.flatMap_cons]
      exact hsep ha has

theorem Level.type?_eq_some {level : Level} {last : TypeTree} {ts : List TypeTree}
    (hlast : level.product? = some last) (hts : level.alternatives ++ [last] = ts) :
    level.type? = some (joined .union ts) := by
  rw [Level.type?, hlast, Option.map_some, hts]

theorem ReadsAlternatives.parenthesized {cs : List Char} {ts : List TypeTree}
    (h : ReadsAlternatives cs ts) : ReadsOperand ('(' :: cs ++ [')']) (joined .union ts) := by
  intro around alternatives factors rest _
  obtain ⟨level, last, hlast, hlevel, hread⟩ :=
    h (.parentheses around ⟨alternatives, factors, none⟩) [] (')' :: rest) (delimited_cons rfl _)
  have htype := Level.type?_eq_some hlast hlevel
  rw [List.append_assoc, List.cons_append, readFrom_mark rfl]
  refine hread.trans ?_
  rw [readFrom_mark rfl, step, htype]
  rfl

theorem ReadsFields.append {cs ds : List Char} {fields more : List (String × Bool × TypeTree)}
    (hc : ReadsFields cs fields) (hd : ReadsFields ds more) :
    ReadsFields (cs ++ ds) (fields ++ more) := by
  intro around level before rest
  rw [List.append_assoc, hc, hd, List.append_assoc]

theorem readFrom_key (key : String) (around : Around) (level : Level)
    (fields : List (String × Bool × TypeTree)) {rest : List Char} (hrest : Delimited rest) :
    readFrom (.fields around level fields) ((keyText key).toList ++ rest) =
      readFrom (.key around level fields key false) rest := by
  unfold keyText
  split
  · next hkey =>
    have hword := readFrom_word (List.cons_ne_nil key []) (by simpa using hkey)
      (.fields around level fields) hrest
    rw [String.intercalate_singleton] at hword
    rw [hword, step, if_pos hkey]
    rfl
  · rw [readFrom_stringLiteral]
    rfl

theorem readFrom_colon (key : String) (optional : Bool) (around : Around) (level : Level)
    (fields : List (String × Bool × TypeTree)) (rest : List Char) :
    readFrom (.key around level fields key false)
        ((if optional then "?: " else ": ").toList ++ rest) =
      readFrom (.type (.field around level fields key optional) {}) rest := by
  cases optional with
  | false =>
    change readFrom _ (':' :: ' ' :: rest) = _
    rw [readFrom_mark rfl]
    exact readFrom_blank _ _
  | true =>
    change readFrom _ ('?' :: ':' :: ' ' :: rest) = _
    rw [readFrom_mark rfl]
    change readFrom (.key around level fields key true) (':' :: ' ' :: rest) = _
    rw [readFrom_mark rfl]
    exact readFrom_blank _ _

theorem ReadsAlternatives.field {text : String} {ts : List TypeTree}
    (h : ReadsAlternatives text.toList ts) (depth : Nat) (comment : Option String) (key : String)
    (optional : Bool) : ReadsFields (indent depth ++ (leadText ownComment comment ++ keyText key
      ++ (if optional then "?: " else ": ") ++ text ++ ";") ++ "\n").toList
      [(key, optional, joined .union ts)] := by
  intro around level before rest
  obtain ⟨inner, last, hlast, hinner, hread⟩ :=
    h (.field around level before key optional) [] (';' :: '\n' :: rest) (delimited_cons rfl _)
  have htype := Level.type?_eq_some hlast hinner
  simp only [String.toList_append, List.append_assoc]
  rw [readFrom_indent, readFrom_leadText, readFrom_key, readFrom_colon]
  · refine hread.trans ?_
    rw [readFrom_mark rfl, step, htype]
    exact readFrom_newline _ _
  · cases optional <;> exact delimited_cons rfl _

theorem ReadsFields.braced {lines : List String} {depth : Nat}
    {fields : List (String × Bool × TypeTree)}
    (h : ReadsFields (String.join (lines.map fun line => indent (depth + 1) ++ line ++ "\n")).toList
      fields) : ReadsOperand (TypeScript.braced depth lines).toList (.object fields) := by
  intro around alternatives factors rest _
  rw [TypeScript.braced]
  generalize String.join _ = body at h ⊢
  simp only [String.toList_append, List.append_assoc]
  calc
    _ = readFrom (.type around ⟨alternatives, factors, none⟩)
        ('\x7b' :: '\n' :: (body.toList ++ ((indent depth).toList ++ '\x7d' :: rest))) := rfl
    _ = readFrom (.fields around ⟨alternatives, factors, none⟩ [])
        ('\n' :: (body.toList ++ ((indent depth).toList ++ '\x7d' :: rest))) :=
      readFrom_mark rfl _ _
    _ = readFrom (.fields around ⟨alternatives, factors, none⟩ fields) ('\x7d' :: rest) := by
      rw [readFrom_newline, h, readFrom_indent, List.nil_append]
    _ = readFrom (.type around ⟨alternatives, factors, some (.object fields)⟩) rest :=
      readFrom_mark rfl _ _

end Reading

theorem typeTexts_eq_map (depth : Nat) (ts : List TypeExpr) :
    typeTexts ownComment depth ts = ts.map (TypeExpr.text ownComment depth) := by
  induction ts with
  | nil => rfl
  | cons t ts ih => rw [typeTexts, ih, List.map_cons]

theorem ReadsAlternatives.ne_nil {cs : List Char} {ts : List TypeTree}
    (h : ReadsAlternatives cs ts) : ts ≠ [] := by
  rintro rfl
  obtain ⟨level, last, -, hlast, -⟩ := h .nothing [] [] delimited_nil
  simp at hlast

theorem joined_append {make : List TypeTree → TypeTree} {ts us : List TypeTree} (ht : ts ≠ [])
    (hu : us ≠ []) : joined make (ts ++ us) = make (ts ++ us) := by
  obtain ⟨t, ts, rfl⟩ := List.exists_cons_of_ne_nil ht
  obtain ⟨u, us, rfl⟩ := List.exists_cons_of_ne_nil hu
  cases ts <;> rfl

namespace TypeExpr

def Legible (t : TypeExpr) : Prop := t.KeepsGroups ∧ t.KeepsName

/-- The text is read as the type, and as one operand unless it needs parentheses. -/
structure ReadsBack (depth : Nat) (t : TypeExpr) : Prop where
  operand : t.isComposite = false → ReadsOperand (t.text ownComment depth).toList t.tree
  alternatives : ReadsAlternatives (t.text ownComment depth).toList (alternativeTrees [t])
  joined_eq : joined .union (alternativeTrees [t]) = t.tree

theorem ReadsBack.of_operand {depth : Nat} {t : TypeExpr} (hc : ∀ members, t ≠ .union members)
    (h : ReadsOperand (t.text ownComment depth).toList t.tree) : t.ReadsBack depth where
  operand _ := h
  alternatives := by
    rw [alternativeTrees_singleton hc]
    exact h.factors.alternatives
  joined_eq := by
    rw [alternativeTrees_singleton hc]
    rfl

theorem readsBack_union {depth : Nat} {a b : TypeExpr} {rest : List TypeExpr}
    (h : ∀ m ∈ a :: b :: rest, m.ReadsBack depth) :
    (TypeExpr.union (a :: b :: rest)).ReadsBack depth where
  operand hc := by cases hc
  alternatives := by
    rw [alternativeTrees_union, alternativeTrees_eq_flatMap, TypeExpr.text, typeTexts_eq_map,
      String.toList_intercalate, List.map_map]
    exact intercalate_reads ReadsAlternatives.bar (List.cons_ne_nil _ _) fun m hm =>
      (h m hm).alternatives
  joined_eq := by
    have ha := (h a (.head _)).alternatives.ne_nil
    have hb := (h b (.tail _ (.head _))).alternatives.ne_nil
    rw [alternativeTrees_union, tree, alternativeTrees_cons, alternativeTrees_cons b]
    exact joined_append ha (List.append_ne_nil_of_left_ne_nil hb _)

theorem readsBack_intersection {depth : Nat} {a b : TypeExpr} {rest : List TypeExpr}
    (h : ∀ m ∈ a :: b :: rest, ReadsOperand (m.text ownComment depth).toList m.tree) :
    (TypeExpr.intersection (a :: b :: rest)).ReadsBack depth where
  operand hc := by cases hc
  alternatives := by
    have hfactors := intercalate_reads ReadsFactors.ampersand (List.cons_ne_nil _ _) fun m hm =>
      (h m hm).factors
    rw [← List.map_eq_flatMap, ← trees_eq_map] at hfactors
    rw [TypeExpr.text, typeTexts_eq_map, String.toList_intercalate, List.map_map]
    exact hfactors.alternatives
  joined_eq := rfl

mutual

/-- What is legible everywhere is read back, by induction over the type. -/
theorem readsBack : (t : TypeExpr) → t.Everywhere Legible → ∀ depth, t.ReadsBack depth
  | .keyword word, _, _ => .of_operand (fun _ => by simp) (readsOperand_keyword word)
  | .literal (.string value), _, _ => .of_operand (fun _ => by simp) (readsOperand_string value)
  | .literal (.number value), _, _ => .of_operand (fun _ => by simp) (by
      rw [TypeExpr.text, Literal.text, String.toList_ofList]
      exact readsOperand_number value)
  | .bool value, _, _ => .of_operand (fun _ => by simp) (readsOperand_bool value)
  | .named path, h, _ =>
    .of_operand (fun _ => by simp) (readsOperand_named (everywhere_named.mp h).2)
  | .generic name args, h, _ => absurd (h _ .self).1 id
  | .array item, h, depth => by
    -- An item that is composite would be read with the brackets at its last part only.
    obtain ⟨⟨hcomposite, -⟩, h⟩ := everywhere_array.mp h
    refine .of_operand (fun _ => by simp) ?_
    rw [TypeExpr.text, String.toList_append]
    exact ((readsBack item h depth).operand hcomposite).array
  | .union members, h, depth => by
    obtain ⟨⟨hlength, -⟩, h⟩ := everywhere_union.mp h
    have hmembers := fun m hm => members_readBack members m hm (h m hm) depth
    rcases members with _ | ⟨a, _ | ⟨b, rest⟩⟩
    · cases hlength
    · exact absurd hlength (by simp [KeepsGroups])
    · exact readsBack_union hmembers
  | .intersection members, h, depth => by
    obtain ⟨⟨⟨hlength, hcomposite⟩, -⟩, h⟩ := everywhere_intersection.mp h
    have hmembers := fun m hm => members_readBack members m hm (h m hm) depth
    rcases members with _ | ⟨a, _ | ⟨b, rest⟩⟩
    · cases hlength
    · exact absurd hlength (by simp)
    · exact readsBack_intersection fun m hm => (hmembers m hm).operand (hcomposite m hm)
  | .parenthesized inner, h, depth => by
    have hinner := readsBack inner (everywhere_parenthesized.mp h).2 depth
    refine .of_operand (fun _ => by simp) ?_
    rw [TypeExpr.text, String.toList_append, String.toList_append, tree, ← hinner.joined_eq]
    exact hinner.alternatives.parenthesized
  | .object members, h, depth =>
    .of_operand (fun _ => by simp)
      (fields_readBack members (everywhere_object.mp h).2 (depth + 1)).braced
  | .function params result, h, _ => absurd (h _ .self).1 id

theorem members_readBack : (ts : List TypeExpr) → ∀ t ∈ ts, t.Everywhere Legible →
    ∀ depth, t.ReadsBack depth
  | [] => List.forall_mem_nil _
  | t :: rest => List.forall_mem_cons.mpr ⟨readsBack t, members_readBack rest⟩

theorem fields_readBack : (members : List Member) → (∀ m ∈ members, m.type.Everywhere Legible) →
    ∀ depth, ReadsFields (String.join ((memberTexts ownComment depth members).map fun line =>
      indent depth ++ line ++ "\n")).toList (fieldTrees members)
  | [], _, _ => fun _ _ _ _ => by simp [memberTexts, fieldTrees]
  | ⟨comment, key, optional, type⟩ :: rest, h, depth => by
    have htype := readsBack type (h _ (.head _)) depth
    have hfield := htype.alternatives.field depth comment key optional
    have hrest := fields_readBack rest (fun m hm => h m (.tail _ hm)) depth
    rw [htype.joined_eq] at hfield
    rw [memberTexts, List.map_cons, String.join_cons, String.toList_append, fieldTrees]
    exact hfield.append hrest

end

theorem readType?_text {t : TypeExpr} (h : t.Everywhere Legible) (depth : Nat) :
    readType? (t.text ownComment depth) = some t.tree := by
  have hback := readsBack t h depth
  obtain ⟨level, last, hlast, hlevel, hread⟩ := hback.alternatives .nothing [] [] delimited_nil
  rw [List.append_nil, readFrom_nil] at hread
  rw [readType?, hread, Option.bind_some, Stage.finished?, Level.type?_eq_some hlast hlevel,
    List.nil_append, hback.joined_eq]

theorem names_alternativeTrees {path : List String} {types : List TypeExpr} {u : TypeExpr}
    (hu : u ∈ types) (h : u.tree.Names path) : ∃ t ∈ alternativeTrees types, t.Names path := by
  rw [alternativeTrees_eq_flatMap]
  have hsingle : ∃ t ∈ alternativeTrees [u], t.Names path := by
    cases u with
    | union members =>
      rw [alternativeTrees_union]
      cases h with
      | union ht h => exact ⟨_, ht, h⟩
    | _ => exact ⟨_, .head _, h⟩
  obtain ⟨t, ht, hn⟩ := hsingle
  exact ⟨t, List.mem_flatMap.mpr ⟨u, hu, ht⟩, hn⟩

/-- Every name in a type is in its tree. -/
theorem names_tree {path : List String} {t : TypeExpr} (h : (TypeExpr.named path).Within t) :
    t.tree.Names path := by
  induction h with
  | self => exact .named
  | array _ ih => exact .array ih
  | union hu _ ih =>
    obtain ⟨t, ht, hn⟩ := names_alternativeTrees hu ih
    exact .union ht hn
  | intersection hu _ ih =>
    rw [tree, trees_eq_map]
    exact .intersection (List.mem_map_of_mem hu) ih
  | parenthesized _ ih => exact ih
  | object hm _ ih =>
    rw [tree, fieldTrees_eq_map]
    exact .object (List.mem_map_of_mem hm) ih

/-- A type that is held together is read back just if its names are read as names. -/
theorem readType?_text_iff {t : TypeExpr} (h : t.Grouped) (depth : Nat) :
    readType? (t.text ownComment depth) = some t.tree ↔ t.OnlyRefers := by
  constructor
  · -- All names of the type are in what was read, where there are only names of declared types.
    intro hread u hu
    cases u with
    | named path => exact onlyRefers_of_readType? hread path (names_tree hu)
    | _ => trivial
  · exact fun hr => readType?_text (fun u hu => ⟨h u hu, hr u hu⟩) depth

end TypeExpr

end ApiBindings.TypeScript
