import ApiBindings.Proofs.AlikeNodes
import ApiBindings.Proofs.Keyed

namespace ApiBindings.Json
open Decode (bind_eq_ok_iff)

mutual

/-- Does no object in the draft have a key twice? -/
def Draft.hasDistinctKeys : Draft → Bool
  | .list _ _ items _ => haveDistinctKeys items
  | .object _ _ _ entries _ =>
    decide (entries.map Prod.fst).Nodup && entriesHaveDistinctKeys entries
  | _ => true

def haveDistinctKeys : List Draft → Bool
  | [] => true
  | d :: rest => d.hasDistinctKeys && haveDistinctKeys rest

def entriesHaveDistinctKeys : List (Except BadText String × Draft × Place) → Bool
  | [] => true
  | (_, d, _) :: rest => d.hasDistinctKeys && entriesHaveDistinctKeys rest

end

abbrev ItemsRead (items : List Draft) (trees : List Tree) : Prop :=
  List.Forall₂ (fun d t => d.tree = .ok t) items trees

abbrev EntriesRead (entries : List (Except BadText String × Draft × Place))
    (members : List (String × Tree)) : Prop :=
  List.Forall₂ (fun e m => e.1 = .ok m.1 ∧ e.2.1.tree = .ok m.2) entries members

def textKeyed (members : List (String × Tree)) : List (Key × Tree) :=
  members.map fun m => (.text m.1, m.2)

theorem itemsRead_of_trees {items : List Draft} {trees : List Tree}
    (h : itemsTrees items = .ok trees) : ItemsRead items trees := by
  induction items generalizing trees with
  | nil =>
    cases h
    exact .nil
  | cons d rest ih =>
    obtain ⟨t, ht, h⟩ := bind_eq_ok_iff.mp h
    obtain ⟨ts, hts, h⟩ := bind_eq_ok_iff.mp h
    cases h
    exact .cons ht (ih hts)

theorem entriesRead_of_trees {entries : List (Except BadText String × Draft × Place)}
    {trees : List (Key × Tree)} (h : entriesTrees entries = .ok trees) :
    ∃ members, EntriesRead entries members ∧ trees = textKeyed members := by
  induction entries generalizing trees with
  | nil =>
    cases h
    exact ⟨[], .nil, rfl⟩
  | cons e rest ih =>
    obtain ⟨key, d, after⟩ := e
    obtain ⟨k, hk, h⟩ := bind_eq_ok_iff.mp h
    obtain ⟨t, ht, h⟩ := bind_eq_ok_iff.mp h
    obtain ⟨ts, hts, h⟩ := bind_eq_ok_iff.mp h
    obtain ⟨members, hm, rfl⟩ := ih hts
    cases h
    exact ⟨(k, t) :: members, .cons ⟨hk, ht⟩ hm, rfl⟩

theorem eq_none_of_checkStop {stop : Option BadText} {u : Unit} (h : checkStop stop = .ok u) :
    stop = none := by
  cases stop with
  | none => rfl
  | some e => cases h

/-- What holds of every draft that can be read, given that it holds of the drafts inside, holds of
all drafts that can be read. -/
@[elab_as_elim]
theorem tree_induction {P : Draft → Tree → Prop}
    (null : ∀ start, P (.null start) .null)
    (bool : ∀ start b, P (.bool start b) (.bool b))
    (number : ∀ start n, P (.number start (.ok n)) (.number n))
    (string : ∀ start s, P (.string start (.ok s)) (.text s))
    (list : ∀ start depth items trees, depth ≤ depthLimit → ItemsRead items trees →
      List.Forall₂ P items trees → P (.list start depth items none) (.list trees))
    (object : ∀ start inside depth entries members, depth ≤ depthLimit →
      EntriesRead entries members → List.Forall₂ (fun e m => P e.2.1 m.2) entries members →
      P (.object start inside depth entries none) (.map (textKeyed members)))
    {d : Draft} {t : Tree} (h : d.tree = .ok t) : P d t := by
  induction hn : sizeOf d using Nat.strongRecOn generalizing d t with
  | _ n ih =>
    cases d with
    | null start =>
      cases h
      exact null start
    | bool start b =>
      cases h
      exact bool start b
    | number start value =>
      cases value with
      | error e => cases h
      | ok n =>
        cases h
        exact number start n
    | string start value =>
      cases value with
      | error e => cases h
      | ok s =>
        cases h
        exact string start s
    | broken start reading skipping => cases h
    | list start depth items gap =>
      rw [Draft.tree] at h
      split at h
      · cases h
      · next hd =>
        obtain ⟨trees, htrees, h⟩ := bind_eq_ok_iff.mp h
        obtain ⟨_, hstop, h⟩ := bind_eq_ok_iff.mp h
        cases h
        obtain rfl := Option.map_eq_none_iff.mp (eq_none_of_checkStop hstop)
        have hread := itemsRead_of_trees htrees
        refine list start depth items trees (Nat.le_of_not_lt hd) hread ?_
        refine (forall₂_mem hread).imp fun d t hdt => ?_
        have hlt := List.sizeOf_lt_of_mem hdt.1
        rw [Draft.list.sizeOf_spec] at hn
        exact ih (sizeOf d) (by omega) hdt.2.2 rfl
    | object start inside depth entries stop =>
      rw [Draft.tree] at h
      split at h
      · cases h
      · next hd =>
        obtain ⟨trees, htrees, h⟩ := bind_eq_ok_iff.mp h
        obtain ⟨_, hstop, h⟩ := bind_eq_ok_iff.mp h
        cases h
        obtain rfl := Option.map_eq_none_iff.mp (eq_none_of_checkStop hstop)
        obtain ⟨members, hread, rfl⟩ := entriesRead_of_trees htrees
        refine object start inside depth entries members (Nat.le_of_not_lt hd) hread ?_
        refine (forall₂_mem hread).imp fun e m hem => ?_
        obtain ⟨key, d, after⟩ := e
        have hlt := List.sizeOf_lt_of_mem hem.1
        rw [Prod.mk.sizeOf_spec, Prod.mk.sizeOf_spec] at hlt
        rw [Draft.object.sizeOf_spec] at hn
        exact ih (sizeOf d) (by omega) hem.2.2.2 rfl

theorem skipItems_of_forall {items : List Draft} (h : ∀ d ∈ items, d.skip = .ok ()) :
    skipItems items = .ok () := by
  induction items with
  | nil => rfl
  | cons d rest ih =>
    rw [List.forall_mem_cons] at h
    rw [skipItems, h.1]
    exact ih h.2

theorem skipEntries_of_forall {entries : List (Except BadText String × Draft × Place)}
    (h : ∀ e ∈ entries, e.2.1.skip = .ok ()) : skipEntries entries = .ok () := by
  induction entries with
  | nil => rfl
  | cons e rest ih =>
    obtain ⟨key, d, after⟩ := e
    rw [List.forall_mem_cons] at h
    rw [skipEntries, h.1]
    exact ih h.2

theorem skip_of_tree {d : Draft} {t : Tree} (h : d.tree = .ok t) : d.skip = .ok () := by
  refine tree_induction (P := fun d _ => d.skip = .ok ())
    ?null ?bool ?number ?string ?list ?object h
  case list =>
    intro start depth items trees _ _ hall
    have hitems : skipItems items = .ok () := skipItems_of_forall fun d hd =>
      (exists_right_of_forall₂ hall hd).elim fun _ h => h.2
    rw [Draft.skip, hitems]
    rfl
  case object =>
    intro start inside depth entries members _ _ hall
    have hentries : skipEntries entries = .ok () := skipEntries_of_forall fun e he =>
      (exists_right_of_forall₂ hall he).elim fun _ h => h.2
    rw [Draft.skip, hentries]
    rfl
  all_goals intros; rfl

/-- A draft that can be read, and its tree. What they hold inside corresponds in the same way. -/
inductive ReadsAs : Draft → Tree → Prop
  | null (start : Place) : ReadsAs (.null start) .null
  | bool (start : Place) (b : Bool) : ReadsAs (.bool start b) (.bool b)
  | number (start : Place) (n : Numeral) : ReadsAs (.number start (.ok n)) (.number n)
  | string (start : Place) (s : String) : ReadsAs (.string start (.ok s)) (.text s)
  | list {start : Place} {depth : Nat} {items : List Draft} {trees : List Tree}
      (hd : depth ≤ depthLimit) (h : ItemsRead items trees) :
      ReadsAs (.list start depth items none) (.list trees)
  | object {start inside : Place} {depth : Nat}
      {entries : List (Except BadText String × Draft × Place)} {members : List (String × Tree)}
      (hd : depth ≤ depthLimit) (h : EntriesRead entries members) :
      ReadsAs (.object start inside depth entries none) (.map (textKeyed members))

theorem readsAs_of_tree {d : Draft} {t : Tree} (h : d.tree = .ok t) : ReadsAs d t := by
  refine tree_induction (P := ReadsAs) .null .bool .number .string ?list ?object h
  case list => exact fun _ _ _ _ hd h _ => .list hd h
  case object => exact fun _ _ _ _ _ hd h _ => .object hd h

end ApiBindings.Json

namespace ApiBindings.Decode
open Json

theorem checkDepth_of_le (start : Place) {depth : Nat} (h : depth ≤ depthLimit) :
    checkDepth start depth = .ok () :=
  if_neg (Nat.not_lt.mpr h)

theorem readableEntries_of_read {entries : List (Except BadText String × Draft × Place)}
    {members : List (String × Tree)} (h : EntriesRead entries members) :
    ∃ parts, readableEntries none entries = { parts } ∧
      List.Forall₂ (EntryAlike fun d t => d.tree = .ok t) parts members := by
  induction h with
  | nil => exact ⟨[], rfl, .nil⟩
  | @cons e m rest members' hem _ ih =>
    obtain ⟨key, d, after⟩ := e
    obtain ⟨rfl, hd⟩ := hem
    obtain ⟨parts, hparts, hall⟩ := ih
    refine ⟨(m.1, d) :: parts, ?_, .cons ⟨rfl, hd⟩ hall⟩
    rw [readableEntries, hparts]

theorem textEntries_textKeyed (members : List (String × Tree)) :
    textEntries (textKeyed members) = { parts := members } := by
  induction members with
  | nil => rfl
  | cons m rest ih =>
    show textEntries ((.text m.1, m.2) :: textKeyed rest) = _
    rw [textEntries, ih]

theorem namedEntries_textKeyed (members : List (String × Tree)) :
    namedEntries (textKeyed members) = { parts := textKeyed members } := by
  induction members with
  | nil => rfl
  | cons m rest ih =>
    show namedEntries ((.text m.1, m.2) :: textKeyed rest) = _
    rw [namedEntries, ih]
    · rfl
    · simp

theorem isSome_listBeyond (items : List Draft) (wanted : Nat) :
    (listBeyond items none wanted).isSome = decide (wanted < items.length) := by
  unfold listBeyond
  by_cases h : wanted < items.length
  · rw [List.getElem?_eq_getElem h]
    simp [h]
  · rw [List.getElem?_eq_none (Nat.le_of_not_lt h)]
    simp [h]

theorem unitDraft_alike {d : Draft} {t : Tree} (h : d.tree = .ok t) :
    Alike Eq (unitDraft d) (unitTree t) := by
  cases readsAs_of_tree h with
  | null start => exact .ok rfl
  | bool | number | string | list | object => exact .error _ _

theorem chosen_alike {d : Draft} {t : Tree} (h : d.tree = .ok t) :
    Alike Eq (chosen d) (chosen t) := by
  cases readsAs_of_tree h with
  | null | bool | number | list => exact .error _ _
  | string start s => exact .ok rfl
  | @object start inside depth entries members hd hread =>
    have hchoice : Node.choice (Draft.object start inside depth entries none) =
        objectChoice inside none entries := by
      show (checkDepth start depth >>= fun _ => objectChoice inside none entries) = _
      rw [checkDepth_of_le start hd]
      rfl
    rw [chosen, hchoice]
    cases hread with
    | nil => exact .error _ _
    | @cons e m rest others hem hrest =>
      obtain ⟨key, inner, after⟩ := e
      obtain ⟨rfl, hinner⟩ := hem
      cases hrest with
      | nil =>
        show Alike Eq ((within (.key m.1) (unitDraft inner) >>= fun _ => .ok ()) >>= fun _ =>
          .ok (Key.text m.1)) (within (.key m.1) (unitTree m.2) >>= fun _ => .ok (Key.text m.1))
        have hunit := unitDraft_alike hinner
        generalize unitDraft inner = x at hunit ⊢
        generalize unitTree m.2 = y at hunit ⊢
        cases hunit with
        | ok => exact .ok rfl
        | error => exact .error _ _
      | cons =>
        -- The tree is refused for its second key, the draft after a look at its first value.
        show Alike Eq ((within (.key m.1) (unitDraft inner) >>= fun _ =>
          checkSingle after true none) >>= fun _ => .ok (Key.text m.1)) (.error _)
        cases unitDraft inner with
        | ok => exact .error _ _
        | error => exact .error _ _

theorem bridge_tree : Bridge fun (d : Draft) (t : Tree) => d.tree = .ok t where
  text h expected := by
    cases readsAs_of_tree h with
    | string start s => exact .ok rfl
    | null | bool | number | list | object => exact .error _ _
  bool h := by
    cases readsAs_of_tree h with
    | bool start b => exact .ok rfl
    | null | number | string | list | object => exact .error _ _
  isNull h := by
    cases readsAs_of_tree h with
    | null | bool | number | string | list | object => exact .ok rfl
  items h := by
    cases readsAs_of_tree h with
    | @list start depth items trees hd hread =>
      show Alike _ (checkDepth start depth >>= fun _ => _) _
      rw [checkDepth_of_le start hd]
      exact .ok ⟨hread, rfl⟩
    | null | bool | number | string | object => exact .error _ _
  entries h := by
    cases readsAs_of_tree h with
    | @object start inside depth entries members hd hread =>
      obtain ⟨parts, hparts, hall⟩ := readableEntries_of_read hread
      show Alike _ (checkDepth start depth >>= fun _ => .ok (readableEntries none entries))
        (.ok (textEntries (textKeyed members)))
      rw [checkDepth_of_le start hd, hparts, textEntries_textKeyed]
      exact .ok ⟨hall, rfl⟩
    | null | bool | number | string | list => exact .error _ _
  record h name := by
    cases readsAs_of_tree h with
    | @object start inside depth entries members hd hread =>
      obtain ⟨parts, hparts, hall⟩ := readableEntries_of_read hread
      show Alike _ (checkDepth start depth >>= fun _ => .ok (RecordForm.named
          { parts := (readableEntries none entries).parts.map fun e => (.text e.1, e.2)
            stop := (readableEntries none entries).stop }))
        (.ok (RecordForm.named (namedEntries (textKeyed members))))
      rw [checkDepth_of_le start hd, hparts, namedEntries_textKeyed]
      refine .ok (.named ⟨?_, rfl⟩)
      rw [textKeyed, List.forall₂_map_left_iff, List.forall₂_map_right_iff]
      exact hall.imp fun e m hem => ⟨congrArg Key.text hem.1, hem.2⟩
    | @list start depth items trees hd hread =>
      show Alike _ (checkDepth start depth >>= fun _ => .ok (RecordForm.listed { parts := items }
        (listBeyond items none))) _
      rw [checkDepth_of_le start hd]
      refine .ok (.listed ⟨hread, rfl⟩ fun wanted => ?_)
      rw [isSome_listBeyond, hread.length_eq]
      split <;> simp [*]
    | null | bool | number | string => exact .error _ _
  chosen h := chosen_alike h
  skip {d t} h := by
    show Alike Eq (readable d.skip) (.ok ())
    rw [skip_of_tree h]
    exact .ok rfl
  tree {d t} h := by
    show Alike Eq (readable d.tree) (.ok t)
    rw [h]
    exact .ok rfl

end ApiBindings.Decode

namespace ApiBindings.Json

/-- The tree is that of the value it stands for. -/
def Restored (t : Tree) : Prop := ∃ j, t.toJson? = some j ∧ Tree.ofJson j = t

theorem restored_list {trees : List Tree} (h : ∀ t ∈ trees, Restored t) :
    Restored (.list trees) := by
  have hitems : ∃ js, Tree.itemsToJson? trees = some js ∧ Tree.ofItems js = trees := by
    induction trees with
    | nil => exact ⟨[], rfl, rfl⟩
    | cons t rest ih =>
      rw [List.forall_mem_cons] at h
      obtain ⟨j, hj, hback⟩ := h.1
      obtain ⟨js, hjs, hrest⟩ := ih h.2
      refine ⟨j :: js, ?_, ?_⟩
      · rw [Tree.itemsToJson?, hj, hjs]
      · rw [Tree.ofItems, hback, hrest]
  obtain ⟨js, hjs, hback⟩ := hitems
  refine ⟨.array js, ?_, ?_⟩
  · rw [Tree.toJson?, hjs]
    rfl
  · rw [Tree.ofJson, hback]

theorem restored_map {members : List (String × Tree)} (hk : (members.map Prod.fst).Nodup)
    (h : ∀ m ∈ members, Restored m.2) : Restored (.map (textKeyed members)) := by
  have hentries : ∃ js, Tree.entriesToJson? (textKeyed members) = some js ∧
      Tree.ofMembers js = textKeyed members ∧ js.map Prod.fst = members.map Prod.fst := by
    clear hk
    induction members with
    | nil => exact ⟨[], rfl, rfl, rfl⟩
    | cons m rest ih =>
      rw [List.forall_mem_cons] at h
      obtain ⟨j, hj, hback⟩ := h.1
      obtain ⟨js, hjs, hrest, hkeys⟩ := ih h.2
      refine ⟨(m.1, j) :: js, ?_, ?_, ?_⟩
      · show Tree.entriesToJson? ((.text m.1, m.2) :: textKeyed rest) = _
        rw [Tree.entriesToJson?, hj, hjs]
      · rw [Tree.ofMembers, hback, hrest]
        rfl
      · rw [List.map_cons, hkeys, List.map_cons]
  obtain ⟨js, hjs, hback, hkeys⟩ := hentries
  refine ⟨.object js, ?_, ?_⟩
  · rw [Tree.toJson?, hjs, Option.map_some, uniqueEntries_of_nodup (hkeys ▸ hk)]
  · rw [Tree.ofJson, hback]

theorem haveDistinctKeys_iff {items : List Draft} :
    haveDistinctKeys items = true ↔ ∀ d ∈ items, d.hasDistinctKeys = true := by
  induction items with
  | nil => simp [haveDistinctKeys]
  | cons d rest ih => rw [haveDistinctKeys, Bool.and_eq_true, ih, List.forall_mem_cons]

theorem entriesHaveDistinctKeys_iff {entries : List (Except BadText String × Draft × Place)} :
    entriesHaveDistinctKeys entries = true ↔ ∀ e ∈ entries, e.2.1.hasDistinctKeys = true := by
  induction entries with
  | nil => simp [entriesHaveDistinctKeys]
  | cons e rest ih =>
    obtain ⟨key, d, after⟩ := e
    rw [entriesHaveDistinctKeys, Bool.and_eq_true, ih, List.forall_mem_cons]

theorem keys_of_entriesRead {entries : List (Except BadText String × Draft × Place)}
    {members : List (String × Tree)} (h : EntriesRead entries members) :
    entries.map Prod.fst = (members.map Prod.fst).map .ok := by
  induction h with
  | nil => rfl
  | cons hem _ ih => rw [List.map_cons, List.map_cons, List.map_cons, hem.1, ih]

/-- What is read from a text without repeated keys is a JSON value, and nothing of it is lost. -/
theorem restored_of_tree {d : Draft} {t : Tree} (h : d.tree = .ok t)
    (hk : d.hasDistinctKeys = true) : Restored t := by
  refine tree_induction (P := fun d t => d.hasDistinctKeys = true → Restored t)
    ?null ?bool ?number ?string ?list ?object h hk
  case null => exact fun _ _ => ⟨.null, rfl, rfl⟩
  case bool => exact fun _ b _ => ⟨.bool b, rfl, rfl⟩
  case number => exact fun _ n _ => ⟨.number n, rfl, rfl⟩
  case string => exact fun _ s _ => ⟨.string s, rfl, rfl⟩
  case list =>
    intro start depth items trees _ _ hall hk
    rw [Draft.hasDistinctKeys, haveDistinctKeys_iff] at hk
    refine restored_list fun t ht => ?_
    obtain ⟨d, hd, hrestored⟩ := exists_left_of_forall₂ hall ht
    exact hrestored (hk d hd)
  case object =>
    intro start inside depth entries members _ hread hall hk
    rw [Draft.hasDistinctKeys, Bool.and_eq_true, decide_eq_true_iff, keys_of_entriesRead hread,
      entriesHaveDistinctKeys_iff] at hk
    refine restored_map hk.1.of_map fun m hm => ?_
    obtain ⟨e, he, hrestored⟩ := exists_left_of_forall₂ hall hm
    exact hrestored (hk.2 e he)

theorem exists_tree_of_parse {text : String} {value : Json} (h : parse text = .ok value) :
    ∃ tree, (draftOf text).1.tree = .ok tree ∧ tree.toJson?.getD .null = value := by
  unfold parse at h
  generalize draftOf text = drafted at h ⊢
  obtain ⟨draft, after⟩ := drafted
  obtain ⟨tree, htree, h⟩ := Decode.bind_eq_ok_iff.mp h
  refine ⟨tree, htree, ?_⟩
  cases after with
  | none => cases h
  | some rest =>
    dsimp only at h
    split at h
    · cases h
      rfl
    · cases h

end ApiBindings.Json

namespace ApiBindings.Contract
open Decode

/-- A text without repeated keys that is one JSON value gives the same contract when it is read
directly as when its value is, or no contract either way. -/
theorem ofJsonText_agrees_ofJson {text : String} {value : Json} (h : Json.parse text = .ok value)
    (hk : (Json.draftOf text).1.hasDistinctKeys = true) :
    (∃ doc, Document.ofJsonText text = .ok doc ∧ Document.ofJson value = .ok doc) ∨
      ∃ fault fault', Document.ofJsonText text = .error fault ∧
        Document.ofJson value = .error fault' := by
  obtain ⟨tree, htree, rfl⟩ := Json.exists_tree_of_parse h
  obtain ⟨j, hj, hback⟩ := Json.restored_of_tree htree hk
  have halike : Alike Eq (Document.ofJsonText text) (document tree) :=
    agree_document bridge_tree htree
  rw [hj, Option.getD_some, Document.ofJson, hback]
  exact halike.both

/-- A contract with a list for a record, a location written as a choice, and keys that nobody asks
for. -/
def tagContract : String :=
  "\x7b\"openapi\":\"3\",\"info\":[\"T\",null,\"1\"],\"x\":[7],\"components\":\x7b" ++
    "\"parameters\":\x7b\"tag\":\x7b\"name\":\"tag\",\"in\":\x7b\"query\":null\x7d\x7d\x7d\x7d \x7d"

theorem tagContract_readings_agree :
    ∃ value doc, Json.parse tagContract = .ok value ∧
      (Json.draftOf tagContract).1.hasDistinctKeys = true ∧
      Document.ofJsonText tagContract = .ok doc ∧ Document.ofJson value = .ok doc := by
  have hkeys : (Json.draftOf tagContract).1.hasDistinctKeys = true := by decide +kernel
  have hparse : (Json.parse tagContract).toBool = true := by decide +kernel
  have hread : (Document.ofJsonText tagContract).toBool = true := by decide +kernel
  cases hvalue : Json.parse tagContract with
  | error e =>
    rw [hvalue] at hparse
    cases hparse
  | ok value =>
    rcases ofJsonText_agrees_ofJson hvalue hkeys with ⟨doc, htext, hjson⟩ | ⟨fault, _, htext, -⟩
    · exact ⟨value, doc, rfl, hkeys, htext, hjson⟩
    · rw [htext] at hread
      cases hread

end ApiBindings.Contract
