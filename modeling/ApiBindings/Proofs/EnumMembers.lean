import ApiBindings.Proofs.JsonText
import ApiBindings.Proofs.Keyed
import ApiBindings.TypeScript.Enum

namespace ApiBindings.TypeScript
open Model (EnumBase)

/-- Literals with the same text are the same. -/
theorem distinctLiterals_eq_eraseDups (items : List Json) :
    distinctLiterals items = items.eraseDups := by
  rw [distinctLiterals, distinctBy_of_injective Json.render_injective, distinctBy_id_eq_eraseDups]

theorem mem_distinctLiterals_iff {items : List Json} {item : Json} :
    item ∈ distinctLiterals items ↔ item ∈ items := by
  rw [distinctLiterals_eq_eraseDups, List.mem_eraseDups]

/-- How a member is named where some names are taken: by its own name if that is free, and else by
its own name with the least number from 2 on that makes a free one. -/
structure NamedBeside (taken : List String) (own given : MemberName) : Prop where
  kept : own.text ∉ taken → given = own
  numbered : own.text ∈ taken → ∃ k, 2 ≤ k ∧ given = own.renamed (suffixed own.text k) ∧
    suffixed own.text k ∉ taken ∧ ∀ j, 2 ≤ j → j < k → suffixed own.text j ∈ taken

@[simp]
theorem MemberName.text_renamed (text : String) (name : MemberName) :
    (name.renamed text).text = text := by
  cases name <;> rfl

/-- The search for a suffix ends at the first number that makes a free name. -/
theorem freshSuffix_least (taken : List String) (text : String) (count : Nat) :
    ∃ k, count ≤ k ∧ freshSuffix taken text count = suffixed text k ∧ suffixed text k ∉ taken ∧
      ∀ j, count ≤ j → j < k → suffixed text j ∈ taken := by
  fun_induction freshSuffix taken text count with
  | case1 count h ih =>
    obtain ⟨k, hle, heq, hfree, hleast⟩ := ih
    refine ⟨k, by omega, heq, hfree, ?_⟩
    intro j hj hjk
    by_cases hjc : j = count
    · rw [hjc]
      exact List.contains_iff_mem.mp h
    · exact hleast j (by omega) hjk
  | case2 count h =>
    refine ⟨count, Nat.le_refl _, rfl, ?_, ?_⟩
    · rwa [List.contains_iff_mem] at h
    · intro j hj hjk
      omega

namespace NamedBeside

variable {taken : List String} {own given : MemberName}

theorem of_freshName (taken : List String) (own : MemberName) :
    NamedBeside taken own (freshName taken own) := by
  constructor
  · intro h
    rw [freshName, if_neg (by rwa [List.contains_iff_mem])]
  · intro h
    obtain ⟨k, hk, heq, hfree, hleast⟩ := freshSuffix_least taken own.text 2
    refine ⟨k, hk, ?_, hfree, hleast⟩
    rw [freshName, if_pos (by rwa [List.contains_iff_mem]), heq]

theorem text_not_mem (h : NamedBeside taken own given) : given.text ∉ taken := by
  by_cases hown : own.text ∈ taken
  · obtain ⟨k, -, rfl, hfree, -⟩ := h.numbered hown
    rwa [MemberName.text_renamed]
  · rwa [h.kept hown]

theorem congr {taken' : List String} (h : NamedBeside taken own given)
    (hmem : ∀ text, text ∈ taken ↔ text ∈ taken') : NamedBeside taken' own given := by
  constructor
  · intro hown
    rw [← hmem] at hown
    exact h.kept hown
  · intro hown
    rw [← hmem] at hown
    simpa only [← hmem] using h.numbered hown

end NamedBeside

section Members

variable (enumName : String) (base : EnumBase)

theorem enumMembers_literals (taken : List String) (items : List Json) :
    (enumMembers enumName base taken items).map Prod.snd = items.map initializer := by
  induction items generalizing taken with
  | nil => rfl
  | cons item rest ih => simp [enumMembers, ih]

/-- The names of members differ from each other and from those that were taken before. -/
theorem nodup_enumMembers (taken : List String) (items : List Json) :
    ((enumMembers enumName base taken items).map fun m => m.1.text).Nodup ∧
      ∀ m ∈ enumMembers enumName base taken items, m.1.text ∉ taken := by
  induction items generalizing taken with
  | nil => exact ⟨List.nodup_nil, by simp [enumMembers]⟩
  | cons item rest ih =>
    have hfresh := (NamedBeside.of_freshName taken (memberName enumName base item)).text_not_mem
    obtain ⟨hnodup, hnew⟩ :=
      ih ((freshName taken (memberName enumName base item)).text :: taken)
    simp only [enumMembers, List.map_cons, List.nodup_cons, List.forall_mem_cons]
    refine ⟨⟨?_, hnodup⟩, hfresh, ?_⟩
    · rw [List.mem_map]
      rintro ⟨m, hm, htext⟩
      exact hnew m hm (htext ▸ .head _)
    · intro m hm htaken
      exact hnew m hm (.tail _ htaken)

theorem enumMembers_getElem? (taken : List String) (items : List Json) (i : Nat) :
    (enumMembers enumName base taken items)[i]? = items[i]?.map fun item =>
      (freshName ((((enumMembers enumName base taken items).take i).map fun m => m.1.text).reverse
        ++ taken) (memberName enumName base item), initializer item) := by
  induction items generalizing taken i with
  | nil => rfl
  | cons item rest ih =>
    cases i with
    | zero => rfl
    | succ i =>
      simp only [enumMembers, List.getElem?_cons_succ, ih, List.take_succ_cons, List.map_cons,
        List.reverse_cons, List.append_assoc, List.singleton_append]

end Members

/-- Every literal has one member under a name of its own. The literals are the first items of each
text, in their order; a member has its literal's value, and its name is that of the literal unless
an earlier member has it. -/
theorem enum_members_of_literals (name : String) (base : EnumBase) (items : List Json) :
    ∃ members, enumDeclaration name base items = .enum name members ∧
      (distinctLiterals items).map Json.render = (items.map Json.render).eraseDups ∧
      (∀ literal ∈ distinctLiterals items,
        items.find? (fun item => item.render = literal.render) = some literal) ∧
      members.map Prod.snd = (distinctLiterals items).map initializer ∧
      (members.map fun m => m.1.text).Nodup ∧
      ∀ i member literal, members[i]? = some member →
        (distinctLiterals items)[i]? = some literal →
        NamedBeside ((members.take i).map fun m => m.1.text) (memberName name base literal)
          member.1 := by
  refine ⟨_, rfl, ?_, ?_, enumMembers_literals .., ?_, ?_⟩
  · rw [distinctLiterals, map_distinctBy, distinctBy_id_eq_eraseDups]
  · exact fun literal h => find?_of_mem_distinctBy h
  · exact (nodup_enumMembers name base [] _).1
  · intro i member literal hmember hliteral
    rw [enumMembers_getElem?, hliteral, Option.map_some, Option.some.injEq] at hmember
    rw [← hmember, List.append_nil]
    apply (NamedBeside.of_freshName _ _).congr
    exact fun text => List.mem_reverse

/-- Three literals whose names meet: the second takes a suffix, with which it has the name of the
third. -/
theorem code_members_of_literals :
    enumMembers "Code" .string []
        (distinctLiterals [.string "1.5", .string "_1_5", .string "1.5", .string "_1_5_2"]) =
      [(.bare "_1_5", .string "1.5"), (.bare "_1_5_2", .string "_1_5"),
        (.bare "_1_5_2_2", .string "_1_5_2")] ∧
      NamedBeside ["_1_5", "_1_5_2"] (memberName "Code" .string (.string "_1_5_2"))
        (.bare "_1_5_2_2") := by
  have hmembers : enumMembers "Code" .string []
        (distinctLiterals [.string "1.5", .string "_1_5", .string "1.5", .string "_1_5_2"]) =
      [(.bare "_1_5", .string "1.5"), (.bare "_1_5_2", .string "_1_5"),
        (.bare "_1_5_2_2", .string "_1_5_2")] := by
    decide +kernel
  refine ⟨hmembers, ?_⟩
  obtain ⟨members, hdeclared, -, -, -, -, hnamed⟩ := enum_members_of_literals "Code" .string
    [.string "1.5", .string "_1_5", .string "1.5", .string "_1_5_2"]
  rw [enumDeclaration, hmembers] at hdeclared
  cases hdeclared
  exact hnamed 2 _ (.string "_1_5_2") rfl rfl

end ApiBindings.TypeScript
