import ApiBindings.Keyed
import Mathlib.Data.List.Induction
import Mathlib.Data.List.Nodup

namespace ApiBindings

section EraseDups

variable {κ : Type} [BEq κ] [LawfulBEq κ]

theorem nodup_eraseDups (as : List κ) : as.eraseDups.Nodup := by
  induction h : as.length using Nat.strongRecOn generalizing as with
  | _ n ih =>
    cases as with
    | nil => exact List.nodup_nil
    | cons a rest =>
      have hlen : (rest.filter fun b => !b == a).length < n := by
        have := List.length_filter_le (fun b => !b == a) rest
        rw [List.length_cons] at h
        omega
      rw [List.eraseDups_cons, List.nodup_cons]
      exact ⟨by simp, ih _ hlen _ rfl⟩

theorem eraseDups_concat (as : List κ) (a : κ) :
    (as ++ [a]).eraseDups = if a ∈ as then as.eraseDups else as.eraseDups ++ [a] := by
  rw [List.eraseDups_append]
  by_cases ha : a ∈ as <;> simp [List.removeAll, ha, List.eraseDups_cons]

end EraseDups

variable {κ α : Type} [DecidableEq κ]

theorem filter_distinctBy_id (p : κ → Bool) (as : List κ) :
    (distinctBy id as).filter p = distinctBy id (as.filter p) := by
  induction as with
  | nil => rfl
  | cons a rest ih =>
    rw [distinctBy, List.filter_cons, List.filter_cons]
    have hswap : ((distinctBy id rest).filter fun b => id b ≠ id a).filter p =
        (distinctBy id (rest.filter p)).filter fun b => id b ≠ id a := by
      rw [← ih, List.filter_filter, List.filter_filter]
      simp only [Bool.and_comm]
    by_cases hp : p a = true
    · rw [if_pos hp, if_pos hp, distinctBy, hswap]
    · rw [if_neg hp, if_neg hp, hswap]
      -- What is left of the rest does not hold `a`, so nothing more is taken out.
      apply List.filter_eq_self.mpr
      intro b hb
      rw [← ih, List.mem_filter] at hb
      have hne : b ≠ a := fun h => hp (h ▸ hb.2)
      simpa using hne

theorem distinctBy_id_eq_eraseDups [BEq κ] [LawfulBEq κ] (as : List κ) :
    distinctBy id as = as.eraseDups := by
  induction h : as.length using Nat.strongRecOn generalizing as with
  | _ n ih =>
    cases as with
    | nil => rfl
    | cons a rest =>
      have hlen : (rest.filter fun b => !b == a).length < n := by
        have := List.length_filter_le (fun b => !b == a) rest
        rw [List.length_cons] at h
        omega
      rw [distinctBy, filter_distinctBy_id, List.eraseDups_cons, ← ih _ hlen _ rfl]
      congr 3
      funext b
      by_cases hb : b = a <;> simp [hb]

theorem distinctBy_of_injective [DecidableEq α] {key : α → κ} (hkey : Function.Injective key)
    (as : List α) : distinctBy key as = distinctBy id as := by
  induction as with
  | nil => rfl
  | cons a rest ih =>
    rw [distinctBy, distinctBy, ih]
    simp only [hkey.ne_iff, id_eq]

theorem map_distinctBy (key : α → κ) (as : List α) :
    (distinctBy key as).map key = distinctBy id (as.map key) := by
  induction as with
  | nil => rfl
  | cons a rest ih =>
    rw [distinctBy, List.map_cons, List.map_cons, distinctBy, ← ih, List.filter_map]
    rfl

/-- What is kept of the elements with one key is the first. -/
theorem find?_of_mem_distinctBy {key : α → κ} {as : List α} {a : α} (h : a ∈ distinctBy key as) :
    as.find? (fun b => key b = key a) = some a := by
  induction as with
  | nil => cases h
  | cons b rest ih =>
    rw [distinctBy, List.mem_cons, List.mem_filter] at h
    rcases h with rfl | ⟨hrest, hkey⟩
    · exact List.find?_cons_of_pos (by simp)
    · rw [List.find?_cons_of_neg (by simpa using Ne.symm (of_decide_eq_true hkey)), ih hrest]

theorem keys_insertEntry (entries : List (κ × α)) (key : κ) (value : α) :
    (insertEntry entries key value).map Prod.fst =
      if key ∈ entries.map Prod.fst then entries.map Prod.fst
      else entries.map Prod.fst ++ [key] := by
  induction entries with
  | nil => rfl
  | cons e rest ih =>
    obtain ⟨k, v⟩ := e
    rw [insertEntry]
    by_cases hk : k = key
    · simp [hk]
    · rw [if_neg hk, List.map_cons, ih]
      by_cases hr : key ∈ rest.map Prod.fst
      · simp [hr]
      · simp [hr, Ne.symm hk]

theorem mem_insertEntry {entries : List (κ × α)} {key : κ} {value : α}
    (hn : (entries.map Prod.fst).Nodup) {e : κ × α} (he : e ∈ insertEntry entries key value) :
    e = (key, value) ∨ e ∈ entries ∧ e.1 ≠ key := by
  induction entries with
  | nil => exact .inl (List.mem_singleton.mp he)
  | cons first rest ih =>
    obtain ⟨k, v⟩ := first
    rw [List.map_cons, List.nodup_cons] at hn
    rw [insertEntry] at he
    by_cases hk : k = key
    · rw [if_pos hk, List.mem_cons] at he
      rcases he with h | h
      · exact .inl (h.trans (by rw [hk]))
      · refine .inr ⟨.tail _ h, fun hkey => hn.1 ?_⟩
        exact List.mem_map.mpr ⟨e, h, hkey.trans hk.symm⟩
    · rw [if_neg hk, List.mem_cons] at he
      rcases he with h | h
      · exact .inr ⟨h ▸ .head _, h ▸ hk⟩
      · apply (ih hn.2 h).imp id
        exact fun h => ⟨.tail _ h.1, h.2⟩

theorem lookup_insertEntry [BEq κ] [LawfulBEq κ] (entries : List (κ × α)) (key : κ) (value : α)
    (k : κ) :
    (insertEntry entries key value).lookup k =
      if k = key then some value else entries.lookup k := by
  have hcons {k' : κ} (h : k ≠ k') (v : α) (rest : List (κ × α)) :
      ((k', v) :: rest).lookup k = rest.lookup k := by
    rw [List.lookup_cons, beq_eq_false_iff_ne.mpr h]
  induction entries with
  | nil =>
    rw [insertEntry]
    by_cases hk : k = key
    · rw [hk, List.lookup_cons_self, if_pos rfl]
    · rw [hcons hk, if_neg hk]
  | cons e rest ih =>
    obtain ⟨k', v⟩ := e
    rw [insertEntry]
    by_cases hk : k = k'
    · subst hk
      by_cases hkey : k = key
      · rw [if_pos hkey, if_pos hkey, List.lookup_cons_self]
      · rw [if_neg hkey, if_neg hkey, List.lookup_cons_self, List.lookup_cons_self]
    · rw [hcons hk]
      by_cases hkey : k' = key
      · rw [if_pos hkey, hcons hk, if_neg (hkey ▸ hk)]
      · rw [if_neg hkey, hcons hk, ih]

theorem uniqueEntries_concat (entries : List (κ × α)) (e : κ × α) :
    uniqueEntries (entries ++ [e]) = insertEntry (uniqueEntries entries) e.1 e.2 :=
  List.foldl_concat ..

theorem keys_uniqueEntries [BEq κ] [LawfulBEq κ] (entries : List (κ × α)) :
    (uniqueEntries entries).map Prod.fst = (entries.map Prod.fst).eraseDups := by
  induction entries using List.reverseRecOn with
  | nil => rfl
  | append_singleton entries e ih =>
    rw [uniqueEntries_concat, keys_insertEntry, ih, List.map_append, List.map_singleton,
      eraseDups_concat]
    simp only [List.mem_eraseDups]

theorem insertEntry_of_not_mem {entries : List (κ × α)} {key : κ}
    (h : key ∉ entries.map Prod.fst) (value : α) :
    insertEntry entries key value = entries ++ [(key, value)] := by
  induction entries with
  | nil => rfl
  | cons e rest ih =>
    obtain ⟨k, v⟩ := e
    rw [List.map_cons, List.mem_cons, not_or] at h
    rw [insertEntry, if_neg (Ne.symm h.1), ih h.2]
    rfl

theorem uniqueEntries_of_nodup {entries : List (κ × α)}
    (h : (entries.map Prod.fst).Nodup) : uniqueEntries entries = entries := by
  induction entries using List.reverseRecOn with
  | nil => rfl
  | append_singleton entries e ih =>
    rw [List.map_append, List.nodup_append] at h
    have hnew : e.1 ∉ entries.map Prod.fst := fun hm => h.2.2 _ hm _ (.head _) rfl
    rw [uniqueEntries_concat, ih h.1, insertEntry_of_not_mem hnew]

/-- The value kept for a key is the last one. -/
theorem getLast?_of_mem_uniqueEntries {entries : List (κ × α)} {e : κ × α}
    (he : e ∈ uniqueEntries entries) :
    (entries.filter fun x => x.1 = e.1).getLast? = some e := by
  induction entries using List.reverseRecOn with
  | nil => simp [uniqueEntries] at he
  | append_singleton entries last ih =>
    have hn : ((uniqueEntries entries).map Prod.fst).Nodup := by
      rw [keys_uniqueEntries]
      exact nodup_eraseDups _
    rw [uniqueEntries_concat] at he
    rw [List.filter_append, List.getLast?_append]
    rcases mem_insertEntry hn he with h | h
    · simp [h]
    · simp [Ne.symm h.2, ih h.1]

end ApiBindings
