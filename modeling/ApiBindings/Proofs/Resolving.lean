import ApiBindings.Model.Resolving
import Mathlib.Data.List.Forall2

namespace ApiBindings.Model.Resolving

variable {α β : Type}

/-- The resolution succeeds with a value and exactly these warnings. -/
def Yields (m : Resolving α) (a : α) (ws : List Warning) : Prop := m = .ok (a, ws)

/-- The resolution stops with an error. -/
def FailsWith (m : Resolving α) (e : ResolveError) : Prop := m = .error e

theorem Yields.unique {m : Resolving α} {a b : α} {ws vs : List Warning}
    (h : m.Yields a ws) (h' : m.Yields b vs) : a = b ∧ ws = vs := by
  have he := Except.ok.inj (Eq.trans (Eq.symm h) h')
  simpa using he

theorem Yields.not_failsWith {m : Resolving α} {a : α} {ws : List Warning} {e : ResolveError}
    (h : m.Yields a ws) : ¬ m.FailsWith e := by
  intro h'
  cases Eq.trans (Eq.symm h) h'

theorem yields_or_failsWith (m : Resolving α) :
    (∃ a ws, m.Yields a ws) ∨ ∃ e, m.FailsWith e := by
  match m with
  | .ok (a, ws) => exact .inl ⟨a, ws, rfl⟩
  | .error e => exact .inr ⟨e, rfl⟩

theorem pure_yields_iff {a b : α} {ws : List Warning} :
    (pure a : Resolving α).Yields b ws ↔ a = b ∧ ws = [] := by
  change (Except.ok (a, []) : Except ResolveError (α × List Warning)) = .ok (b, ws) ↔ _
  simp only [Except.ok.injEq, Prod.mk.injEq, eq_comm (a := ([] : List Warning))]

theorem warn_yields_iff {vs ws : List Warning} {u : Unit} : (warn vs).Yields u ws ↔ ws = vs := by
  change (Except.ok ((), vs) : Except ResolveError (Unit × List Warning)) = .ok (u, ws) ↔ _
  simp [eq_comm]

theorem not_fail_yields {e : ResolveError} {a : α} {ws : List Warning} :
    ¬ (fail e : Resolving α).Yields a ws := by
  intro h
  cases h

theorem Yields.bind {m : Resolving α} {f : α → Resolving β} {a : α} {b : β}
    {earlier later : List Warning} (hm : m.Yields a earlier) (hf : (f a).Yields b later) :
    (m >>= f).Yields b (earlier ++ later) := by
  unfold Yields at *
  subst hm
  simp only [Bind.bind, hf]
  rfl

/-- A step that does not compute, between steps that do. None of them warns. -/
theorem Yields.through {γ δ : Type} {m : Resolving α} {f : α → Resolving β}
    {g : α → β → Resolving γ} {k : α → β → γ → Resolving δ} {a : α} {b : β} {c : γ} {d : δ}
    (hm : m.Yields a []) (hf : (f a).Yields b []) (hg : (g a b).Yields c [])
    (hk : (k a b c).Yields d []) :
    (m >>= fun a => f a >>= fun b => g a b >>= fun c => k a b c).Yields d [] :=
  hm.bind (hf.bind (hg.bind hk))

theorem FailsWith.bind {m : Resolving α} {e : ResolveError} (hm : m.FailsWith e)
    (f : α → Resolving β) : (m >>= f).FailsWith e := by
  subst hm
  rfl

theorem Yields.bind_failsWith {m : Resolving α} {f : α → Resolving β} {a : α}
    {ws : List Warning} {e : ResolveError} (hm : m.Yields a ws) (hf : (f a).FailsWith e) :
    (m >>= f).FailsWith e := by
  unfold Yields FailsWith at *
  subst hm
  simp only [Bind.bind, hf]
  rfl

theorem bind_yields_iff {m : Resolving α} {f : α → Resolving β} {b : β} {ws : List Warning} :
    (m >>= f).Yields b ws ↔
      ∃ a earlier later, m.Yields a earlier ∧ (f a).Yields b later ∧ ws = earlier ++ later := by
  constructor
  · intro h
    rcases yields_or_failsWith m with ⟨a, earlier, hm⟩ | ⟨e, hm⟩
    · rcases yields_or_failsWith (f a) with ⟨b', later, hf⟩ | ⟨e, hf⟩
      · obtain ⟨rfl, rfl⟩ := h.unique (hm.bind hf)
        exact ⟨a, earlier, later, hm, hf, rfl⟩
      · exact absurd (hm.bind_failsWith hf) h.not_failsWith
    · exact absurd (hm.bind f) h.not_failsWith
  · rintro ⟨a, earlier, later, hm, hf, rfl⟩
    exact hm.bind hf

/-- A step that never warns leaves the warnings to the steps behind it. -/
theorem bind_yields_iff_of_silent {m : Resolving α} {P : α → Prop}
    (hm : ∀ {a ws}, m.Yields a ws ↔ P a ∧ ws = []) {f : α → Resolving β} {b : β}
    {ws : List Warning} : (m >>= f).Yields b ws ↔ ∃ a, P a ∧ (f a).Yields b ws := by
  rw [bind_yields_iff]
  constructor
  · rintro ⟨a, earlier, later, hy, hf, rfl⟩
    obtain ⟨ha, rfl⟩ := hm.mp hy
    exact ⟨a, ha, hf⟩
  · rintro ⟨a, ha, hf⟩
    exact ⟨a, [], ws, hm.mpr ⟨ha, rfl⟩, hf, rfl⟩

theorem bind_failsWith_iff {m : Resolving α} {f : α → Resolving β} {e : ResolveError} :
    (m >>= f).FailsWith e ↔
      m.FailsWith e ∨ ∃ a ws, m.Yields a ws ∧ (f a).FailsWith e := by
  constructor
  · intro h
    rcases yields_or_failsWith m with ⟨a, ws, ha⟩ | ⟨e', he⟩
    · rcases yields_or_failsWith (f a) with ⟨b, vs, hb⟩ | ⟨e', he⟩
      · exact absurd h (ha.bind hb).not_failsWith
      · cases Eq.trans (Eq.symm h) (ha.bind_failsWith he)
        exact .inr ⟨a, ws, ha, he⟩
    · cases Eq.trans (Eq.symm h) (he.bind f)
      exact .inl he
  · rintro (h | ⟨a, ws, ha, hf⟩)
    · exact h.bind f
    · exact ha.bind_failsWith hf

/-- A list resolves when each of its elements does; the warnings come in the same order. -/
theorem each_yields_iff {f : α → Resolving β} {as : List α} {bs : List β} {ws : List Warning} :
    (each f as).Yields bs ws ↔ ∃ results : List (β × List Warning),
      List.Forall₂ (fun a r => (f a).Yields r.1 r.2) as results ∧
        bs = results.map Prod.fst ∧ ws = results.flatMap Prod.snd := by
  induction as generalizing bs ws with
  | nil =>
    simp only [each, pure_yields_iff, List.forall₂_nil_left_iff]
    constructor
    · rintro ⟨rfl, rfl⟩
      exact ⟨[], rfl, rfl, rfl⟩
    · rintro ⟨_, rfl, rfl, rfl⟩
      exact ⟨rfl, rfl⟩
  | cons a as ih =>
    simp only [each, bind_yields_iff, pure_yields_iff, ih, List.forall₂_cons_left_iff]
    constructor
    · rintro ⟨b, w, _, hb, ⟨_, _, _, ⟨results, hr, rfl, rfl⟩, ⟨rfl, rfl⟩, rfl⟩, rfl⟩
      exact ⟨(b, w) :: results, ⟨(b, w), results, hb, hr, rfl⟩, by simp, by simp⟩
    · rintro ⟨_, ⟨⟨b, w⟩, results, hb, hr, rfl⟩, rfl, rfl⟩
      exact ⟨b, w, _, hb, ⟨_, _, _, ⟨results, hr, rfl, rfl⟩, ⟨rfl, rfl⟩, rfl⟩, by simp⟩

theorem exists_failsWith_of_each {f : α → Resolving β} {as : List α} {e : ResolveError}
    (h : (each f as).FailsWith e) : ∃ a ∈ as, (f a).FailsWith e := by
  induction as with
  | nil => cases h
  | cons a as ih =>
    rcases bind_failsWith_iff.mp h with h | ⟨b, ws, -, h⟩
    · exact ⟨a, .head _, h⟩
    · rcases bind_failsWith_iff.mp h with h | ⟨bs, vs, -, h⟩
      · obtain ⟨a', ha', h⟩ := ih h
        exact ⟨a', .tail _ ha', h⟩
      · cases h

end ApiBindings.Model.Resolving
