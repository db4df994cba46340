import ApiBindings.Proofs.Names
import ApiBindings.Proofs.PathGrammar
import ApiBindings.Proofs.PercentText
import ApiBindings.TypeScript.Client
import Mathlib.Data.List.TakeWhile

/-!
The path of a request, as the generated expression evaluates to it. Cut at its slashes and decoded
piece by piece, it is the template with the parameters filled in. A template without parameters is
written as it stands, so there the pieces are those that were read; otherwise the literal text was
decoded when it was read and is encoded again.
-/
namespace ApiBindings.Contract
open Text

def Fragment.filled (values : String → String) : Fragment → String
  | .literal text => text
  | .param name => values name

def Segment.filled (values : String → String) (s : Segment) : String :=
  String.join (s.map (Fragment.filled values))

namespace PathTemplate

/-- A literal is a run of characters, none of them a slash, and no further one follows it. -/
theorem fragment?_literal {s rest : List Char} {text : String}
    (h : fragment? s = some (.literal text, rest)) :
    ∃ run, s = run ++ rest ∧ '/' ∉ run ∧ Percent.decode? run = some text ∧
      ∀ next after, fragment? rest ≠ some (.literal next, after) := by
  obtain ⟨p, hp, rfl, hnext⟩ := exists_piece_of_fragment? h
  cases p with
  | param => cases hp
  | run run text' hne hchars htext =>
    cases hp
    refine ⟨run, rfl, ?_, htext, ?_⟩
    · intro hm
      have hslash := hchars '/' hm
      rw [isLiteralChar_slash] at hslash
      cases hslash
    · -- What follows starts with no character of a literal.
      intro next after hf
      obtain ⟨q, hq, rfl, -⟩ := exists_piece_of_fragment? hf
      have hrun : q.name? = none := by rw [← q.param?_fragment, hq]; rfl
      obtain ⟨c, tail, hc, -, hlit⟩ := q.head_chars
      have hno : isLiteralChar c = false := hnext rfl c (by rw [hc]; rfl)
      rw [hlit.mpr hrun] at hno
      cases hno

theorem fragments_without_params {s : List Char} (h : Segment.params (fragments s).1 = []) :
    (fragments s).1 = [] ∨ ∃ run text rest, fragments s = ([.literal text], rest) ∧
      s = run ++ rest ∧ '/' ∉ run ∧ Percent.decode? run = some text := by
  -- Whatever a fragment is, a parameter is none of them.
  have hparam {s rest : List Char} {name : String} (hf : fragment? s = some (.param name, rest)) :
      Segment.params (fragments s).1 ≠ [] := by
    rw [fragments_of_some hf]
    exact List.cons_ne_nil _ _
  match hf : fragment? s with
  | none => exact .inl (by rw [fragments_of_none hf])
  | some (.param name, rest) => exact absurd h (hparam hf)
  | some (.literal text, rest) =>
    obtain ⟨run, hs, hslash, hd, hnext⟩ := fragment?_literal hf
    rw [fragments_of_some hf] at h ⊢
    refine .inr ⟨run, text, rest, ?_, hs, hslash, hd⟩
    match hg : fragment? rest with
    | none => rw [fragments_of_none hg]
    | some (.param name, after) => exact absurd h (hparam hg)
    | some (.literal next, after) => exact absurd hg (hnext next after)

theorem splitBy_slash {run : List Char} (h : '/' ∉ run) : splitBy (· != '/') run = [run] := by
  apply splitBy_of_forall
  intro c hc
  rw [bne_iff_ne]
  exact fun he => h (he ▸ hc)

/-- The pieces of a path without parameters decode to the segments that are read from it. -/
theorem longest?_pieces {s : List Char} {template : PathTemplate}
    (h : longest? s = some (template, [])) (hp : params template = [])
    (values : String → String) :
    ∃ rest, s = '/' :: rest ∧ (splitBy (· != '/') rest).map Percent.decode? =
      template.map fun segment => some (Segment.filled values segment) := by
  induction hn : s.length using Nat.strongRecOn generalizing s template with
  | _ n ih =>
    obtain ⟨r, rfl, hcases⟩ := longest?_cases h
    refine ⟨r, rfl, ?_⟩
    rcases hcases with ⟨-, rfl, rfl⟩ | ⟨f, fs, rest, hr, hcases⟩
    · exact congrArg (fun d => [d]) Percent.decode?_nil
    · have hlt : rest.length < n := by
        have hle : rest.length ≤ r.length := by simpa only [hr] using length_fragments_le r
        rw [List.length_cons] at hn
        omega
      -- The first segment is one literal, in both cases.
      have hfirst : Segment.params (f :: fs) = [] := by
        rcases hcases with ⟨-, rfl, -⟩ | ⟨tail, -, rfl⟩
        · simpa [params] using hp
        · exact (List.append_eq_nil_iff.mp hp).1
      have hsegment : Segment.params (fragments r).1 = [] := by rw [hr]; exact hfirst
      rcases fragments_without_params hsegment with hnil | ⟨run, text, rest', hr', rfl, hslash, hd⟩
      · rw [hr] at hnil
        cases hnil
      · rw [hr] at hr'
        cases hr'
        have hfilled : Percent.decode? run = some (Segment.filled values [.literal text]) := by
          rw [hd]
          simp [Segment.filled, Fragment.filled]
        rcases hcases with ⟨-, rfl, rfl⟩ | ⟨tail, ht, rfl⟩
        · rw [List.append_nil, splitBy_slash hslash, List.map_singleton, hfilled]
          rfl
        · have htail : params tail = [] := (List.append_eq_nil_iff.mp hp).2
          obtain ⟨r', rfl, hpieces⟩ := ih _ hlt ht htail rfl
          rw [splitBy_append_cons (by decide), splitBy_slash hslash, List.map_append,
            List.map_singleton, hfilled, hpieces]
          rfl

end PathTemplate

end ApiBindings.Contract

namespace ApiBindings.TypeScript
open Model (Operation)
open Contract (Fragment Segment PathTemplate)
open Text

/-- What functions give for a text, and the texts that variables have as properties. -/
structure Scope where
  call (function argument : String) : Option String
  property (variableName key : String) : Option String

mutual

/-- The text that an expression evaluates to in a scope, if it evaluates to one. -/
def Expr.value? (scope : Scope) : Expr → Option String
  | .string value => some value
  | .template parts => partsValue? scope parts
  | .property variableName key => scope.property variableName key
  | .call function arg => (arg.value? scope).bind (scope.call function)
  | .object _ => none

def partsValue? (scope : Scope) : List TemplatePart → Option String
  | [] => some ""
  | .text text :: rest => (partsValue? scope rest).map (text ++ ·)
  | .hole value :: rest =>
    (value.value? scope).bind fun text => (partsValue? scope rest).map (text ++ ·)

end

/-- The texts around the holes of a template literal: one before each hole, and one at the end. -/
def textRuns : List TemplatePart → List String
  | [] => [""]
  | .text text :: rest =>
    match textRuns rest with
    | [] => [text]
    | run :: runs => (text ++ run) :: runs
  | .hole _ :: rest => "" :: textRuns rest

/-- The text stands for itself inside a template literal: nothing in it ends the literal, is an
escape or opens a hole. -/
def IsVerbatim (s : String) : Prop :=
  '`' ∉ s.toList ∧ '\\' ∉ s.toList ∧ ¬ ['$', '\x7b'] <:+: s.toList

/-- What is assumed of the function that encodes parameters. -/
structure EncodesComponents (encode : String → String) : Prop where
  no_slash (x : String) : '/' ∉ (encode x).toList
  decodes (x : String) : Percent.decode? (encode x).toList = some x
  escaped (x : String) : Percent.Escaped (encode x).toList

def requestScope (encode values : String → String) : Scope where
  call function argument := if function = "encodeURIComponent" then some (encode argument) else none
  property variableName key := if variableName = "req" then some (values key) else none

section Pieces

variable (encode values : String → String)

/-- What is written for a fragment once its parameter has a value. -/
def fragmentChars : Fragment → List Char
  | .literal text => Percent.encode isEncodedInPath text.toList
  | .param name => (encode (values name)).toList

def segmentChars (s : Segment) : List Char := s.flatMap (fragmentChars encode values)

theorem partsValue?_append (scope : Scope) (parts rest : List TemplatePart) :
    partsValue? scope (parts ++ rest) =
      (partsValue? scope parts).bind fun text => (partsValue? scope rest).map (text ++ ·) := by
  induction parts with
  | nil => simp [partsValue?]
  | cons part parts ih =>
    cases part with
    | text text =>
      rw [List.cons_append, partsValue?, partsValue?, ih]
      cases partsValue? scope parts <;> cases partsValue? scope rest <;>
        simp [String.append_assoc]
    | hole value =>
      rw [List.cons_append, partsValue?, partsValue?, ih]
      cases value.value? scope <;> cases partsValue? scope parts <;>
        cases partsValue? scope rest <;> simp [String.append_assoc]

theorem partsValue?_fragmentPart (f : Fragment) :
    partsValue? (requestScope encode values) [fragmentPart f] =
      some (String.ofList (fragmentChars encode values f)) := by
  cases f with
  | literal text => simp [fragmentPart, partsValue?, fragmentChars]
  | param name => simp [fragmentPart, partsValue?, Expr.value?, requestScope, fragmentChars]

theorem partsValue?_fragmentParts (s : Segment) :
    partsValue? (requestScope encode values) (s.map fragmentPart) =
      some (String.ofList (segmentChars encode values s)) := by
  induction s with
  | nil => rfl
  | cons f rest ih =>
    rw [List.map_cons, ← List.singleton_append, partsValue?_append, partsValue?_fragmentPart, ih]
    simp [segmentChars]

theorem partsValue?_template (template : PathTemplate) :
    partsValue? (requestScope encode values) (template.flatMap segmentParts) =
      some (String.ofList (template.flatMap fun s => '/' :: segmentChars encode values s)) := by
  induction template with
  | nil => rfl
  | cons s rest ih =>
    rw [List.flatMap_cons, partsValue?_append, ih, segmentParts, partsValue?,
      partsValue?_fragmentParts, List.flatMap_cons]
    simp [String.ofList_append, String.ofList_cons, String.append_assoc]

variable {encode}

theorem decode?_segmentChars (he : EncodesComponents encode) (s : Segment) :
    Percent.decode? (segmentChars encode values s) = some (Segment.filled values s) := by
  induction s with
  | nil => exact Percent.decode?_nil
  | cons f rest ih =>
    have hf : Percent.Escaped (fragmentChars encode values f) ∧
        Percent.decode? (fragmentChars encode values f) = some (f.filled values) := by
      cases f with
      | literal text =>
        exact ⟨Percent.escaped_encode (by decide) _, Percent.decode?_encode (by decide) text⟩
      | param name => exact ⟨he.escaped _, he.decodes _⟩
    have hfilled : Segment.filled values (f :: rest) =
        f.filled values ++ Segment.filled values rest := by
      simp [Segment.filled]
    rw [hfilled, segmentChars, List.flatMap_cons]
    exact Percent.decode?_append hf.1 hf.2 ih

theorem slash_not_mem_segmentChars (he : EncodesComponents encode) (s : Segment) :
    '/' ∉ segmentChars encode values s := by
  intro h
  obtain ⟨f, -, hf⟩ := List.mem_flatMap.mp h
  cases f with
  | literal text => exact Percent.not_mem_encode (by decide) (by decide) _ hf
  | param name => exact he.no_slash _ hf

end Pieces

/-- Texts without slashes are the pieces of the text that they make with slashes between them. -/
theorem splitBy_flatMap_slash (first : List Char) {pieces : List (List Char)} (hf : '/' ∉ first)
    (h : ∀ p ∈ pieces, '/' ∉ p) :
    splitBy (· != '/') (first ++ pieces.flatMap ('/' :: ·)) = first :: pieces := by
  induction pieces generalizing first with
  | nil => rw [List.flatMap_nil, List.append_nil, PathTemplate.splitBy_slash hf]
  | cons p pieces ih =>
    rw [List.flatMap_cons, List.cons_append, splitBy_append_cons (by decide),
      PathTemplate.splitBy_slash hf, ih p (h p (.head _)) fun q hq => h q (.tail _ hq)]
    rfl

theorem mem_part_of_mem_textRuns {parts : List TemplatePart} {run : String}
    (h : run ∈ textRuns parts) :
    ∀ c ∈ run.toList, ∃ text, .text text ∈ parts ∧ c ∈ text.toList := by
  intro c hc
  induction parts generalizing run with
  | nil =>
    obtain rfl := List.mem_singleton.mp h
    simp at hc
  | cons part rest ih =>
    have hrest {run : String} (hr : run ∈ textRuns rest) (hc : c ∈ run.toList) :
        ∃ text, .text text ∈ part :: rest ∧ c ∈ text.toList := by
      obtain ⟨text, ht, hc⟩ := ih hr hc
      exact ⟨text, .tail _ ht, hc⟩
    cases part with
    | hole value =>
      rcases List.mem_cons.mp h with rfl | h
      · simp at hc
      · exact hrest h hc
    | text text =>
      rw [textRuns] at h
      split at h
      · obtain rfl := List.mem_singleton.mp h
        exact ⟨_, .head _, hc⟩
      · next first runs hruns =>
        rcases List.mem_cons.mp h with rfl | h
        · -- The text was put before the run that follows it.
          rw [String.toList_append, List.mem_append] at hc
          rcases hc with hc | hc
          · exact ⟨_, .head _, hc⟩
          · exact hrest (hruns ▸ .head _) hc
        · exact hrest (hruns ▸ .tail _ h) hc

theorem not_mem_textRuns_template {c : Char} (hs : isEncodedInPath c = true)
    (he : c ∉ Percent.escapeChars) (hc : c ≠ '/') (template : PathTemplate) :
    ∀ run ∈ textRuns (template.flatMap segmentParts), c ∉ run.toList := by
  intro run hr hm
  obtain ⟨text, ht, hm⟩ := mem_part_of_mem_textRuns hr c hm
  obtain ⟨s, -, ht⟩ := List.mem_flatMap.mp ht
  cases ht with
  | head => exact hc (List.mem_singleton.mp hm)
  | tail _ ht =>
    obtain ⟨f, -, hf⟩ := List.mem_map.mp ht
    cases f with
    | param name => cases hf
    | literal text =>
      cases hf
      rw [String.toList_ofList] at hm
      exact Percent.not_mem_encode hs he _ hm

theorem isVerbatim_textRuns_template (template : PathTemplate) :
    ∀ run ∈ textRuns (template.flatMap segmentParts), IsVerbatim run := by
  intro run hr
  refine ⟨not_mem_textRuns_template (by decide) (by decide) (by decide) template run hr,
    not_mem_textRuns_template (by decide) (by decide) (by decide) template run hr, ?_⟩
  intro hopen
  apply not_mem_textRuns_template (c := '\x7b') (by decide) (by decide) (by decide) template run hr
  exact hopen.subset (.tail _ (.head _))

/-- The expression for the path of an operation is the path itself if it has no parameters, and
otherwise a template literal whose texts stand for themselves. Its value starts with a slash, and
the pieces between slashes decode to the segments of the template, parameters filled in. -/
theorem path_value_decodes_to_template (op : Operation)
    (h : PathTemplate.parse op.path = .ok op.template) {encode : String → String}
    (he : EncodesComponents encode) (values : String → String) :
    (∃ rest,
      (pathExpr op).value? (requestScope encode values) = some (String.ofList ('/' :: rest)) ∧
      (splitBy (· != '/') rest).map Percent.decode? =
        op.template.map fun s => some (s.filled values)) ∧
    (op.template.params = [] → pathExpr op = .string op.path) ∧
    (op.template.params ≠ [] →
      ∃ parts, pathExpr op = .template parts ∧ ∀ run ∈ textRuns parts, IsVerbatim run) := by
  unfold pathExpr
  by_cases hp : op.template.params = []
  · rw [hp]
    refine ⟨?_, fun _ => rfl, fun hne => absurd rfl hne⟩
    have hl : PathTemplate.longest? op.path.toList = some (op.template, []) := by
      unfold PathTemplate.parse at h
      split at h
      · next hl =>
        cases h
        exact hl
      · cases h
      · cases h
    obtain ⟨rest, hpath, hpieces⟩ := PathTemplate.longest?_pieces hl hp values
    refine ⟨rest, ?_, hpieces⟩
    rw [← hpath, String.ofList_toList]
    rfl
  · rw [if_neg (by simpa using hp)]
    refine ⟨?_, fun hnil => absurd hnil hp, fun _ => ⟨_, rfl, isVerbatim_textRuns_template _⟩⟩
    cases ht : op.template with
    | nil => exact absurd (by rw [ht]; rfl) hp
    | cons s rest =>
      refine ⟨segmentChars encode values s ++
        (rest.map (segmentChars encode values)).flatMap ('/' :: ·), ?_, ?_⟩
      · rw [Expr.value?, partsValue?_template, List.flatMap_cons, List.flatMap_map]
        rfl
      · rw [splitBy_flatMap_slash _ (slash_not_mem_segmentChars values he s), List.map_cons,
          List.map_cons, decode?_segmentChars values he, List.map_map]
        · congr 1
          apply List.map_congr_left
          intro s _
          exact decode?_segmentChars values he s
        · intro p hp
          obtain ⟨s, -, rfl⟩ := List.mem_map.mp hp
          exact slash_not_mem_segmentChars values he s

def isUnreserved (c : Char) : Bool := c.isAlphanum || "-_.!~*'()".toList.contains c

def encodeComponent (s : String) : String :=
  String.ofList (Percent.encode (fun c => !isUnreserved c) s.toList)

theorem encodesComponents_encodeComponent : EncodesComponents encodeComponent where
  no_slash x := by
    rw [encodeComponent, String.toList_ofList]
    exact Percent.not_mem_encode (by decide) (by decide) _
  decodes x := by
    rw [encodeComponent, String.toList_ofList]
    exact Percent.decode?_encode (by decide) x
  escaped x := by
    rw [encodeComponent, String.toList_ofList]
    exact Percent.escaped_encode (by decide) _

/-- Fetches a file, from a path with an encoded slash and a `$` before its parameter. -/
def fetchFile : Operation :=
  { path := "/a%2Fb/50%25-$\x7bname\x7d/"
    template := [[.literal "a/b"], [.literal "50%-$", .param "name"], []]
    id := "fetchFile", summary := none, method := .get, request := "FetchFileRequest"
    response := none, pathParams := ["name"], queryParams := [], hasBody := false }

/-- The slash in the file's name stays in its piece. -/
theorem fetchFile_value_decodes :
    PathTemplate.parse fetchFile.path = .ok fetchFile.template ∧
      EncodesComponents encodeComponent ∧
      ∃ rest, (pathExpr fetchFile).value? (requestScope encodeComponent fun _ => "x/y%") =
          some (String.ofList ('/' :: rest)) ∧
        (splitBy (· != '/') rest).map Percent.decode? =
          [some "a/b", some "50%-$x/y%", some ""] := by
  have hl : PathTemplate.longest? fetchFile.path.toList = some (fetchFile.template, []) := by
    decide +kernel
  have hparse : PathTemplate.parse fetchFile.path = .ok fetchFile.template := by
    rw [PathTemplate.parse, hl]
  obtain ⟨⟨rest, hvalue, hpieces⟩, -, -⟩ := path_value_decodes_to_template fetchFile hparse
    encodesComponents_encodeComponent fun _ => "x/y%"
  exact ⟨hparse, encodesComponents_encodeComponent, rest, hvalue, hpieces⟩

end ApiBindings.TypeScript
