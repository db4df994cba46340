import ApiBindings.Command.Run
import ApiBindings.Proofs.Keyed
import ApiBindings.Proofs.Resolving

namespace ApiBindings.Command
open Contract (Document)
open Model (Api)

def childPlace (place : Place) (name : String) : Place :=
  if name = "." then place else if name = ".." then place.tail else name :: place

/-- Regular files after some have been set in a directory. -/
def putFiles (directory : Place) (written : List (String × String))
    (files : List (Place × String)) : List (Place × String) :=
  written.foldl (fun files f => insertEntry files (f.1 :: directory) f.2) files

section PutFiles

variable {directory : Place} {written : List (String × String)} {files : List (Place × String)}

theorem putFiles_cons (f : String × String) :
    putFiles directory (f :: written) files =
      putFiles directory written (insertEntry files (f.1 :: directory) f.2) := rfl

theorem lookup_putFiles_of_not_mem {place : Place} (h : ∀ f ∈ written, place ≠ f.1 :: directory) :
    (putFiles directory written files).lookup place = files.lookup place := by
  induction written generalizing files with
  | nil => rfl
  | cons f written ih =>
    rw [List.forall_mem_cons] at h
    rw [putFiles_cons, ih h.2, lookup_insertEntry, if_neg h.1]

theorem lookup_putFiles_of_mem (hn : (written.map Prod.fst).Nodup) {f : String × String}
    (hf : f ∈ written) :
    (putFiles directory written files).lookup (f.1 :: directory) = some f.2 := by
  induction written generalizing files with
  | nil => cases hf
  | cons g written ih =>
    rw [List.map_cons, List.nodup_cons] at hn
    rw [putFiles_cons]
    rcases List.mem_cons.mp hf with rfl | hf
    · rw [lookup_putFiles_of_not_mem, lookup_insertEntry, if_pos rfl]
      intro g hg he
      rw [List.cons.injEq] at he
      exact hn.1 (List.mem_map.mpr ⟨g, hg, he.1.symm⟩)
    · exact ih hn.2 hf

end PutFiles

namespace FileTree

/-- The place of a directory, whether it is there or still to be made. -/
def placeOf (t : FileTree) (path : String) : Place :=
  (pathNames path).foldl childPlace (t.start path)

theorem placeOf_congr {t t' : FileTree} (h : t'.home = t.home) (path : String) :
    t'.placeOf path = t.placeOf path := by
  rw [placeOf, placeOf, start, start, h]

section Set

variable {t : FileTree} {place : Place}

theorem files_cons_file (text : String) (entries : List (Place × Entry)) (home : Place) :
    files ⟨(place, .file text) :: entries, home⟩ = (place, text) :: files ⟨entries, home⟩ := rfl

theorem files_cons_directory (entries : List (Place × Entry)) (home : Place) :
    files ⟨(place, .directory) :: entries, home⟩ = files ⟨entries, home⟩ := rfl

/-- A file is set among the regular files, unless a directory is there. -/
theorem files_set_file (h : t.find? place ≠ some .directory) (text : String) :
    (t.set place (.file text)).files = insertEntry t.files place text := by
  obtain ⟨entries, home⟩ := t
  -- The file takes the position of the entry before it, which is a file's own only if it was one.
  have hlookup : entries.lookup place ≠ some .directory := by
    intro hl
    apply h
    rw [find?, hl, ite_self]
  clear h
  change files ⟨insertEntry entries place (.file text), home⟩ = _
  induction entries with
  | nil => rfl
  | cons e entries ih =>
    obtain ⟨p, entry⟩ := e
    by_cases hp : p = place
    · subst hp
      cases entry with
      | file old =>
        rw [insertEntry, if_pos rfl, files_cons_file, files_cons_file, insertEntry, if_pos rfl]
      | directory => simp at hlookup
    · have hne : (place == p) = false := by simpa using Ne.symm hp
      rw [List.lookup_cons, hne] at hlookup
      rw [insertEntry, if_neg hp]
      cases entry with
      | file old => rw [files_cons_file, files_cons_file, insertEntry, if_neg hp, ih hlookup]
      | directory => rw [files_cons_directory, files_cons_directory, ih hlookup]

theorem files_set_directory (h : t.find? place = none) :
    (t.set place .directory).files = t.files := by
  obtain ⟨entries, home⟩ := t
  have hlookup : entries.lookup place = none := by
    rw [find?] at h
    split at h
    · cases h
    · exact h
  have hnew : place ∉ entries.map Prod.fst := by
    intro hm
    obtain ⟨e, he, rfl⟩ := List.mem_map.mp hm
    rw [List.lookup_eq_none_iff] at hlookup
    simpa using hlookup e he
  change files ⟨insertEntry entries place .directory, home⟩ = _
  rw [insertEntry_of_not_mem hnew, files, files, List.filterMap_append]
  simp

end Set

/-- What is left of regular files and of the working directory by some steps that change neither. -/
def SameFiles (t t' : FileTree) : Prop := t'.files = t.files ∧ t'.home = t.home

theorem step_eq_ok {t : FileTree} {place place' : Place} {name : String}
    (h : t.step place name = .ok place') : place' = childPlace place name := by
  unfold step at h
  split at h
  · cases h
  · cases h
  · cases h
    rfl

theorem enter_sameFiles (t : FileTree) (place : Place) (name : String) :
    SameFiles t (enter (t, place) name).1 ∧
      ∀ place', (enter (t, place) name).2 = .ok place' → place' = childPlace place name := by
  unfold enter
  split
  · exact ⟨⟨rfl, rfl⟩, fun _ h => by cases h⟩
  · next next hstep =>
    have hnext := step_eq_ok hstep
    split
    · exact ⟨⟨rfl, rfl⟩, fun _ h => by cases h; exact hnext⟩
    · exact ⟨⟨rfl, rfl⟩, fun _ h => by cases h⟩
    · next hnone => exact ⟨⟨files_set_directory hnone, rfl⟩, fun _ h => by cases h; exact hnext⟩

theorem enterAll_sameFiles (t : FileTree) (place : Place) (names : List String) :
    SameFiles t (t.enterAll place names).1 ∧ ∀ place',
      (t.enterAll place names).2 = .ok place' → place' = names.foldl childPlace place := by
  induction names generalizing t place with
  | nil => exact ⟨⟨rfl, rfl⟩, fun _ h => by cases h; rfl⟩
  | cons name rest ih =>
    obtain ⟨hsame, hplace⟩ := enter_sameFiles t place name
    unfold enterAll
    split
    · next t' e he =>
      rw [he] at hsame
      exact ⟨hsame, fun _ h => by cases h⟩
    · next t' next he =>
      rw [he] at hsame hplace
      obtain ⟨hsame', hplace'⟩ := ih t' next
      refine ⟨⟨hsame'.1.trans hsame.1, hsame'.2.trans hsame.2⟩, fun place' h => ?_⟩
      rw [hplace' place' h, hplace next rfl]
      rfl

/-- A write sets its file in the directory, or fails and leaves all regular files as they were. -/
theorem write_cases (t : FileTree) (directory name text : String) :
    (∃ t', t.write directory name text = (t', .ok ()) ∧ t'.home = t.home ∧
        t'.files = insertEntry t.files (name :: t.placeOf directory) text) ∨
      ∃ t' e, t.write directory name text = (t', .error e) ∧ t'.files = t.files := by
  have hall := enterAll_sameFiles t (t.start directory) (pathNames directory)
  unfold write
  split
  · next t' e he =>
    rw [he] at hall
    exact .inr ⟨t', e, rfl, hall.1.1⟩
  · next t' place he =>
    rw [he] at hall
    obtain ⟨⟨hfiles, hhome⟩, hplace⟩ := hall
    obtain rfl : place = t.placeOf directory := hplace place rfl
    split
    · exact .inr ⟨t', .isDirectory, rfl, hfiles⟩
    · next hdir => exact .inl ⟨_, rfl, hhome, by rw [files_set_file hdir, hfiles]⟩

end FileTree

/-- From any session with the given tree the first program goes on as the second, with the same
tree. -/
def ContinuesAs (tree : FileTree) (m m' : StateM Session Exit) : Prop :=
  ∀ s : Session, s.tree = tree → ∃ s' : Session, s'.tree = tree ∧ m.run s = m'.run s'

namespace ContinuesAs

variable {tree : FileTree} {m m' m'' : StateM Session Exit}

theorem refl (m : StateM Session Exit) : ContinuesAs tree m m := fun s hs => ⟨s, hs, rfl⟩

theorem trans (h : ContinuesAs tree m m') (h' : ContinuesAs tree m' m'') :
    ContinuesAs tree m m'' := by
  intro s hs
  obtain ⟨s', hs', he⟩ := h s hs
  obtain ⟨s'', hs'', he'⟩ := h' s' hs'
  exact ⟨s'', hs'', he.trans he'⟩

theorem say (line : String) (h : ContinuesAs tree m m') :
    ContinuesAs tree (Host.say line >>= fun _ => m) m' :=
  fun s hs => h { s with output := s.output ++ line ++ "\n" } hs

theorem complain (line : String) (h : ContinuesAs tree m m') :
    ContinuesAs tree (Host.complain line >>= fun _ => m) m' :=
  fun s hs => h { s with errors := s.errors ++ line ++ "\n" } hs

theorem warn (warnings : List Model.Warning) (h : ContinuesAs tree m m') :
    ContinuesAs tree
      ((warnings.forM fun w => Host.complain (warningText w)) >>= fun _ => m) m' := by
  induction warnings with
  | nil => exact h
  | cons w rest ih => exact complain (warningText w) ih

theorem read {path : String} {f : Except FileError String → StateM Session Exit}
    (h : ContinuesAs tree (f (tree.read path)) m') :
    ContinuesAs tree (Host.read path >>= f) m' := by
  intro s hs
  subst hs
  exact h s rfl

theorem fail (text : String) : ContinuesAs tree (fail text) (pure .failure) :=
  complain _ (refl _)

end ContinuesAs

/-- The arguments ask for files, and they and the settings say which. -/
def Configured (args : List String) (tree : FileTree) (job : Job) : Prop :=
  ∃ options settings, Invocation.parse args = .ok (.codegen options) ∧
    settingsOf (joinPath options.output settingsName)
      (tree.read (joinPath options.output settingsName)) = .ok settings ∧
    job = Job.of options settings

def Decoded (args : List String) (tree : FileTree) (job : Job) (doc : Document) : Prop :=
  Configured args tree job ∧ ∃ source, tree.read job.input = .ok source ∧
    readDocument job.input source = .ok doc

/-- The contract has been resolved as well, and its files can be rendered. -/
def Resolved (args : List String) (tree : FileTree) (job : Job) (api : Api) : Prop :=
  ∃ doc, Decoded args tree job doc ∧ ∃ ws, (Api.resolve doc job.maxDepth).Yields api ws

/-- A run that ends before it has anything to write, and how it does. -/
inductive EndsEarly (args : List String) (tree : FileTree) : Exit → Prop
  | version (h : Invocation.parse args = .ok .version) : EndsEarly args tree .success
  | help {topic : HelpTopic} (h : Invocation.parse args = .ok (.help topic)) :
    EndsEarly args tree .success
  | arguments {e : UsageError} (h : Invocation.parse args = .error e) : EndsEarly args tree .usage
  | settings {options : Options} {reason : String}
      (ho : Invocation.parse args = .ok (.codegen options))
      (h : settingsOf (joinPath options.output settingsName)
        (tree.read (joinPath options.output settingsName)) = .error reason) :
    EndsEarly args tree .usage
  | reading {job : Job} {e : FileError} (hc : Configured args tree job)
      (h : tree.read job.input = .error e) : EndsEarly args tree .failure
  | decoding {job : Job} {source reason : String} (hc : Configured args tree job)
      (hs : tree.read job.input = .ok source)
      (h : readDocument job.input source = .error reason) : EndsEarly args tree .failure
  | resolving {job : Job} {doc : Document} {e : Model.ResolveError}
      (hd : Decoded args tree job doc) (h : (Api.resolve doc job.maxDepth).FailsWith e) :
    EndsEarly args tree .failure

theorem endsEarly_or_resolved (args : List String) (tree : FileTree) :
    (∃ exit, EndsEarly args tree exit) ∨ ∃ job api, Resolved args tree job api := by
  cases hi : Invocation.parse args with
  | error e => exact .inl ⟨_, .arguments hi⟩
  | ok invocation =>
    cases invocation with
    | version => exact .inl ⟨_, .version hi⟩
    | help topic => exact .inl ⟨_, .help hi⟩
    | codegen options =>
      cases hs : settingsOf (joinPath options.output settingsName)
          (tree.read (joinPath options.output settingsName)) with
      | error reason => exact .inl ⟨_, .settings hi hs⟩
      | ok settings =>
        have hc : Configured args tree (Job.of options settings) := ⟨options, settings, hi, hs, rfl⟩
        cases hr : tree.read (Job.of options settings).input with
        | error e => exact .inl ⟨_, .reading hc hr⟩
        | ok source =>
          cases hd : readDocument (Job.of options settings).input source with
          | error reason => exact .inl ⟨_, .decoding hc hr hd⟩
          | ok doc =>
            have hdoc : Decoded args tree (Job.of options settings) doc := ⟨hc, source, hr, hd⟩
            have hresolve := Model.Resolving.yields_or_failsWith
              (Api.resolve doc (Job.of options settings).maxDepth)
            rcases hresolve with ⟨api, ws, ha⟩ | ⟨e, he⟩
            · exact .inr ⟨_, api, doc, hdoc, ws, ha⟩
            · exact .inl ⟨_, .resolving hdoc he⟩

section Phases

variable {args : List String} {tree : FileTree} {job : Job} {doc : Document} {api : Api}

theorem Configured.continuesAs (h : Configured args tree job) :
    ContinuesAs tree (run args) (runJob job) := by
  obtain ⟨options, settings, ho, hs, rfl⟩ := h
  unfold run
  rw [ho]
  refine .read ?_
  rw [hs]
  exact .refl _

theorem Decoded.continuesAs (h : Decoded args tree job doc) :
    ContinuesAs tree (run args) (generate job doc) := by
  obtain ⟨hc, source, hr, hd⟩ := h
  refine hc.continuesAs.trans (.read ?_)
  rw [hr]
  dsimp only
  rw [hd]
  exact .refl _

theorem Resolved.continuesAs (h : Resolved args tree job api) :
    ContinuesAs tree (run args) (writeFiles job.output (TypeScript.files api job.client)) := by
  obtain ⟨doc, hd, ws, ha⟩ := h
  refine hd.continuesAs.trans (.say _ ?_)
  rw [ha]
  exact .warn ws (.say _ (.say _ (.refl _)))

theorem EndsEarly.continuesAs {exit : Exit} (h : EndsEarly args tree exit) :
    ContinuesAs tree (run args) (pure exit) := by
  cases h with
  | version h =>
    unfold run
    rw [h]
    exact .say _ (.refl _)
  | help h =>
    unfold run
    rw [h]
    exact .say _ (.refl _)
  | arguments h =>
    unfold run
    rw [h]
    exact .complain _ (.refl _)
  | settings ho h =>
    unfold run
    rw [ho]
    refine .read ?_
    rw [h]
    exact .complain _ (.refl _)
  | reading hc h =>
    refine hc.continuesAs.trans (.read ?_)
    rw [h]
    exact .fail _
  | decoding hc hs h =>
    refine hc.continuesAs.trans (.read ?_)
    rw [hs]
    dsimp only
    rw [h]
    exact .fail _
  | resolving hd h =>
    refine hd.continuesAs.trans (.say _ ?_)
    rw [h]
    exact .fail _

theorem EndsEarly.runOn_eq {exit : Exit} (h : EndsEarly args tree exit) :
    (runOn args tree).1 = exit ∧ (runOn args tree).2.tree = tree := by
  obtain ⟨s, hs, hrun⟩ := h.continuesAs { tree } rfl
  rw [runOn, hrun]
  exact ⟨rfl, hs⟩

end Phases

/-- The first `k` of some files have been set in a directory, in the order given, and nothing else.
Those are all of them if the run succeeds; otherwise the next one could not be written. -/
structure WrittenUpTo (k : Nat) (output : String) (files : List (String × String))
    (before after : FileTree) (exit : Exit) : Prop where
  le : k ≤ files.length
  put : after.files = putFiles (before.placeOf output) (files.take k) before.files
  all : exit = .success ↔ k = files.length
  next : k < files.length → exit = .failure ∧
    ∃ (f : String × String) (mid : FileTree) (e : FileError), files[k]? = some f ∧
      mid.files = putFiles (before.placeOf output) (files.take k) before.files ∧
      mid.write output f.1 f.2 = (after, .error e)

theorem WrittenUpTo.cons {k : Nat} {output : String} {f : String × String}
    {rest : List (String × String)} {before mid after : FileTree} {exit : Exit}
    (hhome : mid.home = before.home)
    (hmid : mid.files = insertEntry before.files (f.1 :: before.placeOf output) f.2)
    (h : WrittenUpTo k output rest mid after exit) :
    WrittenUpTo (k + 1) output (f :: rest) before after exit := by
  have hplace := FileTree.placeOf_congr hhome output
  have hput : putFiles (mid.placeOf output) (rest.take k) mid.files =
      putFiles (before.placeOf output) ((f :: rest).take (k + 1)) before.files := by
    rw [hplace, hmid, List.take_succ_cons, putFiles_cons]
  refine ⟨Nat.succ_le_succ h.le, h.put.trans hput, ?_, fun hlt => ?_⟩
  · rw [h.all, List.length_cons, Nat.succ_inj]
  · obtain ⟨hexit, g, t, e, hg, ht, hw⟩ := h.next (Nat.lt_of_succ_lt_succ hlt)
    exact ⟨hexit, g, t, e, hg, ht.trans hput, hw⟩

section WriteFiles

variable {output name text : String} {s : Session} {t : FileTree}

theorem run_say (line : String) (m : StateM Session Exit) :
    (Host.say line >>= fun _ => m).run s =
      m.run { s with output := s.output ++ line ++ "\n" } := rfl

theorem run_write (m : Except FileError Unit → StateM Session Exit) :
    (Host.write output name text >>= m).run s =
      (m (s.tree.write output name text).2).run
        { s with tree := (s.tree.write output name text).1 } := rfl

theorem writeFiles_of_written (rest : List (String × String))
    (hw : s.tree.write output name text = (t, .ok ())) :
    ∃ s' : Session, s'.tree = t ∧
      (writeFiles output ((name, text) :: rest) : StateM Session Exit).run s =
        (writeFiles output rest : StateM Session Exit).run s' := by
  rw [writeFiles, run_say, run_write]
  dsimp only
  rw [hw]
  exact ⟨_, rfl, rfl⟩

theorem writeFiles_of_not_written (rest : List (String × String)) {e : FileError}
    (hw : s.tree.write output name text = (t, .error e)) :
    ∃ s' : Session, s'.tree = t ∧
      (writeFiles output ((name, text) :: rest) : StateM Session Exit).run s = (.failure, s') := by
  rw [writeFiles, run_say, run_write]
  dsimp only
  rw [hw]
  exact ContinuesAs.fail _ _ rfl

end WriteFiles

theorem writeFiles_writtenUpTo (output : String) (files : List (String × String)) (s : Session) :
    ∃ k, WrittenUpTo k output files s.tree
      ((writeFiles output files : StateM Session Exit).run s).2.tree
      ((writeFiles output files : StateM Session Exit).run s).1 := by
  induction files generalizing s with
  | nil => exact ⟨0, Nat.le_refl 0, rfl, iff_of_true rfl rfl, fun h => by cases h⟩
  | cons f rest ih =>
    rcases s.tree.write_cases output f.1 f.2 with ⟨t, hw, hhome, hfiles⟩ | ⟨t, e, hw, hfiles⟩
    · obtain ⟨s', rfl, hrun⟩ := writeFiles_of_written rest hw
      obtain ⟨k, hk⟩ := ih s'
      rw [hrun]
      exact ⟨k + 1, hk.cons hhome hfiles⟩
    · obtain ⟨s', rfl, hrun⟩ := writeFiles_of_not_written rest hw
      rw [hrun]
      refine ⟨0, Nat.zero_le _, hfiles, iff_of_false (fun h => by cases h) (by simp), fun _ => ?_⟩
      exact ⟨rfl, f, s.tree, e, rfl, rfl, hw⟩

theorem map_fst_files (api : Api) (client : Bool) :
    (TypeScript.files api client).map Prod.fst =
      ["schemas.ts"] ++ (if client then ["client.ts"] else []) ++ ["index.ts", "version"] := by
  cases client <;> rfl

theorem nodup_names_files (api : Api) (client : Bool) :
    ((TypeScript.files api client).map Prod.fst).Nodup := by
  rw [map_fst_files]
  cases client <;> decide

/-- A run that does not get as far as rendering leaves the tree alone. One that does sets the first
files it has rendered, in their order and under the output directory, and no other file; it fails
only if the next one cannot be written. -/
theorem run_two_phase (args : List String) (tree : FileTree) :
    ((∃ exit, EndsEarly args tree exit) ∨ ∃ job api, Resolved args tree job api) ∧
      (∀ exit, EndsEarly args tree exit →
        (runOn args tree).1 = exit ∧ (runOn args tree).2.tree = tree) ∧
      ∀ job api, Resolved args tree job api →
        (TypeScript.files api job.client).map Prod.fst =
          ["schemas.ts"] ++ (if job.client then ["client.ts"] else []) ++ ["index.ts", "version"] ∧
        ∃ k, WrittenUpTo k job.output (TypeScript.files api job.client) tree
            (runOn args tree).2.tree (runOn args tree).1 ∧
          (∀ f ∈ (TypeScript.files api job.client).take k,
            (runOn args tree).2.tree.files.lookup (f.1 :: tree.placeOf job.output) = some f.2) ∧
          ∀ place, (∀ f ∈ (TypeScript.files api job.client).take k,
              place ≠ f.1 :: tree.placeOf job.output) →
            (runOn args tree).2.tree.files.lookup place = tree.files.lookup place := by
  refine ⟨endsEarly_or_resolved args tree, fun exit h => h.runOn_eq, ?_⟩
  intro job api h
  have hnames := map_fst_files api job.client
  obtain ⟨s, rfl, hrun⟩ := h.continuesAs { tree } rfl
  obtain ⟨k, hk⟩ := writeFiles_writtenUpTo job.output (TypeScript.files api job.client) s
  rw [← hrun] at hk
  refine ⟨hnames, k, hk, ?_, ?_⟩
  · intro f hf
    have hn : (((TypeScript.files api job.client).take k).map Prod.fst).Nodup := by
      rw [List.map_take]
      exact (nodup_names_files api job.client).sublist (List.take_sublist k _)
    rw [runOn, hk.put]
    exact lookup_putFiles_of_mem hn hf
  · intro place hplace
    rw [runOn, hk.put]
    exact lookup_putFiles_of_not_mem hplace

def notesContract : String :=
  "\x7b\"openapi\": \"3.0.0\", \"info\": \x7b\"title\": \"Notes\", \"version\": \"2\"\x7d, "
    ++ "\"components\": \x7b\"schemas\": \x7b\"Tag\": \x7b\"type\": \"string\"\x7d\x7d\x7d\x7d"

/-- A contract beside an output directory in which a directory has the name of a file. -/
def blockedTree : FileTree where
  entries := [(["api.json"], .file notesContract), (["out"], .directory),
    (["version", "out"], .directory)]

def blockedArgs : List String := ["codegen", "api.json", "out", "--no-client"]

/-- The version cannot be written, and the files before it stay. -/
theorem blocked_run_writes_some :
    ∃ job api k, Resolved blockedArgs blockedTree job api ∧ 0 < k ∧
      k < (TypeScript.files api job.client).length ∧
      WrittenUpTo k job.output (TypeScript.files api job.client) blockedTree
        (runOn blockedArgs blockedTree).2.tree (runOn blockedArgs blockedTree).1 := by
  have hexit : (runOn blockedArgs blockedTree).1 = .failure := by decide +kernel
  have hfiles : (runOn blockedArgs blockedTree).2.tree.files ≠ blockedTree.files := by
    decide +kernel
  obtain ⟨hends, hearly, hwrites⟩ := run_two_phase blockedArgs blockedTree
  rcases hends with ⟨exit, he⟩ | ⟨job, api, h⟩
  · exact absurd (congrArg FileTree.files (hearly exit he).2) hfiles
  · obtain ⟨-, k, hk, -, -⟩ := hwrites job api h
    refine ⟨job, api, k, h, Nat.pos_of_ne_zero ?_, Nat.lt_of_le_of_ne hk.le ?_, hk⟩
    · rintro rfl
      exact hfiles hk.put
    · intro hall
      rw [hk.all.mpr hall] at hexit
      cases hexit

def notesTree : FileTree where
  entries := [(["api.json"], .file notesContract)]

/-- A question beside the arguments of the subcommand is answered with success, and no file is set,
though the same arguments without it set some. -/
theorem questioned_run_writes_nothing :
    (runOn ["codegen", "api.json", "out"] notesTree).1.code = 0 ∧
    (runOn ["codegen", "api.json", "out"] notesTree).2.tree.files ≠ notesTree.files ∧
    ∀ args ∈ [["codegen", "api.json", "out", "--help"], ["-V", "codegen", "api.json", "out"]],
      (runOn args notesTree).1.code = 0 ∧
      (runOn args notesTree).2.tree.files = notesTree.files ∧
      ¬ ∃ api client, (runOn args notesTree).2.tree.files = putFiles (notesTree.placeOf "out")
        (TypeScript.files api client) notesTree.files := by
  have hplain : (runOn ["codegen", "api.json", "out"] notesTree).1.code = 0 ∧
      (runOn ["codegen", "api.json", "out"] notesTree).2.tree.files ≠ notesTree.files := by
    decide +kernel
  have hunset : notesTree.files.lookup ("schemas.ts" :: notesTree.placeOf "out") = none := by
    decide +kernel
  refine ⟨hplain.1, hplain.2, fun args hargs => ?_⟩
  have hasked : EndsEarly args notesTree .success := by
    simp only [List.mem_cons, List.not_mem_nil, or_false] at hargs
    rcases hargs with rfl | rfl
    · exact .help (by decide +kernel : Invocation.parse _ = .ok (.help .codegen))
    · exact .version (by decide +kernel)
  obtain ⟨hexit, htree⟩ := hasked.runOn_eq
  refine ⟨by rw [hexit]; rfl, by rw [htree], ?_⟩
  rintro ⟨api, client, hput⟩
  rw [htree] at hput
  have hset : ∃ text, ("schemas.ts", text) ∈ TypeScript.files api client := ⟨_, .head _⟩
  obtain ⟨text, hmem⟩ := hset
  rw [hput, lookup_putFiles_of_mem (nodup_names_files api client) hmem] at hunset
  cases hunset

end ApiBindings.Command
