import ApiBindings.Number.Decimal
import ApiBindings.Proofs.CommentText
import ApiBindings.Yaml.Scalars

/-!
How the text of a type is read: brackets bind tighter than `&`, and `&` binds tighter than `|`.
Words, literals and marks are read one after another, without looking ahead, and what is not
finished yet waits on a stack. Type arguments and function types are not read.
-/
namespace ApiBindings.TypeScript

/-- A type without parentheses and comments, in which numbers are told by their spelling. -/
inductive TypeTree where
  | keyword (word : Keyword)
  | string (value : String)
  | number (spelling : List Char)
  | bool (value : Bool)
  | named (path : List String)
  | generic (name : String) (args : List TypeTree)
  | array (item : TypeTree)
  | union (members : List TypeTree)
  | intersection (members : List TypeTree)
  | object (fields : List (String × Bool × TypeTree))
  | function (params : List (String × TypeTree)) (result : TypeTree)

/-- One type is left as it is, and others are put together. -/
def joined (make : List TypeTree → TypeTree) : List TypeTree → TypeTree
  | [t] => t
  | ts => make ts

section Words

/-- Words that are types of their own, unless a point follows. -/
def predefinedTypes : List String :=
  ["any", "unknown", "string", "number", "bigint", "symbol", "boolean", "undefined", "never",
   "object"]

/-- Words with which a type of another form begins. -/
def leadingWords : List String :=
  ["void", "null", "true", "false", "this", "typeof", "import", "new", "keyof", "unique",
   "readonly", "infer"]

/-- Is the name, given by its parts, read as the name of a declared type? -/
def isReference (path : List String) : Bool :=
  path.all Text.isIdentifier &&
    match path with
    | [] => false
    | [word] => !leadingWords.contains word && !predefinedTypes.contains word
    | word :: _ => !leadingWords.contains word

def keywordTree? (word : String) : Option TypeTree :=
  if word = "true" then some (.bool true)
  else if word = "false" then some (.bool false)
  else
    ([.string, .number, .boolean, .null, .never, .unknown, .any, .void].find? fun k =>
      Keyword.text k = word).map .keyword

def wordTree? (path : List String) : Option TypeTree :=
  if isReference path then some (.named path)
  else match path with
    | [word] => keywordTree? word
    | _ => none

end Words

inductive Token where
  | mark (char : Char)
  /-- A word, or words with points between them. -/
  | word (path : List String)
  | string (value : String)
  | number (spelling : List Char)

section Lexemes

def readEscape? : List Char → Option (Char × List Char)
  | [] => none
  | c :: rest =>
    match c with
    | 'b' => some ('\x08', rest)
    | 'f' => some ('\x0c', rest)
    | 'n' => some ('\n', rest)
    | 'r' => some ('\r', rest)
    | 't' => some ('\t', rest)
    | 'v' => some ('\x0b', rest)
    | '0' => if rest.head?.any Char.isDigit then none else some ('\x00', rest)
    | 'x' => (Yaml.hexNumber? 2 rest).map fun code => (Char.ofNat code, rest.drop 2)
    | 'u' => (Yaml.hexNumber? 4 rest).map fun code => (Char.ofNat code, rest.drop 4)
    | c => if c.isDigit || c == '\n' || c == '\r' then none else some (c, rest)

def readChar? : List Char → Option (Char × List Char)
  | [] => none
  | c :: rest =>
    if c = '\\' then readEscape? rest else if c == '\n' || c == '\r' then none else some (c, rest)

theorem length_readEscape? {cs : List Char} {c : Char} {rest : List Char}
    (h : readEscape? cs = some (c, rest)) : rest.length < cs.length := by
  revert h
  fun_cases readEscape? cs <;> grind [Option.map_eq_some_iff]

theorem length_readChar? {cs : List Char} {c : Char} {rest : List Char}
    (h : readChar? cs = some (c, rest)) : rest.length < cs.length := by
  cases cs with
  | nil => cases h
  | cons d cs =>
    rw [readChar?] at h
    split at h
    · exact Nat.lt_succ_of_lt (length_readEscape? h)
    · split at h
      · cases h
      · cases h
        exact Nat.lt_succ_self _

def readLiteral? (quote : Char) (cs : List Char) : Option (List Char × List Char) :=
  if cs.head? = some quote then some ([], cs.tail)
  else
    match _h : readChar? cs with
    | none => none
    | some (c, rest) => (readLiteral? quote rest).map fun (value, after) => (c :: value, after)
termination_by cs.length
decreasing_by exact length_readChar? _h

def isMark (c : Char) : Bool := "|&()[]\x7b\x7d?:;".toList.contains c

def isRunPart (c : Char) : Bool := Text.isIdentifierPart c || c == '.' || c == '+' || c == '-'

def withoutMinus : List Char → List Char
  | '-' :: rest => rest
  | cs => cs

/-- A number, or else a word, which is divided at its points. -/
def runToken (run : List Char) : Token :=
  if (Number.magnitude? false (withoutMinus run)).isSome then .number run
  else .word ((Text.splitBy (· != '.') run).map String.ofList)

/-- What comes first in a text, and what follows it. Blanks and comments are no tokens. -/
def lexeme? : List Char → Option (Option Token × List Char)
  | [] => none
  | c :: rest =>
    if c == ' ' || c == '\n' then some (none, rest)
    else if isMark c then some (some (.mark c), rest)
    else if c == '/' then (readComment? (c :: rest)).map fun (_, after) => (none, after)
    else if c == '"' || c == '\'' then
      (readLiteral? c rest).map fun (value, after) => (some (.string (String.ofList value)), after)
    else if isRunPart c then
      some (some (runToken ((c :: rest).takeWhile isRunPart)), (c :: rest).dropWhile isRunPart)
    else none

theorem length_readLiteral? {quote : Char} {cs value rest : List Char} :
    readLiteral? quote cs = some (value, rest) → rest.length ≤ cs.length := by
  fun_induction readLiteral? quote cs generalizing value with
  | case1 cs hq =>
    rintro ⟨⟩
    rw [List.length_tail]
    omega
  | case2 => rintro ⟨⟩
  | case3 cs _ c after hc ih =>
    intro h
    obtain ⟨⟨inner, rest'⟩, hr, he⟩ := Option.map_eq_some_iff.mp h
    cases he
    exact Nat.le_trans (ih hr) (Nat.le_of_lt (length_readChar? hc))

theorem length_untilEndMark? {cs body rest : List Char} :
    untilEndMark? cs = some (body, rest) → rest.length ≤ cs.length := by
  fun_induction untilEndMark? cs generalizing body with
  | case1 => rintro ⟨⟩
  | case2 after =>
    rintro ⟨⟩
    exact Nat.le_add_right _ 2
  | case3 c after _ ih =>
    intro h
    obtain ⟨⟨inner, rest'⟩, hr, he⟩ := Option.map_eq_some_iff.mp h
    cases he
    exact Nat.le_succ_of_le (ih hr)

theorem length_readComment? {cs body rest : List Char} (h : readComment? cs = some (body, rest)) :
    rest.length < cs.length := by
  unfold readComment? at h
  split at h
  · next after => exact Nat.lt_succ_of_le (Nat.le_succ_of_le (length_untilEndMark? h))
  · cases h

theorem length_lexeme? {cs : List Char} {token : Option Token} {rest : List Char}
    (h : lexeme? cs = some (token, rest)) : rest.length < cs.length := by
  cases cs with
  | nil => cases h
  | cons c cs =>
    have hnext : cs.length < (c :: cs).length := Nat.lt_succ_self _
    rw [lexeme?] at h
    split at h
    · cases h
      exact hnext
    split at h
    · cases h
      exact hnext
    split at h
    · obtain ⟨⟨body, after⟩, hr, he⟩ := Option.map_eq_some_iff.mp h
      cases he
      exact length_readComment? hr
    split at h
    · obtain ⟨⟨value, after⟩, hr, he⟩ := Option.map_eq_some_iff.mp h
      cases he
      exact Nat.lt_of_le_of_lt (length_readLiteral? hr) hnext
    split at h
    · next hrun =>
      cases h
      rw [List.dropWhile_cons_of_pos hrun]
      exact Nat.lt_of_le_of_lt (List.dropWhile_suffix isRunPart).length_le hnext
    · cases h

end Lexemes

/-- What has been read of a type: the members of a union, then those of an intersection that is to
be the next of them, then an operand, which brackets may still follow. -/
structure Level where
  alternatives : List TypeTree := []
  factors : List TypeTree := []
  operand : Option TypeTree := none

namespace Level

def hold? (l : Level) (t : TypeTree) : Option Level :=
  if l.operand.isNone then some { l with operand := some t } else none

def product? (l : Level) : Option TypeTree :=
  l.operand.map fun t => joined .intersection (l.factors ++ [t])

def type? (l : Level) : Option TypeTree :=
  l.product?.map fun t => joined .union (l.alternatives ++ [t])

end Level

/-- What is around a type that is being read, from the inside out. -/
inductive Around where
  | nothing
  | parentheses (outer : Around) (level : Level)
  | field (outer : Around) (level : Level) (fields : List (String × Bool × TypeTree))
    (key : String) (optional : Bool)

inductive Stage where
  | type (around : Around) (level : Level)
  /-- Between the brackets behind an operand. -/
  | brackets (around : Around) (level : Level)
  /-- Between braces, before a key or the last brace. -/
  | fields (around : Around) (level : Level) (fields : List (String × Bool × TypeTree))
  | key (around : Around) (level : Level) (fields : List (String × Bool × TypeTree))
    (key : String) (optional : Bool)

def step : Stage → Token → Option Stage
  | .type around level, .word path => ((wordTree? path).bind level.hold?).map (.type around)
  | .type around level, .string value => (level.hold? (.string value)).map (.type around)
  | .type around level, .number spelling => (level.hold? (.number spelling)).map (.type around)
  | .type around level, .mark '|' =>
    level.product?.map fun t => .type around { alternatives := level.alternatives ++ [t] }
  | .type around level, .mark '&' =>
    level.operand.map fun t =>
      .type around { level with factors := level.factors ++ [t], operand := none }
  | .type around level, .mark '[' => level.operand.map fun _ => .brackets around level
  | .brackets around level, .mark ']' =>
    some (.type around { level with operand := level.operand.map .array })
  | .type around level, .mark '(' =>
    if level.operand.isNone then some (.type (.parentheses around level) {}) else none
  | .type (.parentheses around level) inner, .mark ')' =>
    (inner.type?.bind level.hold?).map (.type around)
  | .type around level, .mark '\x7b' =>
    if level.operand.isNone then some (.fields around level []) else none
  | .fields around level fields, .mark '\x7d' =>
    (level.hold? (.object fields)).map (.type around)
  | .fields around level fields, .word [key] =>
    if Text.isIdentifier key then some (.key around level fields key false) else none
  | .fields around level fields, .string key => some (.key around level fields key false)
  | .key around level fields key false, .mark '?' => some (.key around level fields key true)
  | .key around level fields key optional, .mark ':' =>
    some (.type (.field around level fields key optional) {})
  | .type (.field around level fields key optional) inner, .mark ';' =>
    inner.type?.map fun t => .fields around level (fields ++ [(key, optional, t)])
  | _, _ => none

def readFrom (stage : Stage) (cs : List Char) : Option Stage :=
  if cs.isEmpty then some stage
  else
    match _h : lexeme? cs with
    | none => none
    | some (none, rest) => readFrom stage rest
    | some (some token, rest) => (step stage token).bind fun next => readFrom next rest
termination_by cs.length
decreasing_by all_goals exact length_lexeme? _h

def Stage.finished? : Stage → Option TypeTree
  | .type .nothing level => level.type?
  | _ => none

def readType? (text : String) : Option TypeTree :=
  (readFrom (.type .nothing {}) text.toList).bind Stage.finished?

theorem readFrom_nil (stage : Stage) : readFrom stage [] = some stage := by
  rw [readFrom]
  rfl

theorem ne_nil_of_lexeme? {cs : List Char} {token : Option Token} {rest : List Char}
    (h : lexeme? cs = some (token, rest)) : cs.isEmpty = false := by
  cases cs with
  | nil => cases h
  | cons => rfl

theorem readFrom_skip {cs rest : List Char} (h : lexeme? cs = some (none, rest)) (stage : Stage) :
    readFrom stage cs = readFrom stage rest := by
  rw [readFrom, ne_nil_of_lexeme? h]
  grind

theorem readFrom_token {cs rest : List Char} {token : Token}
    (h : lexeme? cs = some (some token, rest)) (stage : Stage) :
    readFrom stage cs = (step stage token).bind fun next => readFrom next rest := by
  rw [readFrom, ne_nil_of_lexeme? h]
  grind

section Names

inductive TypeTree.Names (path : List String) : TypeTree → Prop
  | named : Names path (.named path)
  | array {item : TypeTree} (h : item.Names path) : Names path (.array item)
  | union {members : List TypeTree} {t : TypeTree} (ht : t ∈ members) (h : t.Names path) :
      Names path (.union members)
  | intersection {members : List TypeTree} {t : TypeTree} (ht : t ∈ members) (h : t.Names path) :
      Names path (.intersection members)
  | object {fields : List (String × Bool × TypeTree)} {f : String × Bool × TypeTree}
      (hf : f ∈ fields) (h : f.2.2.Names path) : Names path (.object fields)

/-- Every name in the type is one of a declared type. -/
def TypeTree.OnlyRefers (t : TypeTree) : Prop := ∀ path, t.Names path → isReference path = true

def Level.trees (l : Level) : List TypeTree := l.alternatives ++ l.factors ++ l.operand.toList

def Around.trees : Around → List TypeTree
  | .nothing => []
  | .parentheses outer level => outer.trees ++ level.trees
  | .field outer level fields _ _ => outer.trees ++ level.trees ++ fields.map fun f => f.2.2

/-- All that has been read and is not thrown away. -/
def Stage.trees : Stage → List TypeTree
  | .type around level => around.trees ++ level.trees
  | .brackets around level => around.trees ++ level.trees
  | .fields around level done => around.trees ++ level.trees ++ done.map fun f => f.2.2
  | .key around level done _ _ => around.trees ++ level.trees ++ done.map fun f => f.2.2

def AllRefer (ts : List TypeTree) : Prop := ∀ t ∈ ts, t.OnlyRefers

@[simp]
theorem allRefer_append {ts us : List TypeTree} :
    AllRefer (ts ++ us) ↔ AllRefer ts ∧ AllRefer us := List.forall_mem_append

@[simp]
theorem allRefer_nil : AllRefer [] := List.forall_mem_nil _

@[simp]
theorem allRefer_singleton {t : TypeTree} : AllRefer [t] ↔ t.OnlyRefers :=
  List.forall_mem_singleton

theorem onlyRefers_joined {make : List TypeTree → TypeTree} {ts : List TypeTree}
    (hmake : (make ts).OnlyRefers) (hts : AllRefer ts) : (joined make ts).OnlyRefers := by
  unfold joined
  split
  · exact hts _ (.head _)
  · exact hmake

theorem onlyRefers_union {ts : List TypeTree} (h : AllRefer ts) :
    (TypeTree.union ts).OnlyRefers := by
  rintro path ⟨⟩
  next t hn ht => exact h t ht path hn

theorem onlyRefers_intersection {ts : List TypeTree} (h : AllRefer ts) :
    (TypeTree.intersection ts).OnlyRefers := by
  rintro path ⟨⟩
  next t hn ht => exact h t ht path hn

theorem onlyRefers_array {t : TypeTree} (h : t.OnlyRefers) : (TypeTree.array t).OnlyRefers := by
  rintro path ⟨⟩
  next hn => exact h path hn

theorem onlyRefers_object {fields : List (String × Bool × TypeTree)}
    (h : AllRefer (fields.map fun f => f.2.2)) : (TypeTree.object fields).OnlyRefers := by
  rintro path ⟨⟩
  next f hn hf => exact h f.2.2 (List.mem_map_of_mem hf) path hn

theorem onlyRefers_of_keywordTree? {word : String} {t : TypeTree} (h : keywordTree? word = some t) :
    t.OnlyRefers := by
  unfold keywordTree? at h
  split at h
  · cases h
    rintro path ⟨⟩
  split at h
  · cases h
    rintro path ⟨⟩
  · obtain ⟨k, -, rfl⟩ := Option.map_eq_some_iff.mp h
    rintro path ⟨⟩

theorem onlyRefers_of_wordTree? {path : List String} {t : TypeTree} (h : wordTree? path = some t) :
    t.OnlyRefers := by
  unfold wordTree? at h
  split at h
  · next hr =>
    cases h
    rintro _ ⟨⟩
    exact hr
  split at h
  · exact onlyRefers_of_keywordTree? h
  · cases h

theorem Level.onlyRefers_product? {l : Level} {t : TypeTree} (h : l.product? = some t)
    (hl : AllRefer l.trees) : t.OnlyRefers := by
  obtain ⟨u, hu, rfl⟩ := Option.map_eq_some_iff.mp h
  simp only [Level.trees, hu, Option.toList_some, allRefer_append] at hl
  have hts : AllRefer (l.factors ++ [u]) := allRefer_append.mpr ⟨hl.1.2, hl.2⟩
  exact onlyRefers_joined (onlyRefers_intersection hts) hts

theorem Level.onlyRefers_type? {l : Level} {t : TypeTree} (h : l.type? = some t)
    (hl : AllRefer l.trees) : t.OnlyRefers := by
  obtain ⟨u, hu, rfl⟩ := Option.map_eq_some_iff.mp h
  have hts : AllRefer (l.alternatives ++ [u]) :=
    allRefer_append.mpr ⟨(allRefer_append.mp (allRefer_append.mp hl).1).1,
      allRefer_singleton.mpr (l.onlyRefers_product? hu hl)⟩
  exact onlyRefers_joined (onlyRefers_union hts) hts

theorem Level.allRefer_hold? {l l' : Level} {t : TypeTree} (h : l.hold? t = some l')
    (hl : AllRefer l.trees) (ht : t.OnlyRefers) : AllRefer l'.trees := by
  unfold Level.hold? at h
  split at h
  · cases h
    simp_all [Level.trees]
  · cases h

theorem allRefer_held {around : Around} {level : Level} {t : TypeTree} {next : Stage}
    (h : (level.hold? t).map (Stage.type around) = some next)
    (hs : AllRefer (around.trees ++ level.trees)) (ht : t.OnlyRefers) : AllRefer next.trees := by
  obtain ⟨l, hl, rfl⟩ := Option.map_eq_some_iff.mp h
  rw [allRefer_append] at hs
  exact allRefer_append.mpr ⟨hs.1, Level.allRefer_hold? hl hs.2 ht⟩

/-- A step adds no name but the one it reads. -/
theorem allRefer_step {stage next : Stage} {token : Token} (hs : AllRefer stage.trees) :
    step stage token = some next → AllRefer next.trees := by
  fun_cases step stage token with
  | case1 around level path =>
    intro h
    obtain ⟨l, hl, rfl⟩ := Option.map_eq_some_iff.mp h
    obtain ⟨t, ht, hl⟩ := Option.bind_eq_some_iff.mp hl
    exact allRefer_held (by rw [hl]; rfl) hs (onlyRefers_of_wordTree? ht)
  | case2 | case3 => exact fun h => allRefer_held h hs (by rintro path ⟨⟩)
  | case4 around level =>
    intro h
    obtain ⟨t, ht, rfl⟩ := Option.map_eq_some_iff.mp h
    have hproduct := level.onlyRefers_product? ht (allRefer_append.mp hs).2
    simp_all [Stage.trees, Level.trees]
  | case5 around level =>
    intro h
    obtain ⟨t, ht, rfl⟩ := Option.map_eq_some_iff.mp h
    simp_all [Stage.trees, Level.trees]
  | case6 around level =>
    intro h
    obtain ⟨t, ht, rfl⟩ := Option.map_eq_some_iff.mp h
    exact hs
  | case7 around level =>
    rintro ⟨⟩
    simp only [Stage.trees, Level.trees, allRefer_append] at hs ⊢
    refine ⟨hs.1, hs.2.1, ?_⟩
    cases ho : level.operand with
    | none => exact allRefer_nil
    | some t =>
      rw [ho] at hs
      exact allRefer_singleton.mpr (onlyRefers_array (allRefer_singleton.mp hs.2.2))
  | case8 around level =>
    rintro ⟨⟩
    simp_all [Stage.trees, Around.trees, Level.trees]
  | case10 around level inner =>
    intro h
    obtain ⟨l, hl, rfl⟩ := Option.map_eq_some_iff.mp h
    obtain ⟨t, ht, hl⟩ := Option.bind_eq_some_iff.mp hl
    simp only [Stage.trees, Around.trees, allRefer_append] at hs
    exact allRefer_held (by rw [hl]; rfl) (allRefer_append.mpr hs.1)
      (inner.onlyRefers_type? ht hs.2)
  | case11 around level =>
    rintro ⟨⟩
    simp_all [Stage.trees]
  | case13 around level fields =>
    intro h
    simp only [Stage.trees, allRefer_append] at hs
    exact allRefer_held h (allRefer_append.mpr hs.1) (onlyRefers_object hs.2)
  | case14 | case16 | case17 =>
    rintro ⟨⟩
    exact hs
  | case18 around level fields key optional =>
    rintro ⟨⟩
    simp_all [Stage.trees, Around.trees, Level.trees]
  | case19 around level fields key optional inner =>
    intro h
    obtain ⟨t, ht, rfl⟩ := Option.map_eq_some_iff.mp h
    simp only [Stage.trees, Around.trees, allRefer_append] at hs
    simp_all [Stage.trees, inner.onlyRefers_type? ht hs.2]
  | case9 | case12 | case15 | case20 => rintro ⟨⟩

theorem allRefer_readFrom {stage last : Stage} {cs : List Char} :
    readFrom stage cs = some last → AllRefer stage.trees → AllRefer last.trees := by
  fun_induction readFrom stage cs with
  | case1 stage cs => rintro ⟨⟩ hs; exact hs
  | case2 => rintro ⟨⟩
  | case3 stage cs _ rest _ ih => exact ih
  | case4 stage cs _ token rest _ ih =>
    intro h hs
    obtain ⟨next, hnext, hr⟩ := Option.bind_eq_some_iff.mp h
    exact ih next hr (allRefer_step hs hnext)

/-- What is read has no names but of declared types. -/
theorem onlyRefers_of_readType? {text : String} {t : TypeTree} (h : readType? text = some t) :
    t.OnlyRefers := by
  obtain ⟨last, hlast, hf⟩ := Option.bind_eq_some_iff.mp h
  have hs := allRefer_readFrom hlast (by simp [Stage.trees, Around.trees, Level.trees])
  unfold Stage.finished? at hf
  split at hf
  · next level => exact level.onlyRefers_type? hf (allRefer_append.mp hs).2
  · cases hf

end Names

end ApiBindings.TypeScript
