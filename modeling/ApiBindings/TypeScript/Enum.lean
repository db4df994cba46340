import ApiBindings.Keyed
import ApiBindings.Model.Basic
import ApiBindings.Number.Decimal
import ApiBindings.TypeScript.Basic

namespace ApiBindings.TypeScript
open Model (EnumBase)

def distinctLiterals (items : List Json) : List Json := distinctBy Json.render items

/-- A number spelt with characters of identifiers, its sign included. -/
def spelledNumber (text : List Char) : List Char :=
  match text with
  | '-' :: magnitude => "neg".toList ++ Text.identifierChars magnitude
  | _ => Text.identifierChars text

def literalText : Json → String
  | .string s => s
  | j => j.render

/-- Does the text read as a number? No member may be named by one. -/
def readsAsNumber (text : String) : Bool := (Number.FloatText.parse? text.toList).isSome

/-- The name of a literal's member: the text itself for texts, and the enumeration's name with the
number for numbers. -/
def memberName (enumName : String) (base : EnumBase) (item : Json) : MemberName :=
  let text := literalText item
  let spelled := String.ofList (spelledNumber text.toList)
  match base with
  | .number => .bare (enumName ++ "_" ++ spelled)
  | .string =>
    if Text.isIdentifier text then .bare text
    else if readsAsNumber text then .bare ("_" ++ spelled)
    else .quoted text

def suffixed (text : String) (count : Nat) : String := text ++ "_" ++ toString count

theorem suffixed_injective {text : String} {m n : Nat} (h : suffixed text m = suffixed text n) :
    m = n := by
  have hdigits : toString m = toString n := (String.append_right_inj _).mp h
  rw [Nat.toString_eq_ofList_toDigits, Nat.toString_eq_ofList_toDigits, String.ofList_inj]
    at hdigits
  rw [← Nat.ofDigitChars_ten_toDigits (n := m), hdigits, Nat.ofDigitChars_ten_toDigits]

def notBefore (text : String) (count : Nat) (name : String) : Bool :=
  (List.range count).all fun n => name != suffixed text n

theorem notBefore_succ (text : String) (count : Nat) (name : String) :
    notBefore text (count + 1) name =
      ((name != suffixed text count) && notBefore text count name) := by
  rw [notBefore, List.range_succ, List.all_append, Bool.and_comm, notBefore]
  simp only [List.all_cons, List.all_nil, Bool.and_true]

theorem length_notBefore_lt {taken : List String} {text : String} {count : Nat}
    (h : taken.contains (suffixed text count) = true) :
    (taken.filter (notBefore text (count + 1))).length <
      (taken.filter (notBefore text count)).length := by
  have hfilter : taken.filter (notBefore text (count + 1)) =
      (taken.filter (notBefore text count)).filter (· != suffixed text count) := by
    rw [List.filter_filter]
    exact List.filter_congr fun name _ => notBefore_succ text count name
  rw [hfilter, List.length_filter_lt_length_iff_exists]
  refine ⟨suffixed text count, List.mem_filter.mpr ⟨List.contains_iff_mem.mp h, ?_⟩, by simp⟩
  apply List.all_eq_true.mpr
  intro n hn
  rw [bne_iff_ne]
  intro he
  exact Nat.ne_of_gt (List.mem_range.mp hn) (suffixed_injective he)

/-- The name with the first suffix from `count` on that makes it new. The count has no bound; one of
32 bits would be used up only by more literals of one name than a contract holds. -/
def freshSuffix (taken : List String) (text : String) (count : Nat) : String :=
  if _h : taken.contains (suffixed text count) then freshSuffix taken text (count + 1)
  else suffixed text count
termination_by (taken.filter (notBefore text count)).length
decreasing_by exact length_notBefore_lt _h

def freshName (taken : List String) (name : MemberName) : MemberName :=
  if taken.contains name.text then name.renamed (freshSuffix taken name.text 2) else name

/-- The value that a member stands for; what is no number is a text. -/
def initializer : Json → Literal
  | .number n => .number n
  | item => .string (literalText item)

def enumMembers (enumName : String) (base : EnumBase) (taken : List String) :
    List Json → List (MemberName × Literal)
  | [] => []
  | item :: rest =>
    let name := freshName taken (memberName enumName base item)
    (name, initializer item) :: enumMembers enumName base (name.text :: taken) rest

def enumDeclaration (name : String) (base : EnumBase) (items : List Json) : Declaration :=
  .enum name (enumMembers name base [] (distinctLiterals items))

def literalType : Json → TypeExpr
  | .string s => .literal (.string s)
  | .number n => .literal (.number n)
  | .bool b => .bool b
  | .null => .keyword .null
  | item => .literal (.string item.render)

def enumType (items : List Json) : TypeExpr :=
  .unionOf ((distinctLiterals items).map literalType)

end ApiBindings.TypeScript
