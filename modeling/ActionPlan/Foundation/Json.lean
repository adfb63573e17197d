import Mathlib.Data.Bool.AllAny
import Mathlib.Data.List.Basic

/-! # JSON

JSON values, and the grammar of RFC 8259 as a set of texts for each of its symbols. Whatever the
grammar derives is balanced with respect to braces, and with respect to brackets, outside of its
strings.
-/

namespace ActionPlan.Foundation

/-- A number with a fraction or an exponent stands as it is written. -/
inductive Json where
  | null
  | bool (flag : Bool)
  | int (number : Int)
  | float (literal : String)
  | string (text : String)
  | array (items : List Json)
  | object (fields : List (String × Json))

namespace Json

section Grammar

/-- `ws`. -/
def IsBlank (text : List Char) : Prop := ∀ char ∈ text, char ∈ [' ', '\t', '\n', '\r']

/-- A number's digits. -/
def IsDigits (text : List Char) : Prop := ∀ char ∈ text, char ∈ "0123456789".toList

/-- `int`. -/
inductive IsInt : List Char → Prop
  | zero : IsInt ['0']
  | positive {first : Char} {rest : List Char} (leading : first ∈ "123456789".toList)
      (digits : IsDigits rest) : IsInt (first :: rest)

/-- `[ frac ]`. -/
inductive IsFraction : List Char → Prop
  | absent : IsFraction []
  | present {digits : List Char} (nonempty : digits ≠ []) (all : IsDigits digits) :
      IsFraction ('.' :: digits)

/-- `[ exp ]`. -/
inductive IsExponent : List Char → Prop
  | absent : IsExponent []
  | present {mark : Char} {sign digits : List Char} (marked : mark ∈ ['e', 'E'])
      (signed : sign ∈ [[], ['+'], ['-']]) (nonempty : digits ≠ []) (all : IsDigits digits) :
      IsExponent (mark :: (sign ++ digits))

/-- `number`. -/
inductive IsNumber : List Char → Prop
  | parts {sign whole fraction exponent : List Char} (signed : sign ∈ [[], ['-']])
      (int : IsInt whole) (frac : IsFraction fraction) (exp : IsExponent exponent) :
      IsNumber (sign ++ whole ++ fraction ++ exponent)

/-- `char`. -/
inductive IsStringChar : List Char → Prop
  | unescaped {char : Char} (printed : 0x20 ≤ char.toNat) (quote : char ≠ '"')
      (backslash : char ≠ '\\') : IsStringChar [char]
  | escaped {char : Char} (named : char ∈ "\"\\/bfnrt".toList) : IsStringChar ['\\', char]
  | unicode {digits : List Char} (length : digits.length = 4)
      (hex : ∀ digit ∈ digits, digit ∈ "0123456789abcdefABCDEF".toList) :
      IsStringChar ('\\' :: 'u' :: digits)

/-- `*char`. -/
inductive IsStringBody : List Char → Prop
  | nil : IsStringBody []
  | cons {first rest : List Char} (char : IsStringChar first) (body : IsStringBody rest) :
      IsStringBody (first ++ rest)

/-- `string`. -/
inductive IsString : List Char → Prop
  | quoted {body : List Char} (chars : IsStringBody body) : IsString ('"' :: (body ++ ['"']))

/-- A quoted text without quotes, backslashes and control characters. -/
theorem IsString.ofPlain (text : List Char)
    (plain : (text.all fun char =>
      decide (0x20 ≤ char.toNat ∧ char ≠ '"' ∧ char ≠ '\\')) = true) :
    IsString ('"' :: (text ++ ['"'])) := by
  refine .quoted ?_
  induction text with
  | nil => exact .nil
  | cons char text ih =>
    obtain ⟨first, others⟩ := Bool.and_eq_true_iff.mp plain
    obtain ⟨printed, quote, backslash⟩ := of_decide_eq_true first
    exact .cons (.unescaped printed quote backslash) (ih others)

/-- The symbols of the grammar that depend on each other. -/
inductive Symbol where
  | value
  | object
  | members
  | array
  | elements

/-- The texts that the grammar derives from a symbol. -/
inductive Derives : Symbol → List Char → Prop
  | literal {name : List Char} (named : name ∈ ["false".toList, "null".toList, "true".toList]) :
      Derives .value name
  | number {text : List Char} (number : IsNumber text) : Derives .value text
  | string {text : List Char} (string : IsString text) : Derives .value text
  | ofObject {text : List Char} (object : Derives .object text) : Derives .value text
  | ofArray {text : List Char} (array : Derives .array text) : Derives .value text
  | emptyObject {blank : List Char} (space : IsBlank blank) :
      Derives .object ('{' :: (blank ++ ['}']))
  | object {before inside after : List Char} (front : IsBlank before)
      (members : Derives .members inside) (back : IsBlank after) :
      Derives .object ('{' :: (before ++ inside ++ after ++ ['}']))
  | member {name before after value : List Char} (string : IsString name) (front : IsBlank before)
      (back : IsBlank after) (valued : Derives .value value) :
      Derives .members (name ++ before ++ [':'] ++ after ++ value)
  | members {first before after rest : List Char} (member : Derives .members first)
      (front : IsBlank before) (back : IsBlank after) (others : Derives .members rest) :
      Derives .members (first ++ before ++ [','] ++ after ++ rest)
  | emptyArray {blank : List Char} (space : IsBlank blank) :
      Derives .array ('[' :: (blank ++ [']']))
  | array {before inside after : List Char} (front : IsBlank before)
      (elements : Derives .elements inside) (back : IsBlank after) :
      Derives .array ('[' :: (before ++ inside ++ after ++ [']']))
  | element {value : List Char} (valued : Derives .value value) : Derives .elements value
  | elements {first before after rest : List Char} (element : Derives .elements first)
      (front : IsBlank before) (back : IsBlank after) (others : Derives .elements rest) :
      Derives .elements (first ++ before ++ [','] ++ after ++ rest)

end Grammar

section Balance

/-- The two kinds of brackets. -/
inductive Kind where
  | brace
  | bracket

namespace Kind

/-- The bracket that opens. -/
def opening : Kind → Char
  | brace => '{'
  | bracket => '['

/-- The bracket that closes. -/
def closing : Kind → Char
  | brace => '}'
  | bracket => ']'

end Kind

/-- The characters that the balance of a text depends on. -/
def marks : List Char := ['"', '{', '}', '[', ']']

variable {kind : Kind}

/-- The brackets of a kind are balanced outside of strings. -/
inductive Balanced (kind : Kind) : List Char → Prop
  | nil : Balanced kind []
  | plain {char : Char} {rest : List Char} (quote : char ≠ '"') (opening : char ≠ kind.opening)
      (closing : char ≠ kind.closing) (balanced : Balanced kind rest) :
      Balanced kind (char :: rest)
  | quoted {string rest : List Char} (quoted : IsString string) (balanced : Balanced kind rest) :
      Balanced kind (string ++ rest)
  | nested {inside rest : List Char} (nested : Balanced kind inside)
      (balanced : Balanced kind rest) :
      Balanced kind (kind.opening :: (inside ++ kind.closing :: rest))

namespace Balanced

theorem append {text rest : List Char} (front : Balanced kind text) (back : Balanced kind rest) :
    Balanced kind (text ++ rest) := by
  induction front with
  | nil => exact back
  | plain quote opening closing _ ih => exact plain quote opening closing ih
  | quoted string _ ih =>
    rw [List.append_assoc]
    exact quoted string ih
  | nested inside _ _ ih =>
    rw [List.cons_append, List.append_assoc, List.cons_append]
    exact nested inside ih

theorem ofString {text : List Char} (string : IsString text) : Balanced kind text := by
  have whole : Balanced kind (text ++ []) := quoted string nil
  rwa [List.append_nil] at whole

/-- A text without quotes and brackets. -/
theorem ofPlain {text : List Char} (plain : ∀ char ∈ text, char ∉ marks) :
    Balanced kind text := by
  induction text with
  | nil => exact nil
  | cons char text ih =>
    obtain ⟨first, others⟩ := List.forall_mem_cons.mp plain
    have different : char ≠ '"' ∧ char ≠ kind.opening ∧ char ≠ kind.closing := by
      refine ⟨?_, ?_, ?_⟩
      · rintro rfl
        exact first (by decide)
      · rintro rfl
        exact first (by cases kind <;> decide)
      · rintro rfl
        exact first (by cases kind <;> decide)
    exact .plain different.1 different.2.1 different.2.2 (ih others)

/-- A text over an alphabet without quotes and brackets. -/
theorem ofAlphabet {alphabet text : List Char}
    (plain : (alphabet.all fun char => decide (char ∉ marks)) = true)
    (written : ∀ char ∈ text, char ∈ alphabet) : Balanced kind text := by
  have each : ∀ char ∈ alphabet, char ∉ marks := List.all_iff_forall_prop.mp plain
  exact ofPlain fun char member => each char (written char member)

/-- One of several texts without quotes and brackets. -/
theorem ofListed {texts : List (List Char)} {text : List Char}
    (plain : (texts.flatten.all fun char => decide (char ∉ marks)) = true)
    (listed : text ∈ texts) : Balanced kind text :=
  ofAlphabet plain fun _ member => List.mem_flatten.mpr ⟨text, listed, member⟩

/-- One of several characters. -/
theorem ofLetter {alphabet : List Char} {char : Char}
    (plain : (alphabet.all fun char => decide (char ∉ marks)) = true) (letter : char ∈ alphabet) :
    Balanced kind [char] := by
  refine ofAlphabet plain ?_
  intro other member
  rwa [List.mem_singleton.mp member]

theorem ofBlank {text : List Char} (blank : IsBlank text) : Balanced kind text :=
  ofAlphabet (by decide) blank

theorem ofDigits {text : List Char} (digits : IsDigits text) : Balanced kind text :=
  ofAlphabet (by decide) digits

theorem ofNumber {text : List Char} (number : IsNumber text) : Balanced kind text := by
  obtain ⟨signed, int, frac, exp⟩ := number
  have single : ∀ char ∈ ['.', '0'], Balanced kind [char] :=
    fun _ member => ofLetter (by decide) member
  refine (((ofListed (by decide) signed).append ?_).append ?_).append ?_
  · cases int with
    | zero => exact single '0' (by decide)
    | positive leading digits => exact (ofLetter (by decide) leading).append (ofDigits digits)
  · cases frac with
    | absent => exact nil
    | present _ digits => exact (single '.' (by decide)).append (ofDigits digits)
  · cases exp with
    | absent => exact nil
    | present marked signed _ digits =>
      exact (ofLetter (by decide) marked).append
        ((ofListed (by decide) signed).append (ofDigits digits))

/-- A comma or a colon. -/
theorem separator {char : Char} (separates : char ∈ [',', ':']) : Balanced kind [char] :=
  ofLetter (by decide) separates

/-- A bracketed text is balanced with respect to its own kind of brackets and to the other. -/
theorem enclosed (own : Kind) {inside : List Char} (balanced : Balanced kind inside) :
    Balanced kind (own.opening :: (inside ++ [own.closing])) := by
  by_cases same : own = kind
  · rw [same]
    exact nested balanced nil
  · have plain : own.opening ≠ '"' ∧ own.opening ≠ kind.opening ∧ own.opening ≠ kind.closing ∧
        own.closing ≠ '"' ∧ own.closing ≠ kind.opening ∧ own.closing ≠ kind.closing := by
      cases own <;> cases kind
      · exact absurd rfl same
      · decide
      · decide
      · exact absurd rfl same
    obtain ⟨quote, opening, closing, quote', opening', closing'⟩ := plain
    exact .plain quote opening closing (balanced.append (.plain quote' opening' closing' nil))

end Balanced

/-- Every text of the grammar is balanced with respect to either kind of brackets. -/
theorem Derives.balanced {symbol : Symbol} {text : List Char} (derived : Derives symbol text) :
    Balanced kind text := by
  induction derived with
  | literal named => exact Balanced.ofListed (by decide) named
  | number number => exact Balanced.ofNumber number
  | string string => exact Balanced.ofString string
  | ofObject _ ih => exact ih
  | ofArray _ ih => exact ih
  | emptyObject space => exact Balanced.enclosed .brace (Balanced.ofBlank space)
  | object front _ back ih =>
    exact Balanced.enclosed .brace
      (((Balanced.ofBlank front).append ih).append (Balanced.ofBlank back))
  | member string front back _ ih =>
    exact ((((Balanced.ofString string).append (Balanced.ofBlank front)).append
      (Balanced.separator (by decide))).append (Balanced.ofBlank back)).append ih
  | members _ front back _ ih ih' =>
    exact (((ih.append (Balanced.ofBlank front)).append
      (Balanced.separator (by decide))).append (Balanced.ofBlank back)).append ih'
  | emptyArray space => exact Balanced.enclosed .bracket (Balanced.ofBlank space)
  | array front _ back ih =>
    exact Balanced.enclosed .bracket
      (((Balanced.ofBlank front).append ih).append (Balanced.ofBlank back))
  | element _ ih => exact ih
  | elements _ front back _ ih ih' =>
    exact (((ih.append (Balanced.ofBlank front)).append
      (Balanced.separator (by decide))).append (Balanced.ofBlank back)).append ih'

/-- A document is enclosed in brackets of its kind. -/
def Encloses (kind : Kind) (text : List Char) : Prop :=
  ∃ inside, text = kind.opening :: (inside ++ [kind.closing]) ∧ Balanced kind inside

theorem Derives.encloses_brace {text : List Char} (object : Derives .object text) :
    Encloses .brace text := by
  cases object with
  | emptyObject space => exact ⟨_, rfl, Balanced.ofBlank space⟩
  | object front members back =>
    exact ⟨_, rfl, ((Balanced.ofBlank front).append members.balanced).append
      (Balanced.ofBlank back)⟩

theorem Derives.encloses_bracket {text : List Char} (array : Derives .array text) :
    Encloses .bracket text := by
  cases array with
  | emptyArray space => exact ⟨_, rfl, Balanced.ofBlank space⟩
  | array front elements back =>
    exact ⟨_, rfl, ((Balanced.ofBlank front).append elements.balanced).append
      (Balanced.ofBlank back)⟩

end Balance

end Json

end ActionPlan.Foundation
