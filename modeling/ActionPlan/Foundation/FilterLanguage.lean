import Mathlib.Data.List.Infix

/-! # Filter expressions with patterns

The part of a filter language that compares fields with patterns: raw string literals, patterns
of `like`, and expressions with `or`, `not` and parentheses. A percent sign stands for any
sequence, an underscore for any character, and a backslash makes the next character literal. A
raw literal keeps its backslash pairs, so that an escaped quote does not end it.
-/

namespace ActionPlan.Foundation.FilterLanguage

section Patterns

/-- What a part of a pattern stands for. -/
inductive Mark where
  | literal (char : Char)
  | anyChar
  | anySequence
  deriving DecidableEq, Repr

/-- The marks of a `like` pattern, in which a backslash quotes the next character. -/
def readPattern : List Char → List Mark
  | [] => []
  | '\\' :: char :: rest => .literal char :: readPattern rest
  | '%' :: rest => .anySequence :: readPattern rest
  | '_' :: rest => .anyChar :: readPattern rest
  | char :: rest => .literal char :: readPattern rest

/-- Whether a pattern stands for the whole of a text. -/
def isLike : List Mark → List Char → Bool
  | [], text => text.isEmpty
  | .literal _ :: _, [] => false
  | .literal char :: marks, first :: text => first == char && isLike marks text
  | .anyChar :: _, [] => false
  | .anyChar :: marks, _ :: text => isLike marks text
  | .anySequence :: marks, text => text.tails.any (isLike marks)

theorem isLike_literals (word : List Char) (marks : List Mark) (text : List Char) :
    isLike (word.map .literal ++ marks) text = true ↔
      ∃ rest, text = word ++ rest ∧ isLike marks rest = true := by
  induction word generalizing text with
  | nil => simp only [List.map_nil, List.nil_append, exists_eq_left']
  | cons char word ih =>
    cases text with
    | nil =>
      simp only [List.map_cons, List.cons_append, isLike, Bool.false_eq_true, reduceCtorEq,
        false_and, exists_false]
    | cons first text =>
      simp only [List.map_cons, List.cons_append, isLike, Bool.and_eq_true, beq_iff_eq, ih,
        List.cons.injEq]
      constructor
      · intro ⟨same, rest, split, found⟩
        exact ⟨rest, ⟨same, split⟩, found⟩
      · intro ⟨rest, ⟨same, split⟩, found⟩
        exact ⟨same, rest, split, found⟩

theorem isLike_anySequence (marks : List Mark) (text : List Char) :
    isLike (.anySequence :: marks) text = true ↔
      ∃ skipped rest, text = skipped ++ rest ∧ isLike marks rest = true := by
  simp only [isLike, List.any_eq_true, List.mem_tails]
  constructor
  · intro ⟨rest, ⟨skipped, split⟩, found⟩
    exact ⟨skipped, rest, split.symm, found⟩
  · intro ⟨skipped, rest, split, found⟩
    exact ⟨rest, ⟨skipped, split.symm⟩, found⟩

/-- A word before an open end. -/
theorem isLike_beginning (word text : List Char) :
    isLike (word.map .literal ++ [.anySequence]) text = true ↔ word <+: text := by
  rw [isLike_literals]
  constructor
  · intro ⟨rest, split, _⟩
    exact ⟨rest, split.symm⟩
  · intro ⟨rest, split⟩
    refine ⟨rest, split.symm, ?_⟩
    rw [isLike_anySequence]
    exact ⟨rest, [], (List.append_nil rest).symm, rfl⟩

/-- A word between open ends. -/
theorem isLike_within (word text : List Char) :
    isLike (.anySequence :: (word.map .literal ++ [.anySequence])) text = true ↔
      word <:+: text := by
  rw [isLike_anySequence]
  simp only [isLike_beginning]
  constructor
  · intro ⟨skipped, rest, split, after, found⟩
    exact ⟨skipped, after, by rw [split, ← found, List.append_assoc]⟩
  · intro ⟨skipped, after, split⟩
    exact ⟨skipped, word ++ after, by rw [← split, List.append_assoc],
      List.prefix_append word after⟩

end Patterns

section Escapes

/-- A character behind a backslash when it is special. -/
def escape (special : Char → Bool) (char : Char) : List Char :=
  if special char then ['\\', char] else [char]

variable {special : Char → Bool}

/-- Escaping all that a pattern reads makes a word of literals. -/
theorem readPattern_escape (covered : ∀ char ∈ ['\\', '%', '_'], special char = true)
    (word rest : List Char) :
    readPattern (word.flatMap (escape special) ++ rest) =
      word.map .literal ++ readPattern rest := by
  induction word with
  | nil => rfl
  | cons char word ih =>
    by_cases marked : special char = true
    · simp only [List.flatMap_cons, escape, marked, ↓reduceIte, List.cons_append, List.nil_append,
        readPattern, List.map_cons]
      rw [← ih]
    · have unlisted : char ∉ ['\\', '%', '_'] := fun listed => marked (covered char listed)
      simp only [List.mem_cons, List.not_mem_nil, or_false, not_or] at unlisted
      simp only [List.flatMap_cons, escape, marked, ↓reduceIte, List.cons_append, List.nil_append,
        List.map_cons, Bool.false_eq_true]
      rw [readPattern.eq_5 _ _ (by simp [unlisted]) unlisted.2.1 unlisted.2.2]
      rw [← ih]

end Escapes

section Symbols

/-- The symbols of a filter expression; a raw one is a literal with its escapes resolved. -/
inductive Symbol where
  | opening
  | closing
  | word (letters : List Char)
  | raw (content : List Char)
  deriving DecidableEq, Repr

/-- What has been begun: nothing, a word, or a raw literal with its content so far. -/
inductive Begun where
  | nothing
  | word (letters : List Char)
  | raw (content : List Char)

/-- The symbols of an expression, unless it ends in a literal or has a foreign character. -/
def lex : Begun → List Char → Option (List Symbol)
  | .nothing, [] => some []
  | .nothing, ' ' :: rest => lex .nothing rest
  | .nothing, '(' :: rest => (lex .nothing rest).map (.opening :: ·)
  | .nothing, ')' :: rest => (lex .nothing rest).map (.closing :: ·)
  | .nothing, char :: rest => if char.isAlpha then lex (.word [char]) rest else none
  | .word letters, [] => some [.word letters]
  | .word letters, ' ' :: rest => (lex .nothing rest).map (.word letters :: ·)
  | .word letters, '(' :: rest =>
    (lex .nothing rest).map fun symbols => .word letters :: .opening :: symbols
  | .word letters, ')' :: rest =>
    (lex .nothing rest).map fun symbols => .word letters :: .closing :: symbols
  | .word letters, '"' :: rest => if letters = ['r'] then lex (.raw []) rest else none
  | .word letters, char :: rest =>
    if char.isAlpha then lex (.word (letters ++ [char])) rest else none
  | .raw _, [] => none
  | .raw content, '\\' :: char :: rest => lex (.raw (content ++ ['\\', char])) rest
  | .raw content, '"' :: rest => (lex .nothing rest).map (.raw content :: ·)
  | .raw content, char :: rest => lex (.raw (content ++ [char])) rest

/-- An escaped word stays in its literal, as it is written. -/
theorem lex_escape {special : Char → Bool}
    (covered : ∀ char ∈ ['\\', '"'], special char = true) (word rest : List Char) :
    ∀ content, lex (.raw content) (word.flatMap (escape special) ++ rest) =
      lex (.raw (content ++ word.flatMap (escape special))) rest := by
  induction word with
  | nil =>
    intro content
    rw [List.flatMap_nil, List.nil_append, List.append_nil]
  | cons char word ih =>
    intro content
    by_cases marked : special char = true
    · simp only [List.flatMap_cons, escape, marked, ↓reduceIte, List.cons_append, List.nil_append,
        lex]
      rw [ih, List.append_assoc, List.cons_append, List.cons_append, List.nil_append]
    · have unlisted : char ∉ ['\\', '"'] := fun listed => marked (covered char listed)
      simp only [List.mem_cons, List.not_mem_nil, or_false, not_or] at unlisted
      simp only [List.flatMap_cons, escape, marked, ↓reduceIte, List.cons_append, List.nil_append,
        Bool.false_eq_true]
      rw [lex.eq_15 _ _ _ (by simp [unlisted]) unlisted.2, ih, List.append_assoc,
        List.singleton_append]

end Symbols

section Expressions

/-- A condition on the fields of a row. -/
inductive Filter where
  | like (field : List Char) (pattern : List Mark)
  | or (left right : Filter)
  | not (operand : Filter)
  deriving DecidableEq, Repr

mutual

/-- Operands joined by `or`, and the symbols after them. -/
def parseFilter : Nat → List Symbol → Option (Filter × List Symbol)
  | 0, _ => none
  | depth + 1, symbols => do
    let (left, rest) ← parseOperand depth symbols
    match rest with
    | .word ['o', 'r'] :: rest =>
      let (right, rest) ← parseFilter depth rest
      return (.or left right, rest)
    | _ => return (left, rest)

def parseOperand : Nat → List Symbol → Option (Filter × List Symbol)
  | 0, _ => none
  | depth + 1, .opening :: rest => do
    let (filter, rest) ← parseFilter depth rest
    match rest with
    | .closing :: rest => return (filter, rest)
    | _ => none
  | depth + 1, .word ['n', 'o', 't'] :: rest => do
    let (operand, rest) ← parseOperand depth rest
    return (.not operand, rest)
  | _ + 1, .word field :: .word ['l', 'i', 'k', 'e'] :: .raw pattern :: rest =>
    some (.like field (readPattern pattern), rest)
  | _ + 1, _ => none

end

/-- The condition an expression states. -/
def parse (expression : List Char) : Option Filter := do
  let symbols ← lex .nothing expression
  let (filter, rest) ← parseFilter (2 * symbols.length + 2) symbols
  if rest = [] then return filter else none

def Filter.holds (row : List Char → List Char) : Filter → Bool
  | .like field pattern => isLike pattern (row field)
  | .or left right => left.holds row || right.holds row
  | .not operand => !operand.holds row

end Expressions

end ActionPlan.Foundation.FilterLanguage
