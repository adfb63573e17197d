import ActionPlan.Foundation.Json
import ActionPlan.Rag.Ingestion

/-! # What a reply of the model is read as

The functions of `llm/provider.py` from the text of a reply to a validated response.
-/

namespace ActionPlan.Llm

open ActionPlan.Foundation ActionPlan.Foundation.Json ActionPlan.Rag

section Extraction

/-- `json.JSONDecodeError`. -/
structure JSONDecodeError where
  msg : String
  doc : List Char
  pos : Nat

/-- `text.strip()`. -/
def stripText (text : List Char) : List Char := (text.dropWhile isSpace).rdropWhile isSpace

def fence : List Char := ['`', '`', '`']

/-- What follows the first newline of a text, if it has one. -/
def afterNewline (text : List Char) : List Char :=
  if '\n' ∈ text then (text.dropWhile fun char => char ≠ '\n').tail else text

/-- The text without a Markdown fence around it. -/
def unfence (text : List Char) : List Char :=
  if fence.isPrefixOf text then
    let text := afterNewline text
    if fence.isSuffixOf text then stripText (text.take (text.length - fence.length)) else text
  else text

/-- The bracket that the document is taken to start with. -/
def openingBracket (text : List Char) : Option Char :=
  if '{' ∈ text then some '{' else if '[' ∈ text then some '[' else none

/-- The loop of `_extract_json`: what it has read when it returns. -/
def scan (openChar closeChar : Char) (depth : Int) (inString escaped : Bool) :
    List Char → Option (List Char)
  | [] => none
  | char :: rest =>
    let next depth inString escaped :=
      (scan openChar closeChar depth inString escaped rest).map (char :: ·)
    if inString then
      if escaped then next depth true false
      else if char = '\\' then next depth true true
      else if char = '"' then next depth false false
      else next depth true false
    else if char = '"' then next depth true escaped
    else if char = openChar then next (depth + 1) false escaped
    else if char = closeChar then
      if depth - 1 = 0 then some [char] else next (depth - 1) false escaped
    else next depth false escaped

/-- `_extract_json`. -/
def extractJson (content : List Char) : Except JSONDecodeError (List Char) :=
  if content = [] then .error ⟨"empty model response", content, 0⟩
  else
    let text := unfence (stripText content)
    match openingBracket text with
    | none => .error ⟨"model response contains no JSON object or array", content, 0⟩
    | some openChar =>
      let closeChar := if openChar = '{' then '}' else ']'
      let start := text.dropWhile fun char => char ≠ openChar
      match scan openChar closeChar 0 false false start with
      | some found => .ok found
      | none => .error ⟨"unbalanced JSON in model response", content, text.idxOf openChar⟩

end Extraction

section Scanning

variable {kind : Kind} {text rest : List Char} {depth : Int}

/-- The scanner outside of a string. -/
def outside (kind : Kind) (depth : Int) : List Char → Option (List Char) :=
  scan kind.opening kind.closing depth false false

/-- The scanner inside of a string. -/
def inside (kind : Kind) (depth : Int) : List Char → Option (List Char) :=
  scan kind.opening kind.closing depth true false

/-- What is read over in two parts is read over as a whole. -/
theorem map_append (found : Option (List Char)) (front back : List Char) :
    (found.map (back ++ ·)).map (front ++ ·) = found.map ((front ++ back) ++ ·) := by
  rw [Option.map_map]
  congr 1
  funext read
  exact (List.append_assoc front back read).symm

/-- The scan of a text goes on past an ordinary character. -/
theorem inside_plain {char : Char} (quote : char ≠ '"') (backslash : char ≠ '\\') :
    inside kind depth (char :: rest) = (inside kind depth rest).map (char :: ·) := by
  simp only [inside, scan, ↓reduceIte, Bool.false_eq_true, quote, backslash]

/-- An escaped character does not end the text. -/
theorem inside_escape (char : Char) :
    inside kind depth ('\\' :: char :: rest) =
      (inside kind depth rest).map fun found => '\\' :: char :: found := by
  simp only [inside, scan, ↓reduceIte, Bool.false_eq_true, Option.map_map]
  rfl

theorem inside_quote :
    inside kind depth ('"' :: rest) = (outside kind depth rest).map ('"' :: ·) := by
  simp only [inside, outside, scan, ↓reduceIte, Bool.false_eq_true, Char.reduceEq]

theorem outside_quote :
    outside kind depth ('"' :: rest) = (inside kind depth rest).map ('"' :: ·) := by
  simp only [inside, outside, scan, ↓reduceIte, Bool.false_eq_true]

theorem outside_plain {char : Char} (quote : char ≠ '"') (opening : char ≠ kind.opening)
    (closing : char ≠ kind.closing) :
    outside kind depth (char :: rest) = (outside kind depth rest).map (char :: ·) := by
  simp only [outside, scan, ↓reduceIte, Bool.false_eq_true, quote, opening, closing]

/-- A bracket that opens makes the scan one level deeper. -/
theorem outside_opening :
    outside kind depth (kind.opening :: rest) =
      (outside kind (depth + 1) rest).map (kind.opening :: ·) := by
  have quote : kind.opening ≠ '"' := by cases kind <;> decide
  simp only [outside, scan, ↓reduceIte, Bool.false_eq_true, quote]

/-- A bracket that closes an inner level does not end the scan. -/
theorem outside_closing (nested : depth - 1 ≠ 0) :
    outside kind depth (kind.closing :: rest) =
      (outside kind (depth - 1) rest).map (kind.closing :: ·) := by
  have quote : kind.closing ≠ '"' := by cases kind <;> decide
  have opening : kind.closing ≠ kind.opening := by cases kind <;> decide
  simp only [outside, scan, ↓reduceIte, Bool.false_eq_true, quote, opening, nested]

/-- The bracket that closes the outermost level ends it. -/
theorem outside_last :
    outside kind 1 (kind.closing :: rest) = some [kind.closing] := by
  have quote : kind.closing ≠ '"' := by cases kind <;> decide
  have opening : kind.closing ≠ kind.opening := by cases kind <;> decide
  simp only [outside, scan, ↓reduceIte, Bool.false_eq_true, quote, opening, Int.sub_self]

theorem inside_plain_text (plain : ∀ char ∈ text, char ≠ '"' ∧ char ≠ '\\') :
    inside kind depth (text ++ rest) = (inside kind depth rest).map (text ++ ·) := by
  induction text with
  | nil =>
    rw [List.nil_append]
    exact Option.map_id'.symm
  | cons char text ih =>
    obtain ⟨⟨quote, backslash⟩, others⟩ := List.forall_mem_cons.mp plain
    rw [List.cons_append, inside_plain quote backslash, ih others, Option.map_map]
    rfl

theorem inside_char (char : IsStringChar text) :
    inside kind depth (text ++ rest) = (inside kind depth rest).map (text ++ ·) := by
  cases char with
  | unescaped _ quote backslash => exact inside_plain quote backslash
  | escaped _ => exact inside_escape _
  | @unicode digits _ hex =>
    have plain : ∀ digit ∈ digits, digit ≠ '"' ∧ digit ≠ '\\' := by
      intro digit member
      have all : ∀ digit ∈ "0123456789abcdefABCDEF".toList, digit ≠ '"' ∧ digit ≠ '\\' :=
        List.all_iff_forall_prop.mp (by decide)
      exact all digit (hex digit member)
    rw [List.cons_append, List.cons_append, inside_escape, inside_plain_text plain,
      Option.map_map]
    rfl

/-- The scan passes the whole body of a string of the grammar. -/
theorem inside_body (body : IsStringBody text) :
    inside kind depth (text ++ rest) = (inside kind depth rest).map (text ++ ·) := by
  induction body with
  | nil =>
    rw [List.nil_append]
    exact Option.map_id'.symm
  | cons char _ ih =>
    rw [List.append_assoc, inside_char char, ih, map_append]

/-- The scanner reads over a string, whatever is in it. -/
theorem outside_string (string : IsString text) :
    outside kind depth (text ++ rest) = (outside kind depth rest).map (text ++ ·) := by
  obtain ⟨body⟩ := string
  rename_i characters
  rw [List.cons_append, outside_quote, List.append_assoc, inside_body body, List.cons_append,
    inside_quote, Option.map_map, Option.map_map]
  congr 1
  funext found
  simp only [Function.comp_apply, List.cons_append, List.append_assoc, List.nil_append]

/-- The scanner reads over what is balanced, without a return and back to the same depth. -/
theorem outside_balanced (balanced : Balanced kind text) (within : 1 ≤ depth) :
    outside kind depth (text ++ rest) = (outside kind depth rest).map (text ++ ·) := by
  induction balanced generalizing depth rest with
  | nil =>
    rw [List.nil_append]
    exact Option.map_id'.symm
  | plain quote opening closing _ ih =>
    rw [List.cons_append, outside_plain quote opening closing, ih within, Option.map_map]
    rfl
  | quoted string _ ih =>
    rw [List.append_assoc, outside_string string, ih within, map_append]
  | nested _ _ ih ih' =>
    have deeper : 1 ≤ depth + 1 := by omega
    have back : depth + 1 - 1 ≠ 0 := by omega
    have same : depth + 1 - 1 = depth := by omega
    rw [List.cons_append, outside_opening, List.append_assoc, ih deeper, List.cons_append,
      outside_closing back, same, ih' within]
    simp only [Option.map_map]
    congr 1
    funext found
    simp only [Function.comp_apply, List.cons_append, List.append_assoc]

/-- From the first bracket of a document on, the scanner reads the document and returns. -/
theorem outside_encloses (document : Encloses kind text) :
    outside kind 0 (text ++ rest) = some text := by
  obtain ⟨contents, rfl, balanced⟩ := document
  rw [List.cons_append, outside_opening, List.append_assoc, Int.zero_add,
    outside_balanced balanced (Int.le_refl 1), List.singleton_append, outside_last]
  rfl

end Scanning

section Surroundings

variable {kind : Kind} {front document back : List Char}

theorem dropWhile_append_of_stop {drops : Char → Bool} {first : Char} (stops : drops first = false)
    (text rest : List Char) :
    (text ++ first :: rest).dropWhile drops = text.dropWhile drops ++ first :: rest := by
  induction text with
  | nil => rw [List.nil_append, List.dropWhile_cons_of_neg (by simp [stops])]; rfl
  | cons char text ih =>
    cases dropped : drops char with
    | true => rw [List.cons_append, List.dropWhile_cons_of_pos dropped, ih,
        List.dropWhile_cons_of_pos dropped]
    | false => rw [List.cons_append, List.dropWhile_cons_of_neg (by simp [dropped]),
        List.dropWhile_cons_of_neg (by simp [dropped]), List.cons_append]

/-- Looking for a character passes over a text without it. -/
theorem dropWhile_ne_of_not_mem {char : Char} {text : List Char} (absent : char ∉ text) :
    text.dropWhile (fun other => decide (other ≠ char)) = [] := by
  rw [List.dropWhile_eq_nil_iff]
  intro other member
  refine decide_eq_true ?_
  rintro rfl
  exact absent member

theorem rdropWhile_append_of_stop {drops : Char → Bool} {last : Char} (stops : drops last = false)
    (text rest : List Char) :
    (text ++ [last] ++ rest).rdropWhile drops = text ++ [last] ++ rest.rdropWhile drops := by
  have reversed : (text ++ [last] ++ rest).reverse = rest.reverse ++ last :: text.reverse := by
    rw [List.reverse_append, List.reverse_append, List.reverse_singleton, List.singleton_append]
  rw [List.rdropWhile, reversed, dropWhile_append_of_stop stops, List.reverse_append,
    List.reverse_cons, List.reverse_reverse]
  rfl

theorem opening_mem_around (encloses : Encloses kind document) :
    kind.opening ∈ front ++ document ++ back := by
  obtain ⟨contents, rfl, _⟩ := encloses
  exact List.mem_append_left _ (List.mem_append_right _ List.mem_cons_self)

/-- Of the text around a document, `strip` takes off what is at its ends. -/
theorem stripText_around (encloses : Encloses kind document) :
    stripText (front ++ document ++ back) =
      front.dropWhile isSpace ++ document ++ back.rdropWhile isSpace := by
  obtain ⟨contents, rfl, _⟩ := encloses
  have first : isSpace kind.opening = false := by cases kind <;> decide
  have last : isSpace kind.closing = false := by cases kind <;> decide
  have split : front ++ kind.opening :: (contents ++ [kind.closing]) ++ back =
      front ++ kind.opening :: (contents ++ [kind.closing] ++ back) := by
    rw [List.append_assoc, List.cons_append]
  have joined : front.dropWhile isSpace ++ kind.opening :: (contents ++ [kind.closing] ++ back) =
      front.dropWhile isSpace ++ kind.opening :: contents ++ [kind.closing] ++ back := by
    simp only [List.append_assoc, List.cons_append]
  rw [stripText, split, dropWhile_append_of_stop first, joined, rdropWhile_append_of_stop last]
  simp only [List.append_assoc, List.cons_append]

theorem isPrefixOf_fence_append {first : Char} (different : first ≠ '`') (text rest : List Char) :
    fence.isPrefixOf (text ++ first :: rest) = fence.isPrefixOf text := by
  have stops : ('`' == first) = false := beq_false_of_ne different.symm
  match text with
  | [] => simp [fence, List.isPrefixOf, stops]
  | [_] => simp [fence, List.isPrefixOf, stops]
  | [_, _] => simp [fence, List.isPrefixOf, stops]
  | _ :: _ :: _ :: _ => simp [fence, List.isPrefixOf]

/-- A document is no fence, so only the text before it can begin with one. -/
theorem isPrefixOf_fence_around (encloses : Encloses kind document) :
    fence.isPrefixOf (front ++ document ++ back) = fence.isPrefixOf front := by
  obtain ⟨contents, rfl, _⟩ := encloses
  have different : kind.opening ≠ '`' := by cases kind <;> decide
  rw [List.append_assoc, List.cons_append, isPrefixOf_fence_append different]

/-- A fence at the end stands behind the document. -/
theorem exists_of_isSuffixOf_fence (encloses : Encloses kind document)
    (ended : fence.isSuffixOf (front ++ document ++ back) = true) :
    ∃ rest, back = rest ++ fence := by
  obtain ⟨contents, rfl, _⟩ := encloses
  have different : kind.closing ≠ '`' := by cases kind <;> decide
  have reversed : (front ++ kind.opening :: (contents ++ [kind.closing]) ++ back).reverse =
      back.reverse ++ kind.closing :: (front ++ kind.opening :: contents).reverse := by
    simp
  rw [List.isSuffixOf, reversed] at ended
  change fence.isPrefixOf _ = true at ended
  rw [isPrefixOf_fence_append different, List.isPrefixOf_iff_prefix] at ended
  obtain ⟨rest, same⟩ := ended
  refine ⟨rest.reverse, ?_⟩
  have back_eq := congrArg List.reverse same
  rw [List.reverse_append, List.reverse_reverse] at back_eq
  exact back_eq.symm

/-- The language line of a fence ends before what follows it. -/
theorem afterNewline_append (rest : List Char) {text : List Char} (newline : '\n' ∈ text) :
    ∃ after, afterNewline (text ++ rest) = after ++ rest ∧ after ⊆ text := by
  have found : '\n' ∈ text ++ rest := List.mem_append_left rest newline
  obtain ⟨line, after, rfl, first⟩ := List.eq_append_cons_of_mem newline
  refine ⟨after, ?_, fun char member =>
    List.mem_append_right _ (List.mem_cons_of_mem _ member)⟩
  rw [afterNewline, if_pos found, List.append_assoc, List.cons_append,
    dropWhile_append_of_stop (by decide), dropWhile_ne_of_not_mem first]
  rfl

/-- A fence whose line does not end within the document costs nothing of the document. -/
theorem unfence_around (encloses : Encloses kind document)
    (ended : fence.isPrefixOf front = true → '\n' ∈ front ∨ '\n' ∉ document ++ back) :
    ∃ before after, unfence (front ++ document ++ back) = before ++ document ++ after ∧
      before ⊆ front ∧ after ⊆ back := by
  rw [unfence, isPrefixOf_fence_around encloses]
  cases fenced : fence.isPrefixOf front with
  | false => exact ⟨front, back, rfl, List.Subset.refl front, List.Subset.refl back⟩
  | true =>
    have opened : ∃ before, afterNewline (front ++ document ++ back) =
        before ++ document ++ back ∧ before ⊆ front := by
      by_cases newline : '\n' ∈ front
      · obtain ⟨before, after_eq, part⟩ := afterNewline_append (document ++ back) newline
        refine ⟨before, ?_, part⟩
        rw [List.append_assoc, after_eq, ← List.append_assoc]
      · have absent : '\n' ∉ front ++ document ++ back := by
          rw [List.append_assoc]
          intro member
          rcases List.mem_append.mp member with before | after
          · exact newline before
          · exact ((ended fenced).resolve_left newline) after
        exact ⟨front, if_neg absent, List.Subset.refl front⟩
    obtain ⟨before, opened_eq, part⟩ := opened
    simp only [↓reduceIte, opened_eq]
    by_cases closed : fence.isSuffixOf (before ++ document ++ back) = true
    · obtain ⟨rest, rfl⟩ := exists_of_isSuffixOf_fence encloses closed
      have taken : (before ++ document ++ (rest ++ fence)).take
          ((before ++ document ++ (rest ++ fence)).length - fence.length) =
          before ++ document ++ rest := by
        rw [← List.append_assoc, List.length_append, Nat.add_sub_cancel, List.take_left']
        rfl
      rw [if_pos closed, taken, stripText_around encloses]
      refine ⟨_, _, rfl, fun char member => part (List.dropWhile_subset _ member), ?_⟩
      exact fun char member => List.mem_append_left _ ((List.rdropWhile_prefix _ _).subset member)
    · rw [if_neg closed]
      exact ⟨before, back, rfl, part, List.Subset.refl back⟩

/-- The document is returned when its bracket is the one that the scanner starts at. -/
theorem extractJson_of_shape (encloses : Encloses kind document) {content : List Char}
    (nonempty : content ≠ []) (shape : unfence (stripText content) = front ++ document ++ back)
    (before : kind.opening ∉ front)
    (opening : openingBracket (front ++ document ++ back) = some kind.opening) :
    extractJson content = .ok document := by
  have closing : (if kind.opening = '{' then '}' else ']') = kind.closing := by
    cases kind <;> rfl
  have start : (front ++ document ++ back).dropWhile
      (fun char => decide (char ≠ kind.opening)) = document ++ back := by
    obtain ⟨contents, rfl, _⟩ := encloses
    rw [List.append_assoc, List.cons_append, dropWhile_append_of_stop (by simp),
      dropWhile_ne_of_not_mem before, List.nil_append]
  have scanned : scan kind.opening kind.closing 0 false false (document ++ back) =
      some document := outside_encloses encloses
  rw [extractJson, if_neg nonempty]
  simp only [shape, opening, closing, start, scanned]

/-- If a fence opens a reply, after any whitespace, then its line ends before the document. -/
def EndsFenceLine (front : List Char) : Prop :=
  fence.isPrefixOf (front.dropWhile isSpace) = true → '\n' ∈ front.dropWhile isSpace

/-- An object is extracted where no brace precedes it. -/
theorem extractJson_of_brace (encloses : Encloses .brace document) (plain : '{' ∉ front)
    (ended : EndsFenceLine front) : extractJson (front ++ document ++ back) = .ok document := by
  have around : ∃ before after,
      unfence (front.dropWhile isSpace ++ document ++ back.rdropWhile isSpace) =
        before ++ document ++ after ∧ before ⊆ front.dropWhile isSpace ∧
        after ⊆ back.rdropWhile isSpace :=
    unfence_around encloses fun fenced => .inl (ended fenced)
  obtain ⟨before, after, shape, part, _⟩ := around
  rw [← stripText_around encloses] at shape
  have absent : '{' ∉ before := fun member =>
    plain (List.dropWhile_subset _ (part member))
  have present : '{' ∈ before ++ document ++ after := opening_mem_around encloses
  exact extractJson_of_shape encloses (List.ne_nil_of_mem (opening_mem_around encloses)) shape
    absent (if_pos present)

/-- The first object of a reply is extracted, whatever it contains and whatever follows it. -/
theorem object_extracted (object : Derives .object document) (plain : '{' ∉ front)
    (ended : EndsFenceLine front) : extractJson (front ++ document ++ back) = .ok document :=
  extractJson_of_brace object.encloses_brace plain ended

/-- An object whose string has braces, brackets and quotes in it. -/
def quotingObject : List Char := "\x7b \"a\": \"\x7d]\\\"\x7b\" \x7d".toList

theorem isBlank_space : IsBlank [' '] := by
  intro char member
  rw [List.mem_singleton.mp member]
  decide

theorem quotingObject_derived : Derives .object quotingObject := by
  have brace : IsStringChar ['{'] := .unescaped (by decide) (by decide) (by decide)
  have brace' : IsStringChar ['}'] := .unescaped (by decide) (by decide) (by decide)
  have bracket : IsStringChar [']'] := .unescaped (by decide) (by decide) (by decide)
  have quote : IsStringChar ['\\', '"'] := .escaped (by decide)
  have name : IsString ('"' :: (['a'] ++ ['"'])) := .ofPlain ['a'] (by decide)
  have text : IsString ['"', '}', ']', '\\', '"', '{', '"'] :=
    .quoted (.cons brace' (.cons bracket (.cons quote (.cons brace .nil))))
  have empty : IsBlank [] := fun _ member => (List.not_mem_nil member).elim
  exact .object isBlank_space (.member name empty isBlank_space (.string text)) isBlank_space

/-- A fenced object with a brace in one of its texts, after an introduction. -/
theorem quoting_object_extracted :
    extractJson ("Sure:\n```json\n".toList ++ quotingObject ++ "\n``` \x7b".toList) =
      .ok quotingObject :=
  object_extracted quotingObject_derived (by decide) (by unfold EndsFenceLine; decide +kernel)

/-- Four spaces make a line of code of the front, but it counts as a fence. -/
theorem indented_front_loses_object :
    Derives .object ['{', '\n', '}'] ∧ '{' ∉ "    ```".toList ∧
      fence.isPrefixOf "    ```".toList = false ∧
      extractJson ("    ```".toList ++ ['{', '\n', '}'] ++ []) =
        .error { msg := "model response contains no JSON object or array",
                 doc := "    ```".toList ++ ['{', '\n', '}'], pos := 0 } := by
  have newline : IsBlank ['\n'] := by
    intro char member
    rw [List.mem_singleton.mp member]
    decide
  exact ⟨.emptyObject newline, by decide, by decide, by rfl⟩

end Surroundings

section Results

variable {kind : Kind} {content found text : List Char}

/-- What the loop returns is read from the start of its text on. -/
theorem scan_prefix {openChar closeChar : Char} {depth : Int} {inString escaped : Bool}
    (scanned : scan openChar closeChar depth inString escaped text = some found) :
    found <+: text := by
  induction text generalizing depth inString escaped found with
  | nil => cases scanned
  | cons char rest ih =>
    have continued : ∀ {depth inString escaped},
        (scan openChar closeChar depth inString escaped rest).map (char :: ·) = some found →
          found <+: char :: rest := by
      intro depth inString escaped mapped
      obtain ⟨later, read, rfl⟩ := Option.map_eq_some_iff.mp mapped
      exact List.cons_prefix_cons.mpr ⟨rfl, ih read⟩
    simp only [scan] at scanned
    split_ifs at scanned
    all_goals try exact continued scanned
    -- The loop returns at one place only, with the character it has just read.
    rw [← Option.some.inj scanned]
    exact List.cons_prefix_cons.mpr ⟨rfl, List.nil_prefix⟩

/-- What is returned is read from the first bracket of the kind that is looked for. -/
theorem prefix_of_extractJson (returned : extractJson content = .ok found) :
    ∃ openChar, openingBracket (unfence (stripText content)) = some openChar ∧
      found <+: (unfence (stripText content)).dropWhile fun char => char ≠ openChar := by
  unfold extractJson at returned
  split at returned
  · cases returned
  dsimp only at returned
  split at returned
  · cases returned
  · rename_i openChar opening
    refine ⟨openChar, opening, ?_⟩
    split at returned
    · rename_i read scanned
      rw [← Except.ok.inj returned]
      exact scan_prefix scanned
    · cases returned

/-- Nothing is added by stripping. -/
theorem stripText_sublist (text : List Char) : (stripText text).Sublist text :=
  (List.rdropWhile_prefix _ _).sublist.trans (List.dropWhile_sublist _)

theorem unfence_sublist (text : List Char) :
    (unfence text).Sublist (if fence.isPrefixOf text then afterNewline text else text) := by
  unfold unfence
  dsimp only
  split_ifs
  · exact (stripText_sublist _).trans (List.take_sublist _ _)
  · exact List.Sublist.refl _
  · exact List.Sublist.refl _

end Results

section Arrays

variable {front document back : List Char}

/-- The prose of the replies. -/
def NoBrackets (text : List Char) : Prop := ∀ char ∈ text, char ∉ ['{', '}', '[', ']']

/-- If a fence opens a reply, then its line ends before the document or nowhere. -/
def FenceSpares (front document back : List Char) : Prop :=
  fence.isPrefixOf (front.dropWhile isSpace) = true →
    '\n' ∈ front.dropWhile isSpace ∨ '\n' ∉ document ++ back.rdropWhile isSpace

/-- An array without objects is extracted. -/
theorem array_extracted (array : Derives .array document) (before : NoBrackets front)
    (after : NoBrackets back) (braces : '{' ∉ document)
    (spared : FenceSpares front document back) :
    extractJson (front ++ document ++ back) = .ok document := by
  have encloses : Encloses .bracket document := array.encloses_bracket
  obtain ⟨start, rest, shape, part, part'⟩ := unfence_around encloses spared
  rw [← stripText_around encloses] at shape
  have start_plain : NoBrackets start := fun char member =>
    before char (List.dropWhile_subset _ (part member))
  have rest_plain : NoBrackets rest := fun char member =>
    after char ((List.rdropWhile_prefix _ _).subset (part' member))
  have absent : '{' ∉ start ++ document ++ rest := by
    intro member
    rcases List.mem_append.mp member with member | member
    · rcases List.mem_append.mp member with member | member
      · exact start_plain _ member (by decide)
      · exact braces member
    · exact rest_plain _ member (by decide)
  have present : '[' ∈ start ++ document ++ rest := opening_mem_around encloses
  refine extractJson_of_shape encloses (List.ne_nil_of_mem (opening_mem_around encloses)) shape
    (fun member => start_plain _ member (by decide)) ?_
  rw [openingBracket, if_neg absent, if_pos present]
  rfl

/-- When the array is returned there is no brace in it, since a brace would have come first. -/
theorem braces_of_array_extracted (encloses : Encloses .bracket document) {content : List Char}
    (returned : extractJson content = .ok document) :
    '{' ∉ document ∧ document.Sublist (unfence (stripText content)) := by
  obtain ⟨openChar, opening, read⟩ := prefix_of_extractJson returned
  have sublist := read.sublist.trans (List.dropWhile_sublist _)
  refine ⟨?_, sublist⟩
  obtain ⟨contents, rfl, _⟩ := encloses
  obtain ⟨rest, start⟩ := read
  have first : openChar = '[' := by
    have stopped := List.head?_dropWhile_not (fun char => decide (char ≠ openChar))
      (unfence (stripText content))
    rw [← start] at stopped
    have same : Kind.bracket.opening = openChar := by
      simpa only [List.cons_append, List.head?_cons, decide_eq_false_iff_not, ne_eq,
        Decidable.not_not] using stopped
    exact same.symm
  rw [openingBracket, first] at opening
  intro brace
  rw [if_pos (sublist.subset brace)] at opening
  cases Option.some.inj opening

/-- When the array is returned the line of the fence has not ended within it or after it. -/
theorem spared_of_array_extracted (encloses : Encloses .bracket document)
    (after : NoBrackets back)
    (returned : extractJson (front ++ document ++ back) = .ok document) :
    FenceSpares front document back := by
  obtain ⟨_, sublist⟩ := braces_of_array_extracted encloses returned
  rw [stripText_around encloses] at sublist
  intro fenced
  by_contra lost
  obtain ⟨absent, newline⟩ := not_or.mp lost
  have newline := Decidable.not_not.mp newline
  have opened := unfence_sublist (front.dropWhile isSpace ++ document ++ back.rdropWhile isSpace)
  rw [isPrefixOf_fence_around encloses, if_pos fenced] at opened
  obtain ⟨contents, rfl, _⟩ := encloses
  -- What follows the newline has one opening bracket less than the document.
  have cut : (afterNewline (front.dropWhile isSpace ++
      Kind.bracket.opening :: (contents ++ [Kind.bracket.closing]) ++
      back.rdropWhile isSpace)).Sublist
        (contents ++ [Kind.bracket.closing] ++ back.rdropWhile isSpace) := by
    have found : '\n' ∈ front.dropWhile isSpace ++
        Kind.bracket.opening :: (contents ++ [Kind.bracket.closing]) ++
        back.rdropWhile isSpace := by
      rw [List.append_assoc]
      exact List.mem_append_right _ newline
    rw [afterNewline, if_pos found, List.append_assoc, List.dropWhile_append,
      dropWhile_ne_of_not_mem absent, if_pos List.isEmpty_nil, List.cons_append,
      List.dropWhile_cons_of_pos (by decide)]
    exact (List.tail_sublist _).trans (List.dropWhile_sublist _)
  have counts := ((sublist.trans opened).trans cut).count_le '['
  have prose : (back.rdropWhile isSpace).count '[' = 0 := by
    rw [List.count_eq_zero]
    intro member
    exact after _ ((List.rdropWhile_prefix _ _).subset member) (by decide)
  have bracket : Kind.bracket.opening = '[' := rfl
  simp only [bracket, List.count_cons_self, List.count_append, prose] at counts
  omega

end Arrays

end ActionPlan.Llm
