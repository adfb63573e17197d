import Mathlib.Data.List.Basic

/-! # Percent-encoding

A text is written with some of its characters as they are and the UTF-8 octets of the others as
escapes. Reading the escapes once gives the text back, and a text is its own encoding if and only
if all of its characters are kept.
-/

namespace ActionPlan.Foundation.PercentEncoding

/-- The digit of a number below sixteen. -/
def hexDigit (value : Nat) : Char :=
  if value < 10 then Char.ofNat (48 + value) else Char.ofNat (55 + value)

/-- The value of a hexadecimal digit of either case. -/
def hexValue (char : Char) : Option Nat :=
  let code := char.toNat
  if 48 ≤ code ∧ code ≤ 57 then some (code - 48)
  else if 65 ≤ code ∧ code ≤ 70 then some (code - 55)
  else if 97 ≤ code ∧ code ≤ 102 then some (code - 87)
  else none

/-- The escape sequence of a byte. -/
def escapeByte (byte : UInt8) : List Char :=
  ['%', hexDigit (byte.toNat / 16), hexDigit (byte.toNat % 16)]

/-- The escapes of a character's octets. -/
def escapeChar (char : Char) : List Char := (String.utf8EncodeChar char).flatMap escapeByte

/-- A text with the characters kept that are not to be escaped. -/
def encode (kept : Char → Bool) (text : List Char) : List Char :=
  text.flatMap fun char => if kept char then [char] else escapeChar char

/-- The octets of a text whose escapes are read. A percent sign that begins no escape is kept. -/
def decodeBytes : List Char → List UInt8
  | '%' :: high :: low :: rest =>
    match hexValue high, hexValue low with
    | some first, some second => UInt8.ofNat (16 * first + second) :: decodeBytes rest
    | _, _ => String.utf8EncodeChar '%' ++ decodeBytes (high :: low :: rest)
  | char :: rest => String.utf8EncodeChar char ++ decodeBytes rest
  | [] => []

/-- The text with its escapes read once, if its octets are UTF-8. -/
def decode (text : List Char) : Option (List Char) :=
  (decodeBytes text).toByteArray.utf8Decode?.map Array.toList

/-- A digit has the value for which it was written. -/
theorem hexValue_hexDigit : ∀ value < 16, hexValue (hexDigit value) = some value := by
  decide

/-- An escape sequence stands for its byte. -/
theorem decodeBytes_escapeByte (byte : UInt8) (rest : List Char) :
    decodeBytes (escapeByte byte ++ rest) = byte :: decodeBytes rest := by
  have high : byte.toNat / 16 < 16 := by
    have := byte.toNat_lt
    omega
  have low : byte.toNat % 16 < 16 := Nat.mod_lt _ (by decide)
  simp only [escapeByte, List.cons_append, List.nil_append, decodeBytes,
    hexValue_hexDigit _ high, hexValue_hexDigit _ low, Nat.div_add_mod, UInt8.ofNat_toNat]

theorem decodeBytes_escapeBytes (bytes : List UInt8) (rest : List Char) :
    decodeBytes (bytes.flatMap escapeByte ++ rest) = bytes ++ decodeBytes rest := by
  induction bytes with
  | nil => rfl
  | cons byte bytes ih =>
    rw [List.flatMap_cons, List.append_assoc, decodeBytes_escapeByte, ih, List.cons_append]

/-- Any other character stands for its own bytes. -/
theorem decodeBytes_of_ne {char : Char} (plain : char ≠ '%') (rest : List Char) :
    decodeBytes (char :: rest) = String.utf8EncodeChar char ++ decodeBytes rest := by
  rw [decodeBytes.eq_2]
  rintro _ _ _ rfl
  exact absurd rfl plain

variable {kept : Char → Bool}

theorem encode_cons_of_kept {char : Char} (plain : kept char = true) (text : List Char) :
    encode kept (char :: text) = char :: encode kept text := by
  simp only [encode, List.flatMap_cons, plain, ↓reduceIte, List.singleton_append]

theorem encode_cons_of_not_kept {char : Char} (special : kept char = false) (text : List Char) :
    encode kept (char :: text) = escapeChar char ++ encode kept text := by
  simp only [encode, List.flatMap_cons, special, Bool.false_eq_true, ↓reduceIte]

/-- A text is encoded character by character. -/
theorem encode_append (text rest : List Char) :
    encode kept (text ++ rest) = encode kept text ++ encode kept rest :=
  List.flatMap_append

/-- An encoding depends only on which characters of the text are kept. -/
theorem encode_congr {kept' : Char → Bool} {text : List Char}
    (same : ∀ char ∈ text, kept char = kept' char) : encode kept text = encode kept' text := by
  refine List.flatMap_congr ?_
  intro char member
  rw [same char member]

/-- The encoding of a text stands for the bytes of the text. -/
theorem decodeBytes_encode (escaped : kept '%' = false) (text : List Char) :
    decodeBytes (encode kept text) = text.flatMap String.utf8EncodeChar := by
  induction text with
  | nil => rfl
  | cons char text ih =>
    rw [List.flatMap_cons]
    cases plain : kept char with
    | true =>
      have different : char ≠ '%' := by
        rintro rfl
        rw [escaped] at plain
        cases plain
      rw [encode_cons_of_kept plain, decodeBytes_of_ne different, ih]
    | false => rw [encode_cons_of_not_kept plain, escapeChar, decodeBytes_escapeBytes, ih]

/-- Reading the escapes once undoes one encoding. -/
theorem decode_encode (escaped : kept '%' = false) (text : List Char) :
    decode (encode kept text) = some text := by
  have octets : (text.flatMap String.utf8EncodeChar).toByteArray = text.utf8Encode := rfl
  rw [decode, decodeBytes_encode escaped, octets, List.utf8Decode?_utf8Encode, Option.map_some]

/-- What an encoding consists of. -/
theorem mem_encode {char : Char} {text : List Char} (member : char ∈ encode kept text) :
    kept char = true ∨ char ∈ "%0123456789ABCDEF".toList := by
  obtain ⟨source, _, written⟩ := List.mem_flatMap.mp member
  cases plain : kept source with
  | true =>
    rw [plain, if_pos rfl, List.mem_singleton] at written
    rw [written]
    exact .inl plain
  | false =>
    simp only [plain, Bool.false_eq_true, ↓reduceIte, escapeChar] at written
    obtain ⟨byte, _, digit⟩ := List.mem_flatMap.mp written
    have digits : ∀ value < 16, hexDigit value ∈ "%0123456789ABCDEF".toList := by decide
    have bound : byte.toNat < 256 := byte.toNat_lt
    refine .inr ?_
    rcases List.mem_cons.mp digit with rfl | digit
    · decide
    rcases List.mem_cons.mp digit with rfl | digit
    · exact digits _ (by omega)
    rw [List.mem_singleton.mp digit]
    exact digits _ (by omega)

theorem length_escapeChar (char : Char) : 1 < (escapeChar char).length := by
  cases octets : String.utf8EncodeChar char with
  | nil => exact absurd octets String.utf8EncodeChar_ne_nil
  | cons byte bytes =>
    rw [escapeChar, octets, List.flatMap_cons, List.length_append]
    exact Nat.lt_add_right _ (by decide : 1 < 3)

/-- An encoding is not shorter than its text. -/
theorem length_le_encode (text : List Char) : text.length ≤ (encode kept text).length := by
  induction text with
  | nil => exact Nat.le_refl 0
  | cons char text ih =>
    cases plain : kept char with
    | true =>
      rw [encode_cons_of_kept plain, List.length_cons, List.length_cons]
      omega
    | false =>
      have longer := length_escapeChar char
      rw [encode_cons_of_not_kept plain, List.length_append, List.length_cons]
      omega

/-- A text is its own encoding when every character is kept. -/
theorem encode_eq_self_iff (text : List Char) :
    encode kept text = text ↔ ∀ char ∈ text, kept char = true := by
  induction text with
  | nil => exact ⟨fun _ _ member => (List.not_mem_nil member).elim, fun _ => rfl⟩
  | cons char text ih =>
    rw [List.forall_mem_cons]
    cases plain : kept char with
    | true =>
      rw [encode_cons_of_kept plain, List.cons.injEq, ih]
      simp only [true_and]
    | false =>
      refine iff_of_false ?_ (by simp)
      intro same
      have longer := length_escapeChar char
      have lengths := congrArg List.length same
      rw [encode_cons_of_not_kept plain, List.length_append, List.length_cons] at lengths
      have rest : text.length ≤ (encode kept text).length := length_le_encode text
      omega

end ActionPlan.Foundation.PercentEncoding
