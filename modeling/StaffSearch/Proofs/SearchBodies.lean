import StaffSearch.Http.Router
import StaffSearch.Proofs.JsonText

/-!
# Every spelling of a search is read

A client may write the body that asks for a query in many ways: blanks may stand between any two
parts of it, and each character of a string may stand there itself, behind a backslash, by its code,
or by the codes of two halves (`Spells`).  All of them are read as the same query.

The bytes of a text are read as its characters first, one group of bytes at a time
(`decode_encode`).  A spelled string is cut off at its closing quote and every spelling in it is
resolved (`readString_spelled`).  The body as a whole is then read from blank to blank
(`readBody_encode`).
-/

namespace StaffSearch.Text

/-! ## Bytes of characters -/

/-- The bytes of a text. -/
def encode (text : List Char) : List UInt8 := text.flatMap String.utf8EncodeChar

theorem toNat_byte {n : Nat} (h : n < 256) : (UInt8.ofNat n).toNat = n := by
  rw [UInt8.toNat_ofNat']
  exact Nat.mod_eq_of_lt h

theorem byte_lt_iff {n : Nat} (bound : Nat) (h : n < 256) (hBound : bound < 256) :
    UInt8.ofNat n < UInt8.ofNat bound ↔ n < bound := by
  rw [UInt8.lt_iff_toNat_lt, toNat_byte h, toNat_byte hBound]

theorem byte_le_iff {n : Nat} (bound : Nat) (h : n < 256) (hBound : bound < 256) :
    UInt8.ofNat bound ≤ UInt8.ofNat n ↔ bound ≤ n := by
  rw [UInt8.le_iff_toNat_le, toNat_byte h, toNat_byte hBound]

/-- A byte behind the first one of a group. -/
def continuing (n : Nat) : UInt8 := UInt8.ofNat (n % 64 + 128)

theorem isContinuation_continuing (n : Nat) : isContinuation (continuing n) = true := by
  have hLow : (0x80 : UInt8) ≤ continuing n :=
    (byte_le_iff 0x80 (by omega) (by decide)).mpr (Nat.le_add_left _ _)
  have hHigh : continuing n ≤ 0xBF :=
    (byte_le_iff (n % 64 + 128) (by decide) (by omega)).mpr (show n % 64 + 128 ≤ 191 by omega)
  rw [isContinuation, decide_eq_true hLow, decide_eq_true hHigh, Bool.true_and]

theorem continuationBits_continuing (n : Nat) : continuationBits (continuing n) = n % 64 := by
  rw [continuationBits, continuing, toNat_byte (by omega)]
  omega

theorem characterFrom?_toNat (c : Char) {least code : Nat} (hCode : code = c.toNat)
    (h : least ≤ c.toNat) : characterFrom? least code = some c := by
  have hValid : c.toNat < 0xD800 ∨ (0xDFFF < c.toNat ∧ c.toNat < 0x110000) := c.valid
  rw [hCode, characterFrom?, if_pos ⟨h, hValid⟩, Char.ofNat_toNat]

theorem utf8EncodeChar_eq (c : Char) : String.utf8EncodeChar c =
    if c.toNat ≤ 127 then [UInt8.ofNat c.toNat]
    else if c.toNat ≤ 2047 then [UInt8.ofNat (c.toNat / 64 % 32 + 192), continuing c.toNat]
    else if c.toNat ≤ 65535 then
      [UInt8.ofNat (c.toNat / 4096 % 16 + 224), continuing (c.toNat / 64), continuing c.toNat]
    else
      [UInt8.ofNat (c.toNat / 262144 % 8 + 240), continuing (c.toNat / 4096),
        continuing (c.toNat / 64), continuing c.toNat] := rfl

section Groups

variable {lead : Nat} (k m n : Nat) (rest : List UInt8)

theorem characterAt?_one (h : lead < 128) :
    characterAt? (UInt8.ofNat lead :: rest) = some (Char.ofNat lead, 0) := by
  have hHere : UInt8.ofNat lead < 0x80 := (byte_lt_iff 0x80 (by omega) (by decide)).mpr h
  rw [characterAt?.eq_def]
  dsimp only
  rw [if_pos hHere, toNat_byte (by omega)]

theorem characterAt?_two (h : lead < 32) :
    characterAt? (UInt8.ofNat (lead + 192) :: continuing n :: rest) =
      (characterFrom? 0x80 (lead * 64 + n % 64)).map (·, 1) := by
  have hAbove : ¬ UInt8.ofNat (lead + 192) < 0x80 :=
    mt (byte_lt_iff 0x80 (by omega) (by decide)).mp (by omega)
  have hHere : UInt8.ofNat (lead + 192) < 0xE0 :=
    (byte_lt_iff 0xE0 (by omega) (by decide)).mpr (by omega)
  have hLeast : (0xC0 : UInt8) ≤ UInt8.ofNat (lead + 192) :=
    (byte_le_iff 0xC0 (by omega) (by decide)).mpr (by omega)
  have hBits : (lead + 192) % 32 = lead := by omega
  rw [characterAt?.eq_def]
  dsimp only
  rw [if_neg hAbove, if_pos hHere, decide_eq_true hLeast, isContinuation_continuing,
    if_pos (Bool.and_self true), toNat_byte (by omega), hBits, continuationBits_continuing]

theorem characterAt?_three (h : lead < 16) :
    characterAt? (UInt8.ofNat (lead + 224) :: continuing m :: continuing n :: rest) =
      (characterFrom? 0x800 ((lead * 64 + m % 64) * 64 + n % 64)).map (·, 2) := by
  have hAbove : ¬ UInt8.ofNat (lead + 224) < 0x80 :=
    mt (byte_lt_iff 0x80 (by omega) (by decide)).mp (by omega)
  have hAboveTwo : ¬ UInt8.ofNat (lead + 224) < 0xE0 :=
    mt (byte_lt_iff 0xE0 (by omega) (by decide)).mp (by omega)
  have hHere : UInt8.ofNat (lead + 224) < 0xF0 :=
    (byte_lt_iff 0xF0 (by omega) (by decide)).mpr (by omega)
  have hBits : (lead + 224) % 16 = lead := by omega
  rw [characterAt?.eq_def]
  dsimp only
  rw [if_neg hAbove, if_neg hAboveTwo, if_pos hHere, isContinuation_continuing,
    isContinuation_continuing, if_pos (Bool.and_self true), toNat_byte (by omega), hBits,
    continuationBits_continuing, continuationBits_continuing]

theorem characterAt?_four (h : lead < 8) :
    characterAt?
        (UInt8.ofNat (lead + 240) :: continuing k :: continuing m :: continuing n :: rest) =
      (characterFrom? 0x10000 (((lead * 64 + k % 64) * 64 + m % 64) * 64 + n % 64)).map
        (·, 3) := by
  have hAbove : ¬ UInt8.ofNat (lead + 240) < 0x80 :=
    mt (byte_lt_iff 0x80 (by omega) (by decide)).mp (by omega)
  have hAboveTwo : ¬ UInt8.ofNat (lead + 240) < 0xE0 :=
    mt (byte_lt_iff 0xE0 (by omega) (by decide)).mp (by omega)
  have hAboveThree : ¬ UInt8.ofNat (lead + 240) < 0xF0 :=
    mt (byte_lt_iff 0xF0 (by omega) (by decide)).mp (by omega)
  have hHere : UInt8.ofNat (lead + 240) < 0xF8 :=
    (byte_lt_iff 0xF8 (by omega) (by decide)).mpr (by omega)
  have hBits : (lead + 240) % 8 = lead := by omega
  rw [characterAt?.eq_def]
  dsimp only
  rw [if_neg hAbove, if_neg hAboveTwo, if_neg hAboveThree, if_pos hHere,
    isContinuation_continuing, isContinuation_continuing, isContinuation_continuing,
    Bool.and_self, if_pos (Bool.and_self true), toNat_byte (by omega), hBits,
    continuationBits_continuing, continuationBits_continuing, continuationBits_continuing]

end Groups

/-- A group of bytes is the character that it was made of. -/
theorem characterAt?_encode (c : Char) (rest : List UInt8) :
    characterAt? (String.utf8EncodeChar c ++ rest) =
      some (c, (String.utf8EncodeChar c).length - 1) := by
  have hValid : c.toNat < 0xD800 ∨ (0xDFFF < c.toNat ∧ c.toNat < 0x110000) := c.valid
  rw [utf8EncodeChar_eq]
  split
  · rw [List.singleton_append, characterAt?_one _ (by omega), Char.ofNat_toNat]
    rfl
  · split
    · rw [List.cons_append, List.singleton_append, characterAt?_two _ _ (by omega),
        characterFrom?_toNat c (by omega) (by omega)]
      rfl
    · split
      · rw [List.cons_append, List.cons_append, List.singleton_append,
          characterAt?_three _ _ _ (by omega), characterFrom?_toNat c (by omega) (by omega)]
        rfl
      · rw [List.cons_append, List.cons_append, List.cons_append, List.singleton_append,
          characterAt?_four _ _ _ _ (by omega), characterFrom?_toNat c (by omega) (by omega)]
        rfl

theorem decodeAfter_append (skipped rest : List UInt8) :
    decodeAfter skipped.length (skipped ++ rest) = decodeAfter 0 rest := by
  induction skipped with
  | nil => rfl
  | cons byte skipped ih => exact ih

theorem length_le_length_encode (text : List Char) : text.length ≤ (encode text).length := by
  induction text with
  | nil => exact Nat.le_refl _
  | cons c text ih =>
      have hSome := c.utf8Size_pos
      rw [encode, List.flatMap_cons, ← encode, List.length_append, List.length_cons,
        String.length_utf8EncodeChar]
      omega

/-- **The bytes of a text are read as its characters.** -/
@[simp] theorem decode_encode (text : List Char) : decode (encode text) = text.map some := by
  induction text with
  | nil => rfl
  | cons c text ih =>
      have hChar := characterAt?_encode c (encode text)
      obtain ⟨byte, more, hBytes⟩ : ∃ byte more, String.utf8EncodeChar c = byte :: more := by
        rw [utf8EncodeChar_eq]
        split
        · exact ⟨_, _, rfl⟩
        · split
          · exact ⟨_, _, rfl⟩
          · split <;> exact ⟨_, _, rfl⟩
      rw [hBytes, List.cons_append, List.length_cons, Nat.add_sub_cancel] at hChar
      rw [encode, List.flatMap_cons, ← encode, hBytes, List.cons_append, decode, decodeAfter,
        hChar]
      dsimp only
      rw [decodeAfter_append, ← decode, ih]
      rfl

end StaffSearch.Text

namespace StaffSearch.Json

open StaffSearch.Text

/-! ## Spelled strings -/

/-- The ways in which a client may spell a character in a string. -/
inductive Spells (c : Char) : List Char → Prop
  /-- As it is written here: itself, or behind a backslash. -/
  | written {text : List Char} (h : StandsFor c text) : Spells c text
  /-- By its code. -/
  | code {d e f g : Char} (hCode : hexQuad? (some d) (some e) (some f) (some g) = some c.toNat) :
      Spells c ['\\', 'u', d, e, f, g]
  /-- By the codes of its halves. -/
  | halves {d e f g d' e' f' g' : Char} {leading trailing : Nat}
      (hLeading : hexQuad? (some d) (some e) (some f) (some g) = some leading)
      (hTrailing : hexQuad? (some d') (some e') (some f') (some g') = some trailing)
      (isLeading : isLeadingSurrogate leading = true)
      (isTrailing : isTrailingSurrogate trailing = true)
      (hCode : 0x10000 + (leading - 0xD800) * 0x400 + (trailing - 0xDC00) = c.toNat) :
      Spells c ['\\', 'u', d, e, f, g, '\\', 'u', d', e', f', g']

/-- A text is spelled character by character. -/
inductive SpellsText : List Char → List Char → Prop
  | nil : SpellsText [] []
  | cons {c : Char} {text piece spelled : List Char} (hPiece : Spells c piece)
      (hSpelled : SpellsText text spelled) : SpellsText (c :: text) (piece ++ spelled)

theorem isHexDigit_visible {c : Char} (h : isHexDigit c = true) :
    c ≠ '"' ∧ c ≠ '\\' ∧ 0x20 ≤ c.toNat := by
  have hControls : ∀ n < 0x20, isHexDigit (Char.ofNat n) = false := by decide
  refine ⟨?_, ?_, Nat.le_of_not_lt fun hControl => ?_⟩
  · rintro rfl
    exact absurd h (by decide)
  · rintro rfl
    exact absurd h (by decide)
  · have hNone := hControls c.toNat hControl
    rw [Char.ofNat_toNat, h] at hNone
    exact absurd hNone (by decide)

theorem isHexDigit_of_hexQuad? {d e f g : Char} {unit : Nat}
    (h : hexQuad? (some d) (some e) (some f) (some g) = some unit) :
    isHexDigit d = true ∧ isHexDigit e = true ∧ isHexDigit f = true ∧ isHexDigit g = true := by
  rw [hexQuad?] at h
  split at h
  · next hAll =>
      simp only [Bool.and_eq_true] at hAll
      exact ⟨hAll.1.1.1, hAll.1.1.2, hAll.1.2, hAll.2⟩
  · exact absurd h (by simp)

/-- An escaped code is cut off as a whole. -/
theorem cutString_code {d e f g : Char} {unit : Nat}
    (h : hexQuad? (some d) (some e) (some f) (some g) = some unit) (input : List Symbol) :
    cutString (some '\\' :: some 'u' :: some d :: some e :: some f :: some g :: input) =
      (cutString input).map fun (content, after) =>
        (some '\\' :: some 'u' :: some d :: some e :: some f :: some g :: content, after) := by
  obtain ⟨hD, hE, hF, hG⟩ := isHexDigit_of_hexQuad? h
  obtain ⟨hQuoteD, hBackslashD, hVisibleD⟩ := isHexDigit_visible hD
  obtain ⟨hQuoteE, hBackslashE, hVisibleE⟩ := isHexDigit_visible hE
  obtain ⟨hQuoteF, hBackslashF, hVisibleF⟩ := isHexDigit_visible hF
  obtain ⟨hQuoteG, hBackslashG, hVisibleG⟩ := isHexDigit_visible hG
  change (cutString (some d :: some e :: some f :: some g :: input)).map _ = _
  rw [cutString_visible hQuoteD hBackslashD hVisibleD,
    cutString_visible hQuoteE hBackslashE hVisibleE,
    cutString_visible hQuoteF hBackslashF hVisibleF,
    cutString_visible hQuoteG hBackslashG hVisibleG]
  simp only [Option.map_map]
  rfl

theorem cutString_spells {c : Char} {piece : List Char} (h : Spells c piece)
    (input : List Symbol) :
    cutString (piece.map some ++ input) =
      (cutString input).map fun (content, after) => (piece.map some ++ content, after) := by
  cases h with
  | written hStands => exact cutString_standsFor hStands input
  | code hCode => exact cutString_code hCode input
  | halves hLeading hTrailing _ _ _ =>
      change cutString (some '\\' :: some 'u' :: some _ :: some _ :: some _ :: some _ ::
        some '\\' :: some 'u' :: some _ :: some _ :: some _ :: some _ :: input) = _
      rw [cutString_code hLeading, cutString_code hTrailing, Option.map_map]
      rfl

/-- A character is no half of a pair. -/
theorem not_surrogate (c : Char) :
    isLeadingSurrogate c.toNat = false ∧ isTrailingSurrogate c.toNat = false := by
  have hValid : c.toNat < 0xD800 ∨ (0xDFFF < c.toNat ∧ c.toNat < 0x110000) := c.valid
  rw [isLeadingSurrogate, isTrailingSurrogate, ← Bool.not_eq_true, ← Bool.not_eq_true]
  simp only [Bool.and_eq_true, decide_eq_true_eq]
  omega

theorem unescape_spells {c : Char} {piece : List Char} (h : Spells c piece)
    (input : List Symbol) :
    unescape (piece.map some ++ input) = (unescape input).map (c :: ·) := by
  cases h with
  | written hStands => exact unescape_standsFor hStands input
  | code hCode =>
      obtain ⟨hLeading, hTrailing⟩ := not_surrogate c
      change unescape (some '\\' :: some 'u' :: some _ :: some _ :: some _ :: some _ :: input) = _
      rw [unescape.eq_2, hCode]
      simp only [hLeading, hTrailing, Bool.false_eq_true, if_false, Char.ofNat_toNat]
  | halves hLeading hTrailing isLeading isTrailing hCode =>
      change unescape (some '\\' :: some 'u' :: some _ :: some _ :: some _ :: some _ ::
        some '\\' :: some 'u' :: some _ :: some _ :: some _ :: some _ :: input) = _
      rw [unescape.eq_2, hLeading]
      simp only [isLeading, hTrailing, isTrailing, if_true, hCode, Char.ofNat_toNat]

theorem cutString_spelled {text spelled : List Char} (h : SpellsText text spelled)
    (rest : List Symbol) :
    cutString (spelled.map some ++ some '"' :: rest) = some (spelled.map some, rest) := by
  induction h with
  | nil => rfl
  | cons hPiece _ ih =>
      rw [List.map_append, List.append_assoc, cutString_spells hPiece, ih]
      rfl

theorem unescape_spelled {text spelled : List Char} (h : SpellsText text spelled) :
    unescape (spelled.map some) = some text := by
  induction h with
  | nil => rfl
  | cons hPiece _ ih =>
      rw [List.map_append, unescape_spells hPiece, ih]
      rfl

/-- **A string is read behind its opening quote**, however it is spelled. -/
theorem readString_spelled {text : String} {spelled : List Char}
    (h : SpellsText text.toList spelled) (rest : List Symbol) :
    readString (spelled.map some ++ some '"' :: rest) = some (text, rest) := by
  rw [readString, cutString_spelled h]
  simp only [unescape_spelled h, Option.map_some, String.ofList_toList]

/-- The printer spells every text. -/
theorem spellsText_escaped (text : List Char) : SpellsText text (text.flatMap escapeChar) := by
  induction text with
  | nil => exact .nil
  | cons c text ih => exact .cons (.written (standsFor_escapeChar c)) ih

end StaffSearch.Json

namespace StaffSearch.Http

open StaffSearch.Json StaffSearch.Text

/-! ## Bodies that ask for a query -/

/-- A way of writing an object whose only member is the query: how the name and the query are
spelled, and the blanks before and behind each part. -/
structure QueryBody (query : String) where
  /-- The name of the member. -/
  name : List Char
  /-- The value of the member. -/
  value : List Char
  /-- The blanks before the object, the name, the colon, the value, the closing brace, and behind
  the object. -/
  blanks : Fin 6 → List Char
  isName : SpellsText "query".toList name
  isValue : SpellsText query.toList value
  areBlank : ∀ i, ∀ c ∈ blanks i, isSpace (some c) = true

namespace QueryBody

variable {query : String} (body : QueryBody query)

/-- The text of the body. -/
def text : List Char :=
  body.blanks 0 ++ '{' :: (body.blanks 1 ++ '"' :: (body.name ++ '"' :: (body.blanks 2 ++ ':' ::
    (body.blanks 3 ++ '"' :: (body.value ++ '"' :: (body.blanks 4 ++ '}' :: body.blanks 5))))))

/-- A body as the printer writes it, with some blanks in front. -/
def padded (padding : Nat) (query : String) : QueryBody query where
  name := "query".toList.flatMap escapeChar
  value := query.toList.flatMap escapeChar
  blanks i := if i = 0 then List.replicate padding ' ' else []
  isName := spellsText_escaped _
  isValue := spellsText_escaped _
  areBlank i c hMem := by
    split at hMem
    · rw [List.eq_of_mem_replicate hMem]
      decide
    · exact absurd hMem List.not_mem_nil

theorem padding_lt_length_text (padding : Nat) (query : String) :
    padding < (padded padding query).text.length := by
  have hFront : (padded padding query).blanks 0 = List.replicate padding ' ' := rfl
  rw [text, hFront, List.length_append, List.length_cons, List.length_replicate]
  omega

theorem skipSpace_blanks (i : Fin 6) (rest : List Symbol) :
    skipSpace ((body.blanks i).map some ++ rest) = skipSpace rest := by
  rw [skipSpace, skipSpace, List.dropWhile_append_of_pos]
  intro symbol hMem
  obtain ⟨c, hBlank, rfl⟩ := List.mem_map.mp hMem
  exact body.areBlank i c hBlank

/-- The value is read behind the closing quote of the name. -/
theorem readMemberQuery_text (rest : List Symbol) :
    readMemberQuery ((body.blanks 2).map some ++ some ':' :: ((body.blanks 3).map some ++
      some '"' :: (body.value.map some ++ some '"' :: rest))) = .ok (some query, rest) := by
  rw [readMemberQuery, body.skipSpace_blanks, skipSpace_cons (by decide)]
  change readQuery _ = _
  rw [readQuery, body.skipSpace_blanks, skipSpace_cons (by decide)]
  change wellFormed ((readString _).map _) = _
  rw [readString_spelled body.isValue]
  rfl

/-- The object is read from its name on. -/
theorem readObject_text (steps : Nat) (rest : List Symbol) :
    readObject (steps + 1) none (some '"' :: (body.name.map some ++ some '"' ::
      ((body.blanks 2).map some ++ some ':' :: ((body.blanks 3).map some ++ some '"' ::
        (body.value.map some ++ some '"' :: ((body.blanks 4).map some ++ some '}' :: rest)))))) =
      .ok (some query, rest) := by
  rw [readObject, skipSpace_cons (by decide)]
  change (wellFormed (readString _)).bind _ = _
  rw [readString_spelled body.isName]
  simp only [wellFormed, Except.bind, beq_self_eq_true, if_true]
  rw [body.readMemberQuery_text]
  simp only [Except.map, bind, Except.bind]
  rw [body.skipSpace_blanks, skipSpace_cons (by decide)]
  rfl

/-- **Every way of writing a query is read as the query.** -/
theorem readBody_text : readBody (body.text.map some) = .ok (some query) := by
  have hRequest : readRequest (body.text.map some) =
      .ok (some query, (body.blanks 5).map some) := by
    simp only [text, List.map_append, List.map_cons]
    rw [readRequest, body.skipSpace_blanks, skipSpace_cons (by decide)]
    simp only
    rw [body.skipSpace_blanks, skipSpace_cons (by decide)]
    exact body.readObject_text _ _
  have hEnd : skipSpace ((body.blanks 5).map some) = [] := by
    have hBlanks := body.skipSpace_blanks 5 []
    rw [List.append_nil] at hBlanks
    exact hBlanks
  rw [readBody, hRequest]
  change (if (skipSpace _).isEmpty = true then _ else _) = _
  rw [hEnd]
  rfl

/-- The bytes of a body are read as its query. -/
theorem readBody_encode : readBody (decode (encode body.text)) = .ok (some query) := by
  rw [decode_encode, body.readBody_text]

end QueryBody

end StaffSearch.Http
