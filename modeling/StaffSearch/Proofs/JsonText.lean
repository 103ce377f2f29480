import StaffSearch.Json.Printer
import StaffSearch.Json.Reader
import StaffSearch.Proofs.Digits

/-!
# JSON is read as it is written

Writing a value and reading the text gives the value again, as long as its numbers are whole and fit
a word of 64 bits, and it is not nested too deeply (`Plain`).  Doubles are left out.  Their text is
rounded on the way.

The reader answers a value together with the rest of the input, so every lemma here has a rest
behind the written form.  Strings are taken apart by the three ways in which a character can stand
in them (`StandsFor`).  Values are read by induction on the value, the items of an array and the
members of an object by induction on their list.  The reader counts its steps.  Two for every symbol
are enough, because each step takes a symbol off the input or descends to an item that is shorter
than its list.

* `readString_quote`: a string is read behind its opening quote.
* `readNumber_toString`: a whole number is read.
* `readValue_written`: a value is read, whatever stands behind it.
* `parse?_render`: the text of a value is read as the value.
-/

namespace StaffSearch.Json

open StaffSearch.Text

/-! ## Symbols -/

@[simp] theorem symbols_append (a b : String) : symbols (a ++ b) = symbols a ++ symbols b := by
  simp [symbols]

@[simp] theorem skipSpace_cons {symbol : Symbol} {rest : List Symbol} (h : isSpace symbol = false) :
    skipSpace (symbol :: rest) = symbol :: rest := by
  rw [skipSpace, List.dropWhile_cons_of_neg]
  rw [h]
  exact Bool.false_ne_true

/-! ## Strings -/

/-- The three ways in which a character stands in a string. -/
inductive StandsFor (c : Char) : List Char → Prop
  /-- Behind a backslash, by a letter of its own. -/
  | short {letter : Char} (hLetter : shortEscape? letter = some c) : StandsFor c ['\\', letter]
  /-- By its code, if it is a control character. -/
  | code (hControl : c.toNat < 0x20) :
      StandsFor c ['\\', 'u', '0', '0', hexDigit (c.toNat / 16), hexDigit (c.toNat % 16)]
  /-- As it is. -/
  | plain (hQuote : c ≠ '"') (hBackslash : c ≠ '\\') (hVisible : 0x20 ≤ c.toNat) :
      StandsFor c [c]

theorem standsFor_escapeChar (c : Char) : StandsFor c (escapeChar c) := by
  unfold escapeChar
  by_cases hQuote : c = '"'
  · subst hQuote
    exact .short rfl
  rw [if_neg hQuote]
  by_cases hBackslash : c = '\\'
  · subst hBackslash
    exact .short rfl
  rw [if_neg hBackslash]
  by_cases hLine : c = '\n'
  · subst hLine
    exact .short rfl
  rw [if_neg hLine]
  by_cases hReturn : c = '\r'
  · subst hReturn
    exact .short rfl
  rw [if_neg hReturn]
  by_cases hTab : c = '\t'
  · subst hTab
    exact .short rfl
  rw [if_neg hTab]
  by_cases hBack : c = '\x08'
  · subst hBack
    exact .short rfl
  rw [if_neg hBack]
  by_cases hFeed : c = '\x0c'
  · subst hFeed
    exact .short rfl
  rw [if_neg hFeed]
  by_cases hControl : c.toNat < 0x20
  · rw [if_pos hControl]
    exact .code hControl
  · rw [if_neg hControl]
    exact .plain hQuote hBackslash (Nat.le_of_not_lt hControl)

theorem cutString_visible {c : Char} (hQuote : c ≠ '"') (hBackslash : c ≠ '\\')
    (hVisible : 0x20 ≤ c.toNat) (input : List Symbol) :
    cutString (some c :: input) =
      (cutString input).map fun (content, after) => (some c :: content, after) := by
  have hNotControl : ¬ (some c).any (fun c => decide (c.toNat < 0x20)) = true := by
    simpa using hVisible
  rw [cutString.eq_4 _ _ (fun h => hQuote (Option.some.inj h))
    (fun _ _ h _ => hBackslash (Option.some.inj h)), if_neg hNotControl]

theorem hexDigit_visible : ∀ n < 16,
    hexDigit n ≠ '"' ∧ hexDigit n ≠ '\\' ∧ 0x20 ≤ (hexDigit n).toNat := by decide

/-- The way in which a character stands in a string is cut off as a whole. -/
theorem cutString_standsFor {c : Char} {text : List Char} (h : StandsFor c text)
    (input : List Symbol) :
    cutString (text.map some ++ input) =
      (cutString input).map fun (content, after) => (text.map some ++ content, after) := by
  cases h with
  | short _ => rfl
  | code hControl =>
      obtain ⟨hQuote, hBackslash, hVisible⟩ := hexDigit_visible (c.toNat / 16) (by omega)
      obtain ⟨hQuote', hBackslash', hVisible'⟩ := hexDigit_visible (c.toNat % 16) (by omega)
      change (cutString (some '0' :: some '0' :: some _ :: some _ :: input)).map _ = _
      rw [cutString_visible (by decide) (by decide) (by decide),
        cutString_visible (by decide) (by decide) (by decide),
        cutString_visible hQuote hBackslash hVisible,
        cutString_visible hQuote' hBackslash' hVisible']
      simp only [Option.map_map]
      rfl
  | plain hQuote hBackslash hVisible => exact cutString_visible hQuote hBackslash hVisible input

theorem hexQuad?_control : ∀ n < 0x20,
    hexQuad? (some '0') (some '0') (some (hexDigit (n / 16))) (some (hexDigit (n % 16))) =
      some n := by decide

/-- The way in which a character stands in a string denotes the character. -/
theorem unescape_standsFor {c : Char} {text : List Char} (h : StandsFor c text)
    (input : List Symbol) :
    unescape (text.map some ++ input) = (unescape input).map (c :: ·) := by
  cases h with
  | @short letter hLetter =>
      have hNotCode : letter ≠ 'u' := by
        intro hSame
        have hNone : shortEscape? 'u' = none := rfl
        rw [hSame, hNone] at hLetter
        exact absurd hLetter (by simp)
      change unescape (some '\\' :: some letter :: input) = _
      rw [unescape.eq_3 _ _ fun _ _ _ _ _ _ h => hNotCode h, hLetter]
  | code hControl =>
      have hLeading : isLeadingSurrogate c.toNat = false := by
        have hLow : ¬ 0xD800 ≤ c.toNat := by omega
        rw [isLeadingSurrogate, decide_eq_false hLow, Bool.false_and]
      have hTrailing : isTrailingSurrogate c.toNat = false := by
        have hLow : ¬ 0xDC00 ≤ c.toNat := by omega
        rw [isTrailingSurrogate, decide_eq_false hLow, Bool.false_and]
      change unescape (some '\\' :: some 'u' :: some '0' :: some '0' :: some _ :: some _ :: input)
        = _
      rw [unescape.eq_2, hexQuad?_control c.toNat hControl]
      simp only [hLeading, hTrailing, Bool.false_eq_true, if_false, Char.ofNat_toNat]
  | plain _ hBackslash _ =>
      change unescape (some c :: input) = _
      exact unescape.eq_6 _ _ (fun _ _ _ _ _ _ h => hBackslash h) (fun _ _ _ h => hBackslash h)
        hBackslash

theorem cutString_escaped (text : List Char) (rest : List Symbol) :
    cutString ((text.flatMap escapeChar).map some ++ some '"' :: rest) =
      some ((text.flatMap escapeChar).map some, rest) := by
  induction text with
  | nil => rfl
  | cons c text ih =>
      rw [List.flatMap_cons, List.map_append, List.append_assoc,
        cutString_standsFor (standsFor_escapeChar c), ih]
      rfl

theorem unescape_escaped (text : List Char) :
    unescape ((text.flatMap escapeChar).map some) = some text := by
  induction text with
  | nil => rfl
  | cons c text ih =>
      rw [List.flatMap_cons, List.map_append, unescape_standsFor (standsFor_escapeChar c), ih]
      rfl

/-- The symbols of a quoted text behind its opening quote. -/
def quoted (text : String) : List Symbol :=
  (text.toList.flatMap escapeChar).map some ++ [some '"']

theorem symbols_quote (text : String) : symbols (quote text) = some '"' :: quoted text := by
  simp [symbols, quote, quoted]

/-- **A string is read behind its opening quote.** -/
theorem readString_quote (text : String) (rest : List Symbol) :
    readString (quoted text ++ rest) = some (text, rest) := by
  rw [quoted, List.append_assoc, List.singleton_append, readString, cutString_escaped]
  simp only [unescape_escaped, Option.map_some, String.ofList_toList]

/-! ## Whole numbers -/

/-- The whole numbers that are read as such: those of a 64-bit word, with a sign where they need
one. -/
def FitsWord (value : Int) : Prop :=
  if 0 ≤ value then Word.fitsUnsigned 64 value.toNat = true else Word.fitsSigned 64 value = true

theorem fitsWord_toInt (value : Int64) : FitsWord value.toInt := by
  have hSigned := Word.fitsSigned_toInt value
  unfold FitsWord
  by_cases hSign : 0 ≤ value.toInt
  · have hHigh : value.toInt < (Word.count 63 : Int) := (Word.fitsSigned_iff.mp hSigned).2
    have hDouble : Word.count 64 = 2 * Word.count 63 := Word.count_succ 63
    rw [if_pos hSign, Word.fitsUnsigned_iff]
    omega
  · rw [if_neg hSign]
    exact hSigned

/-- What stands behind a whole number: neither a digit, nor a point, nor an exponent. -/
def StopsNumber (rest : List Symbol) : Prop :=
  ∀ symbol, rest.head? = some symbol →
    isDigitSymbol symbol = false ∧ symbol ≠ some '.' ∧ symbol ≠ some 'e' ∧ symbol ≠ some 'E'

@[simp] theorem stopsNumber_nil : StopsNumber [] := by
  intro symbol h
  exact absurd h (by simp)

theorem stopsNumber_cons {symbol : Symbol} {rest : List Symbol}
    (h : isDigitSymbol symbol = false ∧ symbol ≠ some '.' ∧ symbol ≠ some 'e' ∧
      symbol ≠ some 'E') : StopsNumber (symbol :: rest) := by
  intro other hHead
  cases hHead
  exact h

variable {rest : List Symbol}

theorem spanDigits_append {digits : List Char} (hDigits : ∀ c ∈ digits, isAsciiDigit c = true)
    (hStop : StopsNumber rest) : spanDigits (digits.map some ++ rest) = (digits, rest) := by
  have hSymbols : ∀ symbol ∈ digits.map some, isDigitSymbol symbol = true := by
    intro symbol hMem
    obtain ⟨c, hDigit, rfl⟩ := List.mem_map.mp hMem
    exact hDigits c hDigit
  have hTake : rest.takeWhile isDigitSymbol = [] := by
    cases rest with
    | nil => rfl
    | cons symbol rest =>
        rw [List.takeWhile_cons_of_neg]
        rw [(hStop symbol rfl).1]
        exact Bool.false_ne_true
  have hDrop : rest.dropWhile isDigitSymbol = rest := by
    cases rest with
    | nil => rfl
    | cons symbol rest =>
        rw [List.dropWhile_cons_of_neg]
        rw [(hStop symbol rfl).1]
        exact Bool.false_ne_true
  rw [spanDigits, List.takeWhile_append_of_pos hSymbols, List.dropWhile_append_of_pos hSymbols,
    hTake, hDrop, List.append_nil, List.filterMap_map]
  simp

theorem scanOptionalExponent_eq (hStop : StopsNumber rest) :
    scanOptionalExponent rest = some (0, false, rest) := by
  unfold scanOptionalExponent
  split
  · exact absurd rfl (hStop _ rfl).2.2.1
  · exact absurd rfl (hStop _ rfl).2.2.2
  · rfl

/-- The parts of a whole number. -/
def wholeLiteral (negative : Bool) (size : Nat) : NumberLiteral :=
  { negative, whole := Nat.toDigits 10 size, fraction := [], exponent := 0, isWhole := true }

theorem value?_wholeLiteral_pos {size : Nat} (h : Word.fitsUnsigned 64 size = true) :
    (wholeLiteral false size).value? = some (.integer size) := by
  simp only [NumberLiteral.value?, wholeLiteral, decimalValue_toDigits, h, Bool.not_false,
    Bool.and_self, if_true]

theorem value?_wholeLiteral_neg {size : Nat} (hSome : 0 < size)
    (h : Word.fitsSigned 64 (-(size : Int)) = true) :
    (wholeLiteral true size).value? = some (.integer (-(size : Int))) := by
  simp [NumberLiteral.value?, wholeLiteral, h, hSome]

/-- The digits of a number have no needless zero in front. -/
theorem toDigits_wellFormed (size : Nat) :
    ((Nat.toDigits 10 size).isEmpty ||
      (Nat.toDigits 10 size).head? == some '0' && decide (1 < (Nat.toDigits 10 size).length)) =
        false := by
  cases hDigits : Nat.toDigits 10 size with
  | nil => exact absurd hDigits Nat.toDigits_ne_nil
  | cons c digits =>
      by_cases hZero : c = '0'
      · subst hZero
        rw [toDigits_eq_cons_zero hDigits]
        rfl
      · simp [hZero]

theorem isAsciiDigit_toDigits (size : Nat) :
    ∀ c ∈ Nat.toDigits 10 size, isAsciiDigit c = true :=
  fun _ hMem => isAsciiDigit_of_mem_toDigits hMem

/-- Digits do not start with a minus sign. -/
theorem toDigits_append_ne_minus (size : Nat) (after : List Symbol) :
    (Nat.toDigits 10 size).map some ++ rest ≠ some '-' :: after := by
  intro h
  have hDigits := isAsciiDigit_toDigits size
  cases hFront : Nat.toDigits 10 size with
  | nil => exact Nat.toDigits_ne_nil hFront
  | cons c digits =>
      rw [hFront] at h hDigits
      injection h with hSame _
      have hDigit := hDigits c List.mem_cons_self
      rw [Option.some.inj hSame] at hDigit
      exact absurd hDigit (by decide)

/-- The sign and the digits of a whole number are cut off. -/
theorem scanNumber_wholeLiteral (negative : Bool) (size : Nat) (hStop : StopsNumber rest) :
    scanNumber ((if negative then [some '-'] else []) ++
      ((Nat.toDigits 10 size).map some ++ rest)) = some (wholeLiteral negative size, rest) := by
  unfold scanNumber
  split
  next sign unsigned hInput =>
  have hSign : sign = negative ∧ unsigned = (Nat.toDigits 10 size).map some ++ rest := by
    cases negative with
    | true =>
        cases hInput
        exact ⟨rfl, rfl⟩
    | false =>
        rw [if_neg Bool.false_ne_true, List.nil_append] at hInput
        split at hInput
        · next h => exact absurd h (toDigits_append_ne_minus size _)
        · cases hInput
          exact ⟨rfl, rfl⟩
  obtain ⟨rfl, rfl⟩ := hSign
  rw [spanDigits_append (isAsciiDigit_toDigits size) hStop]
  dsimp only
  rw [toDigits_wellFormed, if_neg Bool.false_ne_true]
  split
  · exact absurd rfl (hStop _ rfl).2.1
  · rw [scanOptionalExponent_eq hStop]
    rfl

/-- **A whole number is read.** -/
theorem readNumber_toString {value : Int} (hWord : FitsWord value) (hStop : StopsNumber rest) :
    readNumber (symbols (toString value) ++ rest) = some (.integer value, rest) := by
  have hText : toString value = value.repr := rfl
  unfold FitsWord at hWord
  by_cases hSign : 0 ≤ value
  · have hValue : ((value.toNat : Nat) : Int) = value := by omega
    rw [if_pos hSign] at hWord
    have hScan : scanNumber ((Nat.toDigits 10 value.toNat).map some ++ rest) =
        some (wholeLiteral false value.toNat, rest) := scanNumber_wholeLiteral false _ hStop
    rw [hText, Int.repr_eq_if, if_pos hSign, symbols, Nat.toList_repr, readNumber, hScan]
    dsimp only
    rw [value?_wholeLiteral_pos hWord, hValue]
    rfl
  · have hValue : -(((-value).toNat : Nat) : Int) = value := by omega
    have hScan : scanNumber (some '-' :: ((Nat.toDigits 10 (-value).toNat).map some ++ rest)) =
        some (wholeLiteral true (-value).toNat, rest) := scanNumber_wholeLiteral true _ hStop
    rw [if_neg hSign, ← hValue] at hWord
    rw [hText, Int.repr_eq_if, if_neg hSign, symbols_append]
    change readNumber (some '-' :: ((-value).toNat.repr.toList.map some ++ rest)) = _
    rw [Nat.toList_repr, readNumber, hScan]
    dsimp only
    rw [value?_wholeLiteral_neg (by omega) hWord, hValue]
    rfl

/-! ## The written form of values -/

/-- The symbols of a written value. -/
def written (json : Json) : List Symbol := symbols (render json)

/-- The symbols of a written member. -/
def writtenMember (member : String × Json) : List Symbol :=
  some '"' :: (quoted member.1 ++ some ':' :: written member.2)

/-- Pieces with commas between them and a closing sign behind. -/
def closed (closing : Char) (pieces : List (List Symbol)) : List Symbol :=
  [some ','].intercalate pieces ++ [some closing]

@[simp] theorem closed_singleton (closing : Char) (piece : List Symbol) :
    closed closing [piece] = piece ++ [some closing] := by
  rw [closed, List.intercalate_singleton]

@[simp] theorem closed_cons_cons (closing : Char) (piece next : List Symbol)
    (pieces : List (List Symbol)) :
    closed closing (piece :: next :: pieces) =
      piece ++ some ',' :: closed closing (next :: pieces) := by
  rw [closed, closed, List.intercalate_cons_cons, List.append_assoc, List.append_assoc]
  rfl

theorem map_intercalate {α β : Type} (f : α → β) (separator : List α) (pieces : List (List α)) :
    (separator.intercalate pieces).map f =
      (separator.map f).intercalate (pieces.map (·.map f)) := by
  induction pieces with
  | nil => simp
  | cons piece pieces ih =>
      cases pieces with
      | nil => simp
      | cons next pieces =>
          rw [List.map_cons] at ih
          rw [List.intercalate_cons_cons, List.map_cons, List.map_cons,
            List.intercalate_cons_cons, List.map_append, List.map_append, ih]

theorem symbols_intercalate (texts : List String) :
    symbols (String.intercalate "," texts) = [some ','].intercalate (texts.map symbols) := by
  rw [symbols, String.toList_intercalate, map_intercalate, List.map_map]
  rfl

theorem renderItems_eq (items : List Json) : renderItems items = items.map render := by
  induction items with
  | nil => rfl
  | cons item items ih => rw [renderItems, ih, List.map_cons]

theorem renderMembers_eq (members : List (String × Json)) :
    renderMembers members = members.map fun member => quote member.1 ++ ":" ++ render member.2 := by
  induction members with
  | nil => rfl
  | cons member members ih => rw [renderMembers, ih, List.map_cons]

theorem written_list (items : List Json) :
    written (.list items) = some '[' :: closed ']' (items.map written) := by
  rw [written, render, symbols_append, symbols_append, renderItems_eq, symbols_intercalate,
    List.map_map]
  rfl

theorem written_object (members : List (String × Json)) :
    written (.object members) = some '{' :: closed '}' (members.map writtenMember) := by
  have hMember : (symbols ∘ fun member : String × Json =>
      quote member.1 ++ ":" ++ render member.2) = writtenMember := by
    funext member
    rw [Function.comp_apply, symbols_append, symbols_append, symbols_quote, List.append_assoc]
    rfl
  rw [written, render, symbols_append, symbols_append, renderMembers_eq, symbols_intercalate,
    List.map_map, hMember]
  rfl

/-! ## Reading values -/

/-- Values whose written form says everything: without doubles, with whole numbers of 64 bits, and
with at most `depth` levels of nesting. -/
inductive Plain : Nat → Json → Prop
  /-- The value `null`. -/
  | null (depth : Nat) : Plain depth .null
  /-- A truth value. -/
  | boolean (depth : Nat) (value : Bool) : Plain depth (.boolean value)
  /-- A whole number of 64 bits. -/
  | integer (depth : Nat) {value : Int} (hWord : FitsWord value) : Plain depth (.integer value)
  /-- A string. -/
  | text (depth : Nat) (value : String) : Plain depth (.text value)
  /-- An array of such values. -/
  | list {depth : Nat} {items : List Json} (hItems : ∀ item ∈ items, Plain depth item) :
      Plain (depth + 1) (.list items)
  /-- An object of such values. -/
  | object {depth : Nat} {members : List (String × Json)}
      (hMembers : ∀ member ∈ members, Plain depth member.2) : Plain (depth + 1) (.object members)

/-- The reader finds the value at the start of the input, if it may go `depth` levels down. -/
def IsRead (depth : Nat) (json : Json) : Prop :=
  ∀ steps rest, 2 * (written json).length ≤ steps → StopsNumber rest →
    readValue steps (depth + 1) (written json ++ rest) = some (json, rest)

/-- What a value starts with is no blank and closes no array. -/
def StartsValue (input : List Symbol) : Prop :=
  ∃ c rest, input = some c :: rest ∧ isSpace (some c) = false ∧ c ≠ ']'

theorem written_integer_eq_cons (value : Int) :
    ∃ c after, written (.integer value) = some c :: after ∧ (c = '-' ∨ isAsciiDigit c = true) := by
  have hText : written (.integer value) = symbols value.repr := rfl
  rw [hText, Int.repr_eq_if]
  by_cases hSign : 0 ≤ value
  · rw [if_pos hSign, symbols, Nat.toList_repr]
    cases hDigits : Nat.toDigits 10 value.toNat with
    | nil => exact absurd hDigits Nat.toDigits_ne_nil
    | cons c digits =>
        refine ⟨c, digits.map some, rfl, Or.inr ?_⟩
        apply isAsciiDigit_toDigits value.toNat
        rw [hDigits]
        exact List.mem_cons_self
  · rw [if_neg hSign, symbols_append]
    exact ⟨'-', _, rfl, Or.inl rfl⟩

/-- The characters that say what kind of value or of end follows, and the blanks. -/
def marks : List Char := [' ', '\n', '\t', '\r', ']', '[', '{', '"', 'n', 't', 'f']

/-- Numbers do not start with a mark. -/
theorem not_mem_marks {c : Char} (h : c = '-' ∨ isAsciiDigit c = true) : c ∉ marks := by
  intro hMem
  rcases h with rfl | hDigit
  · exact absurd hMem (by decide)
  · have hNone : marks.any isAsciiDigit = false := by decide
    exact List.any_eq_false.mp hNone c hMem hDigit

theorem isSpace_eq_false {c : Char} (h : c ∉ marks) : isSpace (some c) = false := by
  rw [Bool.eq_false_iff]
  intro hSpace
  have hMem := List.contains_iff_mem.mp hSpace
  simp only [List.mem_cons, Option.some.injEq, List.not_mem_nil, or_false] at hMem
  apply h
  rcases hMem with rfl | rfl | rfl | rfl <;> decide

/-- What starts with none of the marks is read as a number. -/
theorem readValue_of_number {c : Char} (steps depth : Nat) (after : List Symbol)
    (h : c ∉ marks) : readValue (steps + 1) depth (some c :: after) =
      (readNumber (some c :: after)).map fun (number, after) => (number.toJson, after) := by
  have hNot : ∀ {mark : Char} {left : List Symbol}, mark ∈ marks →
      some c :: after ≠ some mark :: left := by
    intro mark left hMark hSame
    injection hSame with hHead _
    rw [Option.some.inj hHead] at h
    exact h hMark
  rw [readValue, skipSpace_cons (isSpace_eq_false h)]
  split
  · next hSame => exact absurd hSame (hNot (by decide))
  · next hSame => exact absurd hSame (hNot (by decide))
  · next hSame => exact absurd hSame (hNot (by decide))
  · next hSame => exact absurd hSame (hNot (by decide))
  · next hSame => exact absurd hSame (hNot (by decide))
  · next hSame => exact absurd hSame (hNot (by decide))
  · rfl

theorem startsValue_written {depth : Nat} {json : Json} (h : Plain depth json) :
    StartsValue (written json) := by
  cases h with
  | null => exact ⟨'n', _, rfl, by decide, by decide⟩
  | boolean _ value => cases value <;> exact ⟨_, _, rfl, by decide, by decide⟩
  | @integer _ value _ =>
      obtain ⟨c, after, hWritten, hNumber⟩ := written_integer_eq_cons value
      have hMarks := not_mem_marks hNumber
      refine ⟨c, after, hWritten, isSpace_eq_false hMarks, ?_⟩
      rintro rfl
      exact hMarks (by decide)
  | text _ value => exact ⟨'"', _, symbols_quote value, by decide, by decide⟩
  | list _ => exact ⟨'[', _, written_list _, by decide, by decide⟩
  | object _ => exact ⟨'{', _, written_object _, by decide, by decide⟩

theorem written_ne_nil {depth : Nat} {json : Json} (h : Plain depth json) : written json ≠ [] := by
  obtain ⟨c, after, hWritten, -, -⟩ := startsValue_written h
  rw [hWritten]
  exact List.cons_ne_nil _ _

theorem stopsNumber_sign {c : Char} (h : c = ',' ∨ c = ']' ∨ c = '}') :
    StopsNumber (some c :: rest) := by
  apply stopsNumber_cons
  rcases h with rfl | rfl | rfl <;> decide

/-! ### Items and members -/

/-- The items of an array are read up to its closing bracket, if each of them is. -/
theorem readItems_closed {depth : Nat} (items : List Json) (hSome : items ≠ [])
    (hItems : ∀ item ∈ items, IsRead depth item) :
    ∀ steps rest, 2 * (closed ']' (items.map written)).length ≤ steps →
      readItems steps (depth + 1) (closed ']' (items.map written) ++ rest) =
        some (items, rest) := by
  induction items with
  | nil => exact absurd rfl hSome
  | cons item items ih =>
      intro steps rest hSteps
      have hItem := hItems item List.mem_cons_self
      cases items with
      | nil =>
          rw [List.map_cons, List.map_nil, closed_singleton] at hSteps ⊢
          rw [List.length_append, List.length_singleton] at hSteps
          obtain ⟨steps, rfl⟩ : ∃ s, steps = s + 1 := ⟨steps - 1, by omega⟩
          rw [List.append_assoc, List.singleton_append, readItems,
            hItem steps _ (by omega) (stopsNumber_sign (by decide))]
          rfl
      | cons next items =>
          have hRest := ih (List.cons_ne_nil _ _) fun other hMem =>
            hItems other (List.mem_cons_of_mem _ hMem)
          rw [List.map_cons, List.map_cons, closed_cons_cons, ← List.map_cons] at hSteps ⊢
          rw [List.length_append, List.length_cons] at hSteps
          obtain ⟨steps, rfl⟩ : ∃ s, steps = s + 1 := ⟨steps - 1, by omega⟩
          rw [List.append_assoc, List.cons_append, readItems,
            hItem steps _ (by omega) (stopsNumber_sign (by decide))]
          change (readItems steps (depth + 1) (closed ']' _ ++ rest)).map _ = _
          rw [hRest steps rest (by omega)]
          rfl

/-- A member is read up to the sign behind its value. -/
theorem readMembers_writtenMember {depth steps : Nat} {name : String} {value : Json}
    (hValue : IsRead depth value) (hSteps : 2 * (written value).length ≤ steps)
    (hStop : StopsNumber rest) :
    readMembers (steps + 1) (depth + 1) (writtenMember (name, value) ++ rest) =
      match skipSpace rest with
      | some ',' :: rest =>
        (readMembers steps (depth + 1) rest).map fun (members, after) =>
          ((name, value) :: members, after)
      | some '}' :: after => some ([(name, value)], after)
      | _ => none := by
  have hName := readString_quote name (some ':' :: (written value ++ rest))
  have hRead := hValue steps rest hSteps hStop
  rw [writtenMember, List.cons_append, List.append_assoc, List.cons_append, readMembers,
    skipSpace_cons (by decide)]
  split
  · next left hInput =>
      cases hInput
      rw [hName]
      dsimp only
      rw [skipSpace_cons (by decide)]
      split
      · next left hInput =>
          cases hInput
          rewrite [hRead]
          rfl
      · next hInput => exact absurd rfl (hInput _)
  · next hInput => exact absurd rfl (hInput _)

theorem length_written_lt (member : String × Json) :
    (written member.2).length < (writtenMember member).length := by
  rw [writtenMember, List.length_cons, List.length_append, List.length_cons]
  omega

/-- The members of an object are read up to its closing brace, if the value of each is. -/
theorem readMembers_closed {depth : Nat} (members : List (String × Json)) (hSome : members ≠ [])
    (hMembers : ∀ member ∈ members, IsRead depth member.2) :
    ∀ steps rest, 2 * (closed '}' (members.map writtenMember)).length ≤ steps →
      readMembers steps (depth + 1) (closed '}' (members.map writtenMember) ++ rest) =
        some (members, rest) := by
  induction members with
  | nil => exact absurd rfl hSome
  | cons member members ih =>
      intro steps rest hSteps
      have hValue := hMembers member List.mem_cons_self
      have hLength := length_written_lt member
      cases members with
      | nil =>
          rw [List.map_cons, List.map_nil, closed_singleton] at hSteps ⊢
          rw [List.length_append, List.length_singleton] at hSteps
          obtain ⟨steps, rfl⟩ : ∃ s, steps = s + 1 := ⟨steps - 1, by omega⟩
          rw [List.append_assoc, List.singleton_append,
            readMembers_writtenMember hValue (by omega) (stopsNumber_sign (by decide))]
          rfl
      | cons next members =>
          have hRest := ih (List.cons_ne_nil _ _) fun other hMem =>
            hMembers other (List.mem_cons_of_mem _ hMem)
          rw [List.map_cons, List.map_cons, closed_cons_cons, ← List.map_cons] at hSteps ⊢
          rw [List.length_append, List.length_cons] at hSteps
          obtain ⟨steps, rfl⟩ : ∃ s, steps = s + 1 := ⟨steps - 1, by omega⟩
          rw [List.append_assoc, List.cons_append,
            readMembers_writtenMember hValue (by omega) (stopsNumber_sign (by decide))]
          change (readMembers steps (depth + 1) (closed '}' _ ++ rest)).map _ = _
          rw [hRest steps rest (by omega)]
          rfl

/-! ### Every value -/

/-- A list of pieces opens as its first piece does. -/
theorem closed_eq_cons {c : Char} {piece after : List Symbol} (closing : Char)
    (pieces : List (List Symbol)) (h : piece = some c :: after) :
    ∃ left, closed closing (piece :: pieces) = some c :: left := by
  cases pieces with
  | nil => exact ⟨_, by rw [closed_singleton, h, List.cons_append]⟩
  | cons next pieces => exact ⟨_, by rw [closed_cons_cons, h, List.cons_append]⟩

/-- A bracket and what does not close it open the items of an array. -/
theorem readValue_bracket {c : Char} (steps depth : Nat) (after : List Symbol)
    (hSpace : isSpace (some c) = false) (hOpen : c ≠ ']') :
    readValue (steps + 1) (depth + 2) (some '[' :: some c :: after) =
      (readItems steps (depth + 1) (some c :: after)).map fun (items, after) =>
        (Json.list items, after) := by
  have hBracket : skipSpace (some '[' :: some c :: after) = some '[' :: some c :: after :=
    skipSpace_cons (by decide)
  have hDepth : ¬ depth + 2 ≤ 1 := by omega
  rw [readValue]
  simp only [hBracket, if_neg hDepth, skipSpace_cons hSpace]
  split
  · next hInput =>
      injection hInput with hHead _
      exact absurd (Option.some.inj hHead) hOpen
  · rfl

/-- A brace and a quote open the members of an object. -/
theorem readValue_brace (steps depth : Nat) (after : List Symbol) :
    readValue (steps + 1) (depth + 2) (some '{' :: some '"' :: after) =
      (readMembers steps (depth + 1) (some '"' :: after)).map fun (members, after) =>
        (Json.object members, after) := rfl

theorem isRead_list {depth : Nat} {items : List Json}
    (hPlain : ∀ item ∈ items, Plain depth item) (hItems : ∀ item ∈ items, IsRead depth item) :
    IsRead (depth + 1) (.list items) := by
  intro steps rest hSteps _
  rw [written_list, List.length_cons] at hSteps
  obtain ⟨steps, rfl⟩ : ∃ s, steps = s + 1 := ⟨steps - 1, by omega⟩
  rw [written_list, List.cons_append]
  cases items with
  | nil => rfl
  | cons item items =>
      obtain ⟨c, after, hWritten, hSpace, hOpen⟩ :=
        startsValue_written (hPlain item List.mem_cons_self)
      obtain ⟨left, hLeft⟩ := closed_eq_cons ']' (items.map written) hWritten
      have hRead := readItems_closed (item :: items) (List.cons_ne_nil _ _) hItems steps rest
        (by omega)
      rw [List.map_cons, hLeft, List.cons_append] at hRead ⊢
      rw [readValue_bracket _ _ _ hSpace hOpen, hRead]
      rfl

theorem isRead_object {depth : Nat} {members : List (String × Json)}
    (hMembers : ∀ member ∈ members, IsRead depth member.2) :
    IsRead (depth + 1) (.object members) := by
  intro steps rest hSteps _
  rw [written_object, List.length_cons] at hSteps
  obtain ⟨steps, rfl⟩ : ∃ s, steps = s + 1 := ⟨steps - 1, by omega⟩
  rw [written_object, List.cons_append]
  cases members with
  | nil => rfl
  | cons member members =>
      have hWritten : writtenMember member =
          some '"' :: (quoted member.1 ++ some ':' :: written member.2) := rfl
      obtain ⟨left, hLeft⟩ := closed_eq_cons '}' (members.map writtenMember) hWritten
      have hRead := readMembers_closed (member :: members) (List.cons_ne_nil _ _) hMembers steps
        rest (by omega)
      rw [List.map_cons, hLeft, List.cons_append] at hRead ⊢
      rw [readValue_brace, hRead]
      rfl

theorem exists_step {steps depth : Nat} {json : Json} (h : Plain depth json)
    (hSteps : 2 * (written json).length ≤ steps) : ∃ left, steps = left + 1 := by
  have hLength := List.length_pos_iff.mpr (written_ne_nil h)
  exact ⟨steps - 1, by omega⟩

theorem isRead_integer {depth : Nat} {value : Int} (hWord : FitsWord value) :
    IsRead depth (.integer value) := by
  intro steps rest hSteps hStop
  obtain ⟨steps, rfl⟩ := exists_step (Plain.integer depth hWord) hSteps
  obtain ⟨c, after, hWritten, hNumber⟩ := written_integer_eq_cons value
  rw [hWritten, List.cons_append, readValue_of_number _ _ _ (not_mem_marks hNumber),
    ← List.cons_append, ← hWritten]
  change (readNumber (symbols (toString value) ++ rest)).map _ = _
  rw [readNumber_toString hWord hStop]
  rfl

theorem isRead_text (depth : Nat) (value : String) : IsRead depth (.text value) := by
  intro steps rest hSteps _
  obtain ⟨steps, rfl⟩ := exists_step (Plain.text depth value) hSteps
  have hWritten : written (.text value) = some '"' :: quoted value := symbols_quote value
  rw [hWritten, List.cons_append]
  change (readString (quoted value ++ rest)).map _ = _
  rw [readString_quote]
  rfl

/-- **A value is read, whatever stands behind it.** -/
theorem readValue_written {depth : Nat} {json : Json} (h : Plain depth json) :
    IsRead depth json := by
  induction h with
  | null depth =>
      intro steps rest hSteps _
      obtain ⟨steps, rfl⟩ := exists_step (Plain.null depth) hSteps
      rfl
  | boolean depth value =>
      intro steps rest hSteps _
      obtain ⟨steps, rfl⟩ := exists_step (Plain.boolean depth value) hSteps
      cases value <;> rfl
  | integer depth hWord => exact isRead_integer hWord
  | text depth value => exact isRead_text depth value
  | list hPlain ih => exact isRead_list hPlain ih
  | object _ ih => exact isRead_object ih

/-- **The text of a value is read as the value.** -/
theorem parse?_render {json : Json} (h : Plain (nestingLimit - 1) json) :
    parse? (render json) = some json := by
  have hLimit : nestingLimit - 1 + 1 = nestingLimit := rfl
  have hRead := readValue_written h (2 * (written json).length + 2) [] (by omega) stopsNumber_nil
  rw [List.append_nil, hLimit] at hRead
  have hSymbols : symbols (render json) = written json := rfl
  simp only [parse?, hSymbols, hRead]
  rfl

end StaffSearch.Json
