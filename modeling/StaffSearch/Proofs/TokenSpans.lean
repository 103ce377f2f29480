import Mathlib.Data.List.Pairwise
import Mathlib.Logic.ExistsUnique
import StaffSearch.Proofs.WordContents

/-!
# The bytes that tokens cover

A token says which bytes of the query it stands for.  This file says what these spans are: they lie
between characters, they have every letter and number of the text exactly once, at least one other
character stands between any two of them, and a comma is inside of one just where it separates two
digit groups of a numeral (`Tokenization`).

The scan is followed with its whole past.  In front of what is still to be read stand the
characters of finished tokens and gaps, then a gap, then the characters of the token under way
(`IsUnderway`); what the scan makes of the rest is a layout of tokens and gaps behind them
(`Layout`, `layout_scan`).  All properties of the spans are read off the layout.

Nothing of this past reaches over a character that can stand in no token: the tokens on its two
sides are those of the two parts (`tokenize_append_separator`).
-/

namespace StaffSearch.Query

open StaffSearch.Text

/-! ## Places in bytes -/

theorem byteLength_pos {text : List Char} (h : text ≠ []) : 0 < byteLength text := by
  cases text with
  | nil => exact absurd rfl h
  | cons c rest =>
      have hSize := Char.utf8Size_pos c
      rw [byteLength_cons]
      omega

theorem eq_of_prefix_of_byteLength_eq {a b : List Char} (hPrefix : a <+: b)
    (h : byteLength a = byteLength b) : a = b := by
  obtain ⟨rest, hRest⟩ := hPrefix
  by_cases hNil : rest = []
  · rw [← hRest, hNil, List.append_nil]
  · have hPos := byteLength_pos hNil
    rw [← hRest, byteLength_append] at h
    omega

/-- Two beginnings of a text with the same number of bytes are the same. -/
theorem eq_of_byteLength_eq {a b text : List Char} (ha : a <+: text) (hb : b <+: text)
    (h : byteLength a = byteLength b) : a = b := by
  cases List.prefix_or_prefix_of_prefix ha hb with
  | inl hPrefix => exact eq_of_prefix_of_byteLength_eq hPrefix h
  | inr hPrefix => exact (eq_of_prefix_of_byteLength_eq hPrefix h.symm).symm

/-- The byte with this number is one of the token's. -/
def Token.HasByte (token : Token) (place : Nat) : Prop :=
  token.start ≤ place ∧ place < token.stop

instance (token : Token) (place : Nat) : Decidable (token.HasByte place) :=
  inferInstanceAs (Decidable (_ ∧ _))

/-! ## Spans -/

/-- A comma between `front` and `behind` separates two digit groups: in front of it there are only
digits and commas, a digit next to it, and behind it there are exactly three digits. -/
structure JoinsDigits (front behind : List Char) : Prop where
  /-- The character next to the comma is a digit. -/
  ends : ∃ before digit, front = before ++ [digit] ∧ isAsciiDigit digit = true
  /-- There are digits and commas only. -/
  digits : ∀ c ∈ front, isAsciiDigit c = true ∨ c = ','
  /-- Three digits follow, and then something else or nothing. -/
  group : ∃ three rest, behind = three ++ rest ∧ three.length = 3 ∧
    (∀ c ∈ three, isAsciiDigit c = true) ∧ StopsDigits rest

/-- The token stands for `span`, which has `before` in front of it and `after` behind it. -/
structure Token.Covers (token : Token) (before span after : List Char) : Prop where
  /-- The bytes in front of the span. -/
  start : token.start = byteLength before
  /-- The bytes up to the end of the span. -/
  stop : token.stop = byteLength (before ++ span)
  /-- The span begins with a letter or number, so it is not empty. -/
  first : ∃ c rest, span = c :: rest ∧ isAlphanumeric c = true
  /-- It ends with a letter or number. -/
  last : ∃ front c, span = front ++ [c] ∧ isAlphanumeric c = true
  /-- In it there are letters, numbers, and commas between digit groups. -/
  inner : ∀ front c back, span = front ++ c :: back →
    isAlphanumeric c = true ∨ (c = ',' ∧ JoinsDigits front (back ++ after))
  /-- It goes as far as it can. -/
  ends : ∀ c behind, after = c :: behind →
    isAlphanumeric c = false ∧ ¬ (c = ',' ∧ JoinsDigits span behind)
  /-- The text is the lowercase form of each character but the commas. -/
  text : token.text = String.ofList ((span.filter (· ≠ ',')).flatMap lowerChar)
  /-- The stem is that of the text. -/
  stem : token.stem = Query.stem token.text

/-- The tokens are those of the text: they stand for its letters and numbers. -/
structure Tokenization (text : List Char) (tokens : List Token) : Prop where
  /-- Every token stands for a part of the text. -/
  covers : ∀ token ∈ tokens, ∃ before span after,
    text = before ++ span ++ after ∧ token.Covers before span after
  /-- The spans are in order, with something between any two of them. -/
  apart : tokens.Pairwise fun token later => token.stop < later.start
  /-- Every letter or number is in exactly one span. -/
  letters : ∀ before c after, text = before ++ c :: after → isAlphanumeric c = true →
    ∃! token, token ∈ tokens ∧ token.HasByte (byteLength before)
  /-- A comma is in a span just where it separates two digit groups of it. -/
  commas : ∀ before after, text = before ++ ',' :: after → ∀ token ∈ tokens,
    (token.HasByte (byteLength before) ↔
      ∃ lead front, before = lead ++ front ∧ token.start = byteLength lead ∧
        byteLength before ≤ token.stop ∧ JoinsDigits front after)

/-- A token has the bytes of the characters of its span. -/
theorem Token.Covers.hasByte_of_mem {token : Token} {before span after front back : List Char}
    {c : Char} (h : token.Covers before span after) (hSpan : span = front ++ c :: back) :
    token.HasByte (byteLength (before ++ front)) := by
  have hPos := byteLength_pos (List.cons_ne_nil c back)
  rw [Token.HasByte, h.start, h.stop, hSpan, byteLength_append, byteLength_append,
    byteLength_append]
  omega

/-! ## Commas between digit groups -/

theorem exists_group_of_startsDigitGroup {text : List Char} (h : startsDigitGroup text = true) :
    ∃ three rest, text = three ++ rest ∧ three.length = 3 ∧
      (∀ c ∈ three, isAsciiDigit c = true) ∧ StopsDigits rest := by
  refine ⟨text.takeWhile isAsciiDigit, text.dropWhile isAsciiDigit,
    List.takeWhile_append_dropWhile.symm, (startsDigitGroup_iff text).mp h,
    List.all_eq_true.mp List.all_takeWhile, ?_⟩
  intro c hHead
  have hFirst := List.head?_dropWhile_not isAsciiDigit text
  rw [hHead] at hFirst
  simpa using hFirst

/-- The text of a span has digits only if the span has digits and commas only. -/
theorem all_digits_iff (span : List Char) :
    ((span.filter (· ≠ ',')).flatMap lowerChar).all isAsciiDigit = true ↔
      ∀ c ∈ span, isAsciiDigit c = true ∨ c = ',' := by
  rw [List.all_flatMap, List.all_eq_true]
  simp only [all_isAsciiDigit_lowerChar, List.mem_filter, decide_eq_true_eq]
  constructor
  · intro h c hMem
    by_cases hComma : c = ','
    · exact Or.inr hComma
    · exact Or.inl (h c ⟨hMem, hComma⟩)
  · intro h c hMem
    exact (h c hMem.1).resolve_right hMem.2

theorem ne_comma_of_isAlphanumeric {c : Char} (hc : isAlphanumeric c = true) : c ≠ ',' := by
  rintro rfl
  exact absurd hc (by decide +kernel)

/-! ## The token under way -/

/-- `read` are the characters of a token under way, and `rest` is still to be read.  Either the
token can end here, or the next character belongs to it too. -/
structure IsUnderway (read rest : List Char) : Prop where
  /-- The token begins with a letter or number. -/
  first : ∃ c more, read = c :: more ∧ isAlphanumeric c = true
  /-- In it there are letters, numbers, and commas between digit groups. -/
  inner : ∀ front c back, read = front ++ c :: back →
    isAlphanumeric c = true ∨ (c = ',' ∧ JoinsDigits front (back ++ rest))
  /-- A letter or number stands last, or next. -/
  last : (∃ front c, read = front ++ [c] ∧ isAlphanumeric c = true) ∨
    ∃ c behind, rest = c :: behind ∧ isAlphanumeric c = true

/-- A character of two texts that are put together is one of the first or one of the second. -/
theorem append_cases {a b front back : List Char} {c : Char} (h : a ++ b = front ++ c :: back) :
    (∃ middle, a = front ++ c :: middle ∧ back = middle ++ b) ∨
      ∃ middle, front = a ++ middle ∧ b = middle ++ c :: back := by
  cases List.append_eq_append_iff.mp h with
  | inl hSecond => exact Or.inr hSecond
  | inr hFirst =>
      obtain ⟨middle, hA, hBack⟩ := hFirst
      cases middle with
      | nil =>
          rw [List.append_nil] at hA
          exact Or.inr ⟨[], by rw [hA, List.append_nil], hBack.symm⟩
      | cons d middle =>
          cases hBack
          exact Or.inl ⟨middle, hA, rfl⟩

/-- A character of a text with one more character at its end is one of the text or that one. -/
theorem append_singleton_cases {read front back : List Char} {x c : Char}
    (h : read ++ [x] = front ++ c :: back) :
    (∃ middle, read = front ++ c :: middle ∧ back = middle ++ [x]) ∨
      (front = read ∧ c = x ∧ back = []) := by
  cases append_cases h with
  | inl hEarlier => exact Or.inl hEarlier
  | inr hLast =>
      obtain ⟨middle, hFront, hEnd⟩ := hLast
      cases middle with
      | nil =>
          cases hEnd
          exact Or.inr ⟨by rw [hFront, List.append_nil], rfl, rfl⟩
      | cons d middle => exact absurd (List.cons.inj hEnd).2 (by simp)

theorem isUnderway_singleton {c : Char} (hc : isAlphanumeric c = true) (rest : List Char) :
    IsUnderway [c] rest where
  first := ⟨c, [], rfl, hc⟩
  inner := by
    intro front d back hSplit
    cases append_singleton_cases (List.nil_append _ |>.trans hSplit) with
    | inl hEarlier =>
        obtain ⟨middle, hNil, -⟩ := hEarlier
        exact absurd hNil (by simp)
    | inr hLast =>
        rw [hLast.2.1]
        exact Or.inl hc
  last := Or.inl ⟨[], c, rfl, hc⟩

namespace IsUnderway

variable {read rest : List Char}

/-- The next character is added to the token: a letter or number, or a comma between digit groups. -/
theorem extend {x : Char} (h : IsUnderway read (x :: rest))
    (hx : isAlphanumeric x = true ∨ (x = ',' ∧ JoinsDigits read rest))
    (hLast : isAlphanumeric x = true ∨ ∃ c behind, rest = c :: behind ∧ isAlphanumeric c = true) :
    IsUnderway (read ++ [x]) rest where
  first := by
    obtain ⟨d, more, hRead, hd⟩ := h.first
    exact ⟨d, more ++ [x], by rw [hRead, List.cons_append], hd⟩
  inner := by
    intro front d back hSplit
    cases append_singleton_cases hSplit with
    | inl hEarlier =>
        obtain ⟨middle, hRead, hBack⟩ := hEarlier
        have hInner := h.inner front d middle hRead
        rw [hBack, List.append_assoc]
        exact hInner
    | inr hNew =>
        obtain ⟨hFront, hSame, hBack⟩ := hNew
        rw [hFront, hSame, hBack, List.nil_append]
        exact hx
  last := by
    cases hLast with
    | inl hHere => exact Or.inl ⟨read, x, rfl, hHere⟩
    | inr hNext => exact Or.inr hNext

/-- A letter or number is added to the token. -/
theorem push {c : Char} (h : IsUnderway read (c :: rest)) (hc : isAlphanumeric c = true) :
    IsUnderway (read ++ [c]) rest :=
  h.extend (Or.inl hc) (Or.inl hc)

/-- The token ends with a letter or number where another character follows. -/
theorem exists_last {c : Char} (h : IsUnderway read (c :: rest)) (hc : isAlphanumeric c = false) :
    ∃ front d, read = front ++ [d] ∧ isAlphanumeric d = true := by
  cases h.last with
  | inl hLast => exact hLast
  | inr hNext =>
      obtain ⟨d, behind, hRest, hd⟩ := hNext
      cases hRest
      rw [hd] at hc
      exact absurd hc (by decide)

/-- The scan carries a token on over a comma just where the comma separates two digit groups. -/
theorem continuesAt_iff {start : Nat} (h : IsUnderway read (',' :: rest)) :
    OpenToken.continuesAt rest (some ⟨start, (read.filter (· ≠ ',')).flatMap lowerChar⟩) = true ↔
      JoinsDigits read rest := by
  rw [OpenToken.continuesAt, Bool.and_eq_true, all_digits_iff]
  constructor
  · intro hOn
    obtain ⟨front, d, hRead, hd⟩ := h.exists_last (by decide +kernel)
    have hMem : d ∈ read := by
      rw [hRead]
      exact List.mem_append_right _ List.mem_cons_self
    have hDigit := (hOn.1 d hMem).resolve_right (ne_comma_of_isAlphanumeric hd)
    exact ⟨⟨front, d, hRead, hDigit⟩, hOn.1, exists_group_of_startsDigitGroup hOn.2⟩
  · intro hJoins
    obtain ⟨three, behind, hRest, hLength, hDigits, hStop⟩ := hJoins.group
    rw [hRest]
    exact ⟨hJoins.digits, startsDigitGroup_of_group hLength hDigits hStop⟩

/-- A comma between digit groups is added to the token. -/
theorem join (h : IsUnderway read (',' :: rest)) (hJoins : JoinsDigits read rest) :
    IsUnderway (read ++ [',']) rest := by
  obtain ⟨three, behind, hRest, hLength, hDigits, -⟩ := hJoins.group
  cases three with
  | nil => exact absurd hLength (by decide)
  | cons d more =>
      have hd := isAlphanumeric_of_isAsciiDigit (hDigits d List.mem_cons_self)
      exact h.extend (Or.inr ⟨rfl, hJoins⟩) (Or.inr ⟨d, more ++ behind, hRest, hd⟩)

/-- The finished token covers what has been read. -/
theorem covers (h : IsUnderway read rest) (before : List Char)
    (hEnds : ∀ c behind, rest = c :: behind →
      isAlphanumeric c = false ∧ ¬ (c = ',' ∧ JoinsDigits read behind)) :
    (Token.of ((read.filter (· ≠ ',')).flatMap lowerChar) (byteLength before)
      (byteLength (before ++ read))).Covers before read rest where
  start := rfl
  stop := rfl
  first := h.first
  last := by
    cases h.last with
    | inl hLast => exact hLast
    | inr hNext =>
        obtain ⟨c, behind, hRest, hc⟩ := hNext
        rw [(hEnds c behind hRest).1] at hc
        exact absurd hc (by decide)
  inner := h.inner
  ends := hEnds
  text := rfl
  stem := rfl

end IsUnderway

/-! ## Layouts -/

/-- A layout of the text behind `before`: gaps without letters and numbers, and tokens between
them. -/
inductive Layout : List Char → List Char → List Token → Prop
  | done {before gap : List Char} : (∀ c ∈ gap, isAlphanumeric c = false) → Layout before gap []
  | token {before gap span after : List Char} {token : Token} {tokens : List Token} :
      (∀ c ∈ gap, isAlphanumeric c = false) → token.Covers (before ++ gap) span after →
        Layout (before ++ gap ++ span) after tokens →
          Layout before (gap ++ (span ++ after)) (token :: tokens)

/-- **The scan lays a text out**, behind a gap and behind a gap with a token under way. -/
theorem layout_scan (rest : List Char) :
    (∀ before gap : List Char, (∀ c ∈ gap, isAlphanumeric c = false) →
      Layout before (gap ++ rest) (scan (byteLength (before ++ gap)) none rest)) ∧
    (∀ before gap read : List Char, (∀ c ∈ gap, isAlphanumeric c = false) →
      IsUnderway read rest →
        Layout before (gap ++ (read ++ rest))
          (scan (byteLength (before ++ gap ++ read))
            (some ⟨byteLength (before ++ gap), (read.filter (· ≠ ',')).flatMap lowerChar⟩)
            rest)) := by
  have hByte : ∀ (text : List Char) (c : Char),
      byteLength text + c.utf8Size = byteLength (text ++ [c]) := by
    intro text c
    simp
  induction rest with
  | nil =>
      constructor
      · intro before gap hGap
        rw [List.append_nil]
        exact Layout.done hGap
      · intro before gap read hGap hRead
        have hCovers := hRead.covers (before ++ gap) fun c behind h => absurd h (by simp)
        exact Layout.token hGap hCovers (Layout.done fun c hMem => absurd hMem List.not_mem_nil)
  | cons c rest ih =>
      constructor
      · intro before gap hGap
        by_cases hc : isAlphanumeric c = true
        · have hNext := ih.2 before gap [c] hGap (isUnderway_singleton hc rest)
          have hText : ([c].filter (· ≠ ',')).flatMap lowerChar = lowerChar c := by
            simp [ne_comma_of_isAlphanumeric hc]
          rw [hText, ← hByte] at hNext
          rw [scan_cons_alphanumeric hc]
          exact hNext
        · have hOther := Bool.eq_false_iff.mpr hc
          have hWider : ∀ d ∈ gap ++ [c], isAlphanumeric d = false := by
            intro d hMem
            cases List.mem_append.mp hMem with
            | inl hOld => exact hGap d hOld
            | inr hNew => rw [List.mem_singleton.mp hNew, hOther]
          have hNext := ih.1 before (gap ++ [c]) hWider
          rw [List.append_assoc, ← List.append_assoc before gap [c], ← hByte] at hNext
          rw [scan_cons_of_ends hOther fun _ => rfl]
          exact hNext
      · intro before gap read hGap hRead
        by_cases hc : isAlphanumeric c = true
        · have hNext := ih.2 before gap (read ++ [c]) hGap (hRead.push hc)
          have hText : ((read ++ [c]).filter (· ≠ ',')).flatMap lowerChar =
              (read.filter (· ≠ ',')).flatMap lowerChar ++ lowerChar c := by
            simp [ne_comma_of_isAlphanumeric hc]
          rw [hText, List.append_assoc read, ← List.append_assoc (before ++ gap) read [c],
            ← hByte] at hNext
          rw [scan_cons_alphanumeric hc]
          exact hNext
        · have hOther := Bool.eq_false_iff.mpr hc
          by_cases hJoins : c = ',' ∧ JoinsDigits read rest
          · obtain ⟨hComma, hJoins⟩ := hJoins
            subst hComma
            have hNext := ih.2 before gap (read ++ [',']) hGap (hRead.join hJoins)
            have hText : ((read ++ [',']).filter (· ≠ ',')).flatMap lowerChar =
                (read.filter (· ≠ ',')).flatMap lowerChar := by
              simp
            rw [hText, List.append_assoc read, ← List.append_assoc (before ++ gap) read [','],
              ← hByte] at hNext
            rw [scan_cons, if_neg hc, if_pos ⟨rfl, hRead.continuesAt_iff.mpr hJoins⟩]
            exact hNext
          · have hNoComma : c = ',' → OpenToken.continuesAt rest
                (some ⟨byteLength (before ++ gap), (read.filter (· ≠ ',')).flatMap lowerChar⟩) =
                  false := by
              intro hComma
              subst hComma
              rw [Bool.eq_false_iff]
              intro hOn
              exact hJoins ⟨rfl, hRead.continuesAt_iff.mp hOn⟩
            have hEnds : ∀ d behind, c :: rest = d :: behind →
                isAlphanumeric d = false ∧ ¬ (d = ',' ∧ JoinsDigits read behind) := by
              intro d behind h
              cases h
              exact ⟨hOther, hJoins⟩
            have hNext := ih.1 (before ++ gap ++ read) [c] (by simpa using hOther)
            rw [← hByte] at hNext
            rw [scan_cons_of_ends hOther hNoComma]
            exact Layout.token hGap (hRead.covers _ hEnds) hNext

namespace Layout

variable {before rest : List Char} {tokens : List Token}

/-- Every token of a layout covers a part of the text, behind what is in front of the layout. -/
theorem exists_covers (h : Layout before rest tokens) :
    ∀ token ∈ tokens, ∃ lead span after, rest = lead ++ span ++ after ∧
      token.Covers (before ++ lead) span after := by
  induction h with
  | done hGap =>
      intro token hMem
      exact absurd hMem List.not_mem_nil
  | @token before gap span after first tokens hGap hCovers hLater ih =>
      intro token hMem
      cases List.mem_cons.mp hMem with
      | inl hFirst =>
          subst hFirst
          exact ⟨gap, span, after, by rw [List.append_assoc], hCovers⟩
      | inr hMem =>
          obtain ⟨lead, part, behind, hAfter, hPart⟩ := ih token hMem
          refine ⟨gap ++ span ++ lead, part, behind, ?_, ?_⟩
          · rw [hAfter]
            simp only [List.append_assoc]
          · simp only [List.append_assoc] at hPart ⊢
            exact hPart

/-- Where a gap must come first, the tokens begin later. -/
theorem lt_start (h : Layout before rest tokens)
    (hGap : ∀ c behind, rest = c :: behind → isAlphanumeric c = false) :
    ∀ token ∈ tokens, byteLength before < token.start := by
  intro token hMem
  obtain ⟨lead, span, after, hRest, hCovers⟩ := h.exists_covers token hMem
  have hLead : lead ≠ [] := by
    intro hNil
    obtain ⟨c, more, hSpan, hc⟩ := hCovers.first
    have hFirst := hGap c (more ++ after) (by rw [hRest, hNil, hSpan]; rfl)
    rw [hc] at hFirst
    exact absurd hFirst (by decide)
  have hPos := byteLength_pos hLead
  rw [hCovers.start, byteLength_append]
  omega

/-- The tokens of a layout are in order, with a gap between any two. -/
theorem pairwise (h : Layout before rest tokens) :
    tokens.Pairwise fun token later => token.stop < later.start := by
  induction h with
  | done hGap => exact List.Pairwise.nil
  | @token before gap span after first tokens hGap hCovers hLater ih =>
      apply List.Pairwise.cons _ ih
      intro later hMem
      have hLt := hLater.lt_start (fun c behind hAfter => (hCovers.ends c behind hAfter).1) later
        hMem
      rw [hCovers.stop]
      exact hLt

/-- Every letter or number of a layout is in a token. -/
theorem exists_hasByte (h : Layout before rest tokens) :
    ∀ front c behind, rest = front ++ c :: behind → isAlphanumeric c = true →
      ∃ token ∈ tokens, token.HasByte (byteLength (before ++ front)) := by
  induction h with
  | @done before gap hGap =>
      intro front c behind hSplit hc
      have hOther := hGap c (by rw [hSplit]; exact List.mem_append_right _ List.mem_cons_self)
      rw [hc] at hOther
      exact absurd hOther (by decide)
  | @token before gap span after first tokens hGap hCovers hLater ih =>
      intro front c behind hSplit hc
      -- the character stands in the gap, in the span, or behind it
      cases append_cases hSplit with
      | inl hInGap =>
          obtain ⟨middle, hGapSplit, -⟩ := hInGap
          have hOther := hGap c (by rw [hGapSplit]; simp)
          rw [hc] at hOther
          exact absurd hOther (by decide)
      | inr hBehindGap =>
          obtain ⟨inside, hFront, hRest⟩ := hBehindGap
          cases append_cases hRest with
          | inl hInSpan =>
              obtain ⟨back, hSpan, -⟩ := hInSpan
              refine ⟨first, List.mem_cons_self, ?_⟩
              rw [hFront, ← List.append_assoc]
              exact hCovers.hasByte_of_mem hSpan
          | inr hBehindSpan =>
              obtain ⟨later, hInside, hAfter⟩ := hBehindSpan
              obtain ⟨token, hMem, hByte⟩ := ih later c behind hAfter hc
              refine ⟨token, List.mem_cons_of_mem _ hMem, ?_⟩
              rw [hFront, hInside]
              simp only [List.append_assoc] at hByte ⊢
              exact hByte

end Layout

theorem layout_tokenizeList (text : List Char) : Layout [] text (tokenizeList text) :=
  (layout_scan text).1 [] [] fun _ hMem => absurd hMem List.not_mem_nil

/-! ## The spans of a text -/

/-- Spans with something between any two of them have no byte in common. -/
theorem eq_of_hasByte {tokens : List Token}
    (hApart : tokens.Pairwise fun token later => token.stop < later.start) {token other : Token}
    (hMem : token ∈ tokens) (hOther : other ∈ tokens) {place : Nat}
    (h : token.HasByte place) (hPlace : other.HasByte place) : other = token := by
  have hNever : tokens.Pairwise fun a b => ¬ (a.HasByte place ∧ b.HasByte place) := by
    apply hApart.imp
    intro a b hLt hBoth
    unfold Token.HasByte at hBoth
    omega
  by_cases hSame : other = token
  · exact hSame
  · have hSymm : Std.Symm fun a b : Token => ¬ (a.HasByte place ∧ b.HasByte place) :=
      ⟨fun _ _ hNot hBoth => hNot hBoth.symm⟩
    exact absurd ⟨hPlace, h⟩ (hNever.forall hOther hMem hSame)

/-- A byte of a token that begins a character begins a character of the token's span. -/
theorem Token.Covers.exists_split {token : Token} {lead span rest before behind : List Char}
    {c : Char} (h : token.Covers lead span rest)
    (hSplit : lead ++ span ++ rest = before ++ c :: behind)
    (hByte : token.HasByte (byteLength before)) :
    ∃ front back, before = lead ++ front ∧ span = front ++ c :: back ∧ behind = back ++ rest := by
  have hStart := hByte.1
  have hStop := hByte.2
  rw [h.start] at hStart
  rw [h.stop] at hStop
  rw [List.append_assoc] at hSplit
  cases append_cases hSplit with
  | inl hInLead =>
      obtain ⟨middle, hLead, -⟩ := hInLead
      have hPos := byteLength_pos (List.cons_ne_nil c middle)
      rw [hLead, byteLength_append] at hStart
      omega
  | inr hBehindLead =>
      obtain ⟨front, hBefore, hRest⟩ := hBehindLead
      cases append_cases hRest with
      | inl hInSpan =>
          obtain ⟨back, hSpan, hBehind⟩ := hInSpan
          exact ⟨front, back, hBefore, hSpan, hBehind⟩
      | inr hBehindSpan =>
          obtain ⟨more, hFront, -⟩ := hBehindSpan
          rw [hBefore, hFront, byteLength_append, byteLength_append] at hStop
          rw [byteLength_append] at hStop
          omega

/-- A comma is in a span just where it separates two digit groups of it. -/
theorem Token.Covers.hasByte_comma_iff {token : Token} {lead span rest before after : List Char}
    (h : token.Covers lead span rest) (hSplit : lead ++ span ++ rest = before ++ ',' :: after) :
    token.HasByte (byteLength before) ↔
      ∃ other front, before = other ++ front ∧ token.start = byteLength other ∧
        byteLength before ≤ token.stop ∧ JoinsDigits front after := by
  constructor
  · intro hByte
    obtain ⟨front, back, hBefore, hSpan, hAfter⟩ := h.exists_split hSplit hByte
    cases h.inner front ',' back hSpan with
    | inl hLetter => exact absurd hLetter (by decide +kernel)
    | inr hComma =>
        rw [hAfter]
        exact ⟨lead, front, hBefore, h.start, Nat.le_of_lt hByte.2, hComma.2⟩
  · intro hFront
    obtain ⟨other, front, hBefore, hStart, hStop, hJoins⟩ := hFront
    -- both are beginnings of the text, with the same number of bytes
    have hLead : lead = other := by
      have hPrefix : lead <+: lead ++ span ++ rest := by
        rw [List.append_assoc]
        exact List.prefix_append lead _
      have hOther : other <+: lead ++ span ++ rest := by
        rw [hSplit, hBefore, List.append_assoc]
        exact List.prefix_append other _
      exact eq_of_byteLength_eq hPrefix hOther (h.start.symm.trans hStart)
    subst hLead
    rw [hBefore, List.append_assoc, List.append_assoc, List.append_cancel_left_eq] at hSplit
    rw [hBefore]
    cases append_cases hSplit with
    | inl hInSpan =>
        obtain ⟨back, hSpan, -⟩ := hInSpan
        exact h.hasByte_of_mem hSpan
    | inr hBehindSpan =>
        obtain ⟨more, hFront, hRest⟩ := hBehindSpan
        cases more with
        | nil =>
            rw [List.append_nil] at hFront
            rw [hFront] at hJoins
            exact absurd ⟨rfl, hJoins⟩ (h.ends ',' after hRest).2
        | cons d more =>
            have hPos := byteLength_pos (List.cons_ne_nil d more)
            rw [hBefore, h.stop, hFront, byteLength_append, byteLength_append,
              byteLength_append] at hStop
            omega

/--
**Tokens and the bytes they cover**: every text is cut into spans between characters.  They are in
order and apart, have every letter or number of the text exactly once, go as far as they can, and
take in a comma just where it separates two digit groups of a numeral; the text of a token is the
lowercase form of its span without the commas.
-/
theorem tokenization_tokenize (text : String) : Tokenization text.toList (tokenize text) := by
  have hLayout := layout_tokenizeList text.toList
  have hCovers : ∀ token ∈ tokenize text, ∃ before span after,
      text.toList = before ++ span ++ after ∧ token.Covers before span after :=
    hLayout.exists_covers
  refine ⟨hCovers, hLayout.pairwise, ?_, ?_⟩
  · intro before c after hSplit hc
    obtain ⟨token, hMem, hByte⟩ := hLayout.exists_hasByte before c after hSplit hc
    refine ⟨token, ⟨hMem, hByte⟩, ?_⟩
    intro other hOther
    exact eq_of_hasByte hLayout.pairwise hMem hOther.1 hByte hOther.2
  · intro before after hSplit token hMem
    obtain ⟨lead, span, rest, hText, hToken⟩ := hCovers token hMem
    exact hToken.hasByte_comma_iff (hText.symm.trans hSplit)

example : tokenize "Pay: 60,000!" =
    [Token.of "pay".toList 0 3, Token.of "60000".toList 5 11] := by decide +kernel

/-! ## Both sides of a separator -/

/--
**Separators**: a character that is no letter, no number and no comma cuts a text in two.  Its
tokens are those of the part in front of it, and those of the part behind it, which stand as many
bytes later as stand in front of that part; its stems are the stems of both parts.
-/
theorem tokenize_append_separator (a b : String) {c : Char} (hc : isAlphanumeric c = false)
    (hComma : c ≠ ',') :
    tokenize (a ++ String.singleton c ++ b) =
      tokenize a ++ (tokenize b).map (Token.shift (a ++ String.singleton c).utf8ByteSize) ∧
    stems (a ++ String.singleton c ++ b) = stems a ++ stems b := by
  have hList : (a ++ String.singleton c ++ b).toList = a.toList ++ c :: b.toList := by
    rw [String.toList_append, String.toList_append, String.toList_singleton, List.append_assoc,
      List.singleton_append]
  have hFront : (a ++ String.singleton c).toList = a.toList ++ [c] := by
    rw [String.toList_append, String.toList_singleton]
  have hTokens : tokenize (a ++ String.singleton c ++ b) =
      tokenize a ++ (tokenize b).map (Token.shift (a ++ String.singleton c).utf8ByteSize) := by
    rw [tokenize, hList, tokenizeList_append_separator hc hComma, ← hFront, byteLength_toList]
    rfl
  refine ⟨hTokens, ?_⟩
  rw [stems, hTokens, List.map_append, List.map_map]
  rfl

/-- A dash of three bytes, which cuts a digit group in two. -/
theorem tokenize_append_separator_dash :
    isAlphanumeric '–' = false ∧ '–' ≠ ',' ∧
      tokenize "Pays 60,0–00,000" =
        tokenize "Pays 60,0" ++ (tokenize "00,000").map (Token.shift 12) ∧
      stems "Pays 60,0–00,000" = ["pay", "60", "0", "00000"] := by
  have hDash : isAlphanumeric '–' = false := by decide +kernel
  have hComma : '–' ≠ ',' := by decide
  have hBoth := tokenize_append_separator "Pays 60,0" "00,000" hDash hComma
  refine ⟨hDash, hComma, hBoth.1, ?_⟩
  have hStems : stems "Pays 60,0" ++ stems "00,000" = ["pay", "60", "0", "00000"] := by
    decide +kernel
  rw [← hStems]
  exact hBoth.2

end StaffSearch.Query
