import StaffSearch.Proofs.Letters
import StaffSearch.Query.Token

/-!
# Where tokens begin and end

The scan reads a text from left to right and carries the token under way.  Most questions about a
query are local, though: which token covers this word, and does it change when the text around the
word does?  This file makes the scan local.

* A character that ends every token cuts the text in two, and each half is read on its own
  (`scan_append_cut`, `scan_of_cutBetween`).
* A run of letters and numbers behind such a cut is a token by itself when the text behind it does
  not carry the token on (`scan_run`).
* Reading further to the right shifts the tokens and changes nothing else (`scan_shift`).

A comma is the delicate character: it ends a token unless digits stand around it in the right
number, so every statement about a cut has to say what stands behind a comma.
-/

namespace StaffSearch.Query

open StaffSearch.Text

/-! ## Lengths and texts of runs -/

/-- The number of bytes of a text. -/
def byteLength : List Char → Nat
  | [] => 0
  | c :: rest => c.utf8Size + byteLength rest

@[simp] theorem byteLength_nil : byteLength [] = 0 := rfl

@[simp] theorem byteLength_cons (c : Char) (text : List Char) :
    byteLength (c :: text) = c.utf8Size + byteLength text := rfl

@[simp] theorem byteLength_append (a b : List Char) :
    byteLength (a ++ b) = byteLength a + byteLength b := by
  induction a with
  | nil => simp
  | cons c a ih => simp [ih, Nat.add_assoc]

/-- These are the bytes of the text in UTF-8. -/
theorem byteLength_toList (text : String) : byteLength text.toList = text.utf8ByteSize := by
  have hList : ∀ list : List Char, byteLength list = (String.ofList list).utf8ByteSize := by
    intro list
    induction list with
    | nil => rfl
    | cons c rest ih =>
        have hSplit : String.ofList (c :: rest) = String.singleton c ++ String.ofList rest := by
          rw [← String.toList_inj, String.toList_append, String.toList_singleton]
          simp
        rw [byteLength_cons, ih, hSplit, String.utf8ByteSize_append, String.utf8ByteSize_singleton]
  rw [hList, String.ofList_toList]

/-- The text of a token that covers the run of letters and numbers. -/
def runText (run : List Char) : List Char := run.flatMap lowerChar

@[simp] theorem runText_cons (c : Char) (run : List Char) :
    runText (c :: run) = lowerChar c ++ runText run := rfl

/-! ## Cutting at a separator -/

/-- A separator behind a text does not lend it digits. -/
theorem startsDigitGroup_append {c : Char} (hc : isAsciiDigit c = false) (text rest : List Char) :
    startsDigitGroup (text ++ c :: rest) = startsDigitGroup text := by
  match text with
  | [] =>
      match rest with
      | [] => rfl
      | [_] => rfl
      | _ :: _ :: _ => simp [startsDigitGroup, hc]
  | [_] =>
      match rest with
      | [] => rfl
      | _ :: _ => simp [startsDigitGroup, hc]
  | [_, _] => simp [startsDigitGroup, hc]
  | [_, _, _] => simp [startsDigitGroup, hc]
  | _ :: _ :: _ :: _ :: _ => simp [startsDigitGroup]

@[simp] theorem startsDigitGroup_cons {c : Char} (hc : isAsciiDigit c = false) (rest : List Char) :
    startsDigitGroup (c :: rest) = false := by
  unfold startsDigitGroup
  split
  · next h =>
      cases h
      rw [hc]
      rfl
  · rfl

theorem continuesAt_append {c : Char} (hc : isAsciiDigit c = false) (text rest : List Char)
    (token : Option OpenToken) :
    OpenToken.continuesAt (text ++ c :: rest) token = OpenToken.continuesAt text token := by
  cases token with
  | none => rfl
  | some token => simp only [OpenToken.continuesAt, startsDigitGroup_append hc]

@[simp] theorem scan_cons (position : Nat) (token : Option OpenToken) (c : Char)
    (rest : List Char) : scan position token (c :: rest) =
      if isAlphanumeric c then
        scan (position + c.utf8Size) (some (OpenToken.push position c token)) rest
      else if c = ',' ∧ OpenToken.continuesAt rest token = true then
        scan (position + c.utf8Size) token rest
      else OpenToken.close position token ++ scan (position + c.utf8Size) none rest := rfl

/-- A character that carries no token on ends the token under way. -/
theorem scan_cons_of_ends {c : Char} {rest : List Char} {token : Option OpenToken}
    (hc : isAlphanumeric c = false) (hComma : c = ',' → OpenToken.continuesAt rest token = false)
    (position : Nat) :
    scan position token (c :: rest) =
      OpenToken.close position token ++ scan (position + c.utf8Size) none rest := by
  have hCarried : ¬ (c = ',' ∧ OpenToken.continuesAt rest token = true) := by
    rintro ⟨h, hOn⟩
    rw [hComma h] at hOn
    exact absurd hOn (by decide)
  rw [scan_cons, if_neg (by rw [hc]; decide), if_neg hCarried]

/--
**Cutting at a separator**: when no token can reach over the character `c`, the text in front of it
and the text behind it are read independently of each other.
-/
theorem scan_append_cut {c : Char} {rest : List Char} (hc : isAlphanumeric c = false)
    (hComma : c = ',' → startsDigitGroup rest = false) (text : List Char) :
    ∀ (position : Nat) (token : Option OpenToken),
      scan position token (text ++ c :: rest) =
        scan position token text ++
          scan (position + byteLength (text ++ [c])) none rest := by
  have hDigit := isAsciiDigit_eq_false_of_separator hc
  induction text with
  | nil =>
      intro position token
      have hEnds : c = ',' → OpenToken.continuesAt rest token = false := by
        intro h
        cases token with
        | none => rfl
        | some token => simp only [OpenToken.continuesAt, hComma h, Bool.and_false]
      rw [List.nil_append, scan_cons_of_ends hc hEnds]
      simp [scan]
  | cons x text ih =>
      intro position token
      have hBytes : ∀ next, next = position + x.utf8Size →
          next + byteLength (text ++ [c]) = position + byteLength (x :: text ++ [c]) := by
        intro next hNext
        simp only [List.cons_append, byteLength_cons]
        omega
      rw [List.cons_append, scan_cons, scan_cons position token x text,
        continuesAt_append hDigit]
      split
      · rw [ih, hBytes _ rfl]
      · split
        · rw [ih, hBytes _ rfl]
        · rw [ih, hBytes _ rfl, List.append_assoc]

/-- No token reaches from `lead` into `rest`: unless it is empty, `lead` ends with a separator,
which is no comma in front of a digit group. -/
def CutBetween (lead rest : List Char) : Prop :=
  ∀ front c, lead = front ++ [c] →
    isAlphanumeric c = false ∧ (c = ',' → startsDigitGroup rest = false)

/-- Two texts with a cut between them are read independently of each other. -/
theorem scan_of_cutBetween {lead rest : List Char} (hCut : CutBetween lead rest)
    (position : Nat) :
    scan position none (lead ++ rest) =
      scan position none lead ++ scan (position + byteLength lead) none rest := by
  rcases List.eq_nil_or_concat lead with rfl | ⟨front, c, hLead⟩
  · rfl
  · rw [List.concat_eq_append] at hLead
    subst hLead
    obtain ⟨hc, hComma⟩ := hCut front c rfl
    have hWhole := scan_append_cut hc hComma front position none
    have hNothing : c = ',' → startsDigitGroup [] = false := fun _ => rfl
    have hAlone := scan_append_cut hc hNothing front position none
    rw [scan_nil, OpenToken.close, List.append_nil] at hAlone
    rw [List.append_assoc, List.singleton_append, hWhole, hAlone]

/-! ## Runs of letters and numbers -/

/-- A token with the text `text` ends in front of `rest`: no letter or number follows, and no comma
that separates digit groups. -/
def TokenEnds (text rest : List Char) : Prop :=
  ∀ c behind, rest = c :: behind →
    isAlphanumeric c = false ∧
      (c = ',' → text.all isAsciiDigit = true → startsDigitGroup behind = false)

@[simp] theorem tokenEnds_nil (text : List Char) : TokenEnds text [] := by
  intro c behind h
  exact absurd h (by simp)

/-- The token under way ends where nothing carries it on; the rest is read anew. -/
theorem scan_of_tokenEnds {token : OpenToken} {rest : List Char}
    (hEnds : TokenEnds token.text rest) (position : Nat) :
    scan position (some token) rest =
      Token.of token.text token.start position :: scan position none rest := by
  cases rest with
  | nil => rfl
  | cons c behind =>
      obtain ⟨hc, hComma⟩ := hEnds c behind rfl
      have hClosed : c = ',' → OpenToken.continuesAt behind (some token) = false := by
        intro h
        cases hDigits : token.text.all isAsciiDigit with
        | false => simp only [OpenToken.continuesAt, hDigits, Bool.false_and]
        | true => simp only [OpenToken.continuesAt, hComma h hDigits, Bool.and_false]
      rw [scan_cons_of_ends hc hClosed, scan_cons_of_ends hc fun _ => rfl]
      rfl

/-- A run of letters and numbers is added to the token under way. -/
theorem scan_some_append (run rest : List Char) :
    ∀ (position : Nat) (token : OpenToken), (∀ c ∈ run, isAlphanumeric c = true) →
      scan position (some token) (run ++ rest) =
        scan (position + byteLength run)
          (some { token with text := token.text ++ runText run }) rest := by
  induction run with
  | nil =>
      intro position token _
      simp [runText]
  | cons c run ih =>
      intro position token hRun
      rw [List.cons_append, scan_cons_alphanumeric (hRun c (by simp)),
        ih _ _ fun x hx => hRun x (by simp [hx])]
      simp only [OpenToken.push, byteLength_cons, runText_cons, List.append_assoc, Nat.add_assoc]

/-- A run of letters and numbers starts a token where none is under way. -/
theorem scan_none_append {run : List Char} (hNonempty : run ≠ [])
    (hRun : ∀ c ∈ run, isAlphanumeric c = true) (position : Nat) (rest : List Char) :
    scan position none (run ++ rest) =
      scan (position + byteLength run) (some { start := position, text := runText run }) rest := by
  cases run with
  | nil => exact absurd rfl hNonempty
  | cons c run =>
      rw [List.cons_append, scan_cons_alphanumeric (hRun c (by simp)),
        scan_some_append run rest _ _ fun x hx => hRun x (by simp [hx])]
      simp only [OpenToken.push, byteLength_cons, runText_cons, Nat.add_assoc]

/-- **A run is a token** when nothing behind it carries the token on. -/
theorem scan_run {run rest : List Char} (hNonempty : run ≠ [])
    (hRun : ∀ c ∈ run, isAlphanumeric c = true) (hEnds : TokenEnds (runText run) rest)
    (position : Nat) :
    scan position none (run ++ rest) =
      Token.of (runText run) position (position + byteLength run) ::
        scan (position + byteLength run) none rest := by
  rw [scan_none_append hNonempty hRun]
  have hOpen : TokenEnds (OpenToken.text ⟨position, runText run⟩) rest := hEnds
  exact scan_of_tokenEnds hOpen _

/-! ## Shifting -/

/-- The same open token, `offset` bytes later. -/
def OpenToken.shift (offset : Nat) (token : OpenToken) : OpenToken :=
  { token with start := token.start + offset }

/-- **Shifting**: a text that is read `offset` bytes later has the same tokens `offset` bytes
later. -/
theorem scan_shift (offset : Nat) (text : List Char) :
    ∀ (position : Nat) (token : Option OpenToken),
      scan (position + offset) (token.map (OpenToken.shift offset)) text =
        (scan position token text).map (Token.shift offset) := by
  induction text with
  | nil =>
      intro position token
      cases token <;> rfl
  | cons c rest ih =>
      intro position token
      have hPush : OpenToken.push (position + offset) c (token.map (OpenToken.shift offset)) =
          OpenToken.shift offset (OpenToken.push position c token) := by
        cases token <;> rfl
      have hOn : OpenToken.continuesAt rest (token.map (OpenToken.shift offset)) =
          OpenToken.continuesAt rest token := by
        cases token <;> rfl
      have hClose : OpenToken.close (position + offset) (token.map (OpenToken.shift offset)) =
          (OpenToken.close position token).map (Token.shift offset) := by
        cases token <;> rfl
      have hNext : position + offset + c.utf8Size = position + c.utf8Size + offset := by omega
      rw [scan_cons, scan_cons position token c rest, hPush, hOn, hClose, hNext]
      split
      · exact ih _ (some _)
      · split
        · exact ih _ token
        · rw [List.map_append, ← ih _ none]
          rfl

theorem scan_none_eq_map_shift (position : Nat) (text : List Char) :
    scan position none text = (tokenizeList text).map (Token.shift position) := by
  have h := scan_shift position text 0 none
  rw [Nat.zero_add] at h
  exact h

/-- A separator other than a comma cuts a text in two: the tokens of the text behind it follow, so
many bytes later. -/
theorem tokenizeList_append_separator {c : Char} (hc : isAlphanumeric c = false) (hComma : c ≠ ',')
    (text rest : List Char) :
    tokenizeList (text ++ c :: rest) =
      tokenizeList text ++ (tokenizeList rest).map (Token.shift (byteLength (text ++ [c]))) := by
  have hNoGroup : c = ',' → startsDigitGroup rest = false := fun h => absurd h hComma
  have hCut := scan_append_cut hc hNoGroup text 0 none
  rw [Nat.zero_add, scan_none_eq_map_shift (byteLength (text ++ [c]))] at hCut
  exact hCut

/-! ## Texts without tokens -/

theorem scan_some_ne_nil (text : List Char) :
    ∀ (position : Nat) (token : OpenToken), scan position (some token) text ≠ [] := by
  induction text with
  | nil =>
      intro position token
      simp [scan, OpenToken.close]
  | cons c rest ih =>
      intro position token
      rw [scan_cons]
      split
      · exact ih _ _
      · split
        · exact ih _ _
        · simp [OpenToken.close]

/-- A text has no token exactly when no character of it is a letter or a number. -/
theorem scan_none_eq_nil_iff (text : List Char) :
    ∀ position, scan position none text = [] ↔ ∀ c ∈ text, isAlphanumeric c = false := by
  induction text with
  | nil =>
      intro position
      simp [scan, OpenToken.close]
  | cons c rest ih =>
      intro position
      cases hc : isAlphanumeric c with
      | true =>
          rw [scan_cons_alphanumeric hc]
          simp [scan_some_ne_nil, hc]
      | false =>
          rw [scan_cons_of_ends hc fun _ => rfl]
          simp [OpenToken.close, ih, hc]

theorem tokenize_eq_nil_iff (text : String) :
    tokenize text = [] ↔ ∀ c ∈ text.toList, isAlphanumeric c = false :=
  scan_none_eq_nil_iff text.toList 0

end StaffSearch.Query
