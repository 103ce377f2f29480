import StaffSearch.Proofs.SpacedWords

/-!
# Numbers that are written and read back

A number can be written in plain digits or with a comma in front of every three of them, counted
from the right, and with a `k` for thousands behind it.  Each of these texts is a single token, and
the number is its value as long as it fits a signed 64-bit word; a number that does not fit is no
numeral.

The commas are set from the last digit on (`groupFromEnd`), so the groups are found by recursion on
the reversed digits (`exists_spelling_groupFromEnd`), and the number becomes a `Spelling`, whose
scan and whose value are known.
-/

namespace StaffSearch.Query

open StaffSearch.Text

/-! ## Writing numbers -/

/-- The digits from the last one to the first, with a comma behind every third one that is not the
end of them. -/
def groupFromEnd : List Char → List Char
  | a :: b :: c :: d :: rest => a :: b :: c :: ',' :: groupFromEnd (d :: rest)
  | digits => digits

/-- The ways of writing a number. -/
inductive NumberStyle where
  /-- In digits only. -/
  | plain
  /-- With a comma in front of every three digits, counted from the right. -/
  | grouped
  deriving DecidableEq, Repr

/-- The number in decimal digits. -/
def NumberStyle.write (style : NumberStyle) (n : Nat) : String :=
  match style with
  | .plain => String.ofList (Nat.toDigits 10 n)
  | .grouped => String.ofList (groupFromEnd (Nat.toDigits 10 n).reverse).reverse

example : NumberStyle.grouped.write 1234567 = "1,234,567" := by decide

/-- The digits in groups spell a numeral. -/
theorem exists_spelling_groupFromEnd (reversed : List Char) :
    reversed ≠ [] → (∀ c ∈ reversed, isAsciiDigit c = true) →
      ∃ spelling : Spelling, spelling.digits = reversed.reverse ∧
        spelling.text = String.ofList (groupFromEnd reversed).reverse := by
  induction reversed using groupFromEnd.induct with
  | case1 a b c d rest ih =>
      intro _ hDigits
      have hRest : ∀ x ∈ d :: rest, isAsciiDigit x = true := fun x hMem =>
        hDigits x (List.mem_append_right [a, b, c] hMem)
      have hGroup : ∀ x ∈ [a, b, c].reverse, isAsciiDigit x = true := fun x hMem =>
        hDigits x (List.mem_append_left (d :: rest) (List.mem_reverse.mp hMem))
      obtain ⟨front, hFront, hText⟩ := ih (List.cons_ne_nil d rest) hRest
      have hGroups : ∀ group ∈ front.groups ++ [[c, b, a]],
          group.length = 3 ∧ ∀ x ∈ group, isAsciiDigit x = true := by
        intro group hMem
        cases List.mem_append.mp hMem with
        | inl hOld => exact front.groups_digits group hOld
        | inr hNew =>
            rw [List.mem_singleton.mp hNew]
            exact ⟨rfl, hGroup⟩
      refine ⟨⟨front.head, front.groups ++ [[c, b, a]], front.head_ne_nil, front.head_digits,
        hGroups⟩, ?_, ?_⟩
      · have hDigitsSplit : front.head ++ front.groups.flatten = (d :: rest).reverse := hFront
        show front.head ++ (front.groups ++ [[c, b, a]]).flatten = _
        rw [List.flatten_append, ← List.append_assoc, hDigitsSplit]
        simp
      · have hTextSplit : front.head ++ front.groups.flatMap (',' :: ·) =
            (groupFromEnd (d :: rest)).reverse := String.ofList_injective hText
        show String.ofList (front.head ++ (front.groups ++ [[c, b, a]]).flatMap (',' :: ·)) = _
        rw [List.flatMap_append, ← List.append_assoc, hTextSplit, groupFromEnd]
        simp
  | case2 digits hShort =>
      intro hSome hDigits
      have hNoGroups : ∀ group ∈ ([] : List (List Char)),
          group.length = 3 ∧ ∀ x ∈ group, isAsciiDigit x = true := by simp
      refine ⟨⟨digits.reverse, [], by simpa using hSome, by simpa using hDigits, hNoGroups⟩, ?_, ?_⟩
      · exact List.append_nil _
      · rw [groupFromEnd]
        · exact congrArg String.ofList (List.append_nil _)
        · exact hShort

/-- **A written number is a numeral**, in either style, with the number as its value. -/
theorem NumberStyle.exists_spelling (style : NumberStyle) (n : Nat) :
    ∃ spelling : Spelling, spelling.text = style.write n ∧ spelling.value = n := by
  have hDigits : ∀ c ∈ Nat.toDigits 10 n, isAsciiDigit c = true := fun c hMem =>
    isAsciiDigit_of_mem_toDigits hMem
  cases style with
  | plain =>
      refine ⟨⟨Nat.toDigits 10 n, [], Nat.toDigits_ne_nil, hDigits, by simp⟩, ?_, ?_⟩
      · exact congrArg String.ofList (List.append_nil _)
      · show decimalValue (Nat.toDigits 10 n ++ []) = n
        rw [List.append_nil, decimalValue_toDigits]
  | grouped =>
      have hSome : (Nat.toDigits 10 n).reverse ≠ [] := by
        intro hNil
        exact Nat.toDigits_ne_nil (List.reverse_eq_nil_iff.mp hNil)
      obtain ⟨spelling, hSpelling, hText⟩ :=
        exists_spelling_groupFromEnd (Nat.toDigits 10 n).reverse hSome fun c hMem =>
          hDigits c (List.mem_reverse.mp hMem)
      refine ⟨spelling, hText, ?_⟩
      rw [Spelling.value, hSpelling, List.reverse_reverse, decimalValue_toDigits]

/-! ## Reading numbers -/

/-- The text is a single token, from its beginning to its end, and has the value if that fits a
signed 64-bit word; otherwise it is no numeral. -/
def ReadsAs (text : String) (value : Nat) : Prop :=
  ∃ token, tokenize text = [token] ∧ token.start = 0 ∧ token.stop = text.utf8ByteSize ∧
    token.numeral? = (if value < 2 ^ 63 then some value else none) ∧
      (token.isNumeral = true ↔ value < 2 ^ 63)

theorem readsAs_of_token {text : String} {letters : List Char} {value : Nat}
    (hTokens : tokenize text = [Token.of letters 0 text.utf8ByteSize])
    (hValue : numeralOf? letters = if value < Word.count 63 then some value else none) :
    ReadsAs text value := by
  have hNumeral : (Token.of letters 0 text.utf8ByteSize).numeral? =
      if value < 2 ^ 63 then some value else none := by
    rw [Token.numeral?, Token.of, String.toList_ofList]
    exact hValue
  refine ⟨Token.of letters 0 text.utf8ByteSize, hTokens, rfl, rfl, hNumeral, ?_⟩
  rw [Token.isNumeral, hNumeral]
  by_cases hFits : value < 2 ^ 63
  · rw [if_pos hFits]
    exact ⟨fun _ => hFits, fun _ => rfl⟩
  · rw [if_neg hFits]
    exact ⟨fun h => absurd h (by decide), fun h => absurd h hFits⟩

theorem readsAs_spelling (spelling : Spelling) : ReadsAs spelling.text spelling.value := by
  have hScan := scan_spelling stopsDigits_nil spelling 0
  rw [List.append_nil, Nat.zero_add, byteLength_toList] at hScan
  exact readsAs_of_token hScan (numeralOf?_spelling spelling)

/-- A letter for thousands is added to the token, in lowercase. -/
theorem readsAs_thousands (spelling : Spelling) (unit : Char) (hUnit : unit = 'k' ∨ unit = 'K') :
    ReadsAs (spelling.text ++ String.singleton unit) (1000 * spelling.value) := by
  have hLetter : isAlphanumeric unit = true ∧ isAsciiDigit unit = false ∧ lowerChar unit = ['k'] := by
    cases hUnit with
    | inl hSmall => rw [hSmall]; decide +kernel
    | inr hCapital => rw [hCapital]; decide +kernel
  have hStops : StopsDigits [unit] := stopsDigits_cons hLetter.2.1
  have hScan := scan_spelling hStops spelling 0
  have hText : (spelling.text ++ String.singleton unit).toList = spelling.text.toList ++ [unit] := by
    rw [String.toList_append, String.toList_singleton]
  rw [scan_cons_alphanumeric hLetter.1, scan_nil, ← hText, Nat.zero_add, byteLength_toList,
    ← String.utf8ByteSize_singleton, ← String.utf8ByteSize_append] at hScan
  have hValue := numeralOf?_thousands spelling
  rw [Nat.mul_comm, ← hLetter.2.2] at hValue
  exact readsAs_of_token hScan hValue

/--
**Every written number is read back**, in either style, and in thousands with a `k` or a `K` behind
it: it is one token, which has the number as its value exactly when that fits.
-/
theorem readsAs_write (style : NumberStyle) (n : Nat) :
    ReadsAs (style.write n) n ∧ ReadsAs (style.write n ++ "k") (1000 * n) ∧
      ReadsAs (style.write n ++ "K") (1000 * n) := by
  obtain ⟨spelling, hText, hValue⟩ := style.exists_spelling n
  have hSmall := readsAs_thousands spelling 'k' (Or.inl rfl)
  have hCapital := readsAs_thousands spelling 'K' (Or.inr rfl)
  rw [show String.singleton 'k' = "k" from rfl, hText, hValue] at hSmall
  rw [show String.singleton 'K' = "K" from rfl, hText, hValue] at hCapital
  refine ⟨?_, hSmall, hCapital⟩
  rw [← hText, ← hValue]
  exact readsAs_spelling spelling

end StaffSearch.Query
