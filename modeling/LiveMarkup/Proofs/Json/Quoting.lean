import LiveMarkup.Json.Reader

/-!
Quoting and reading back. Every character has one piece in quoted text, and a reader that comes to
the closing quote has the text that was quoted.
-/

namespace LiveMarkup.Json

theorem hexValue?_hexDigit : ∀ n, n < 16 → hexValue? (hexDigit n) = some n := by decide

theorem hexUnit?_hexDigit {n : Nat} (small : n < 32) :
    hexUnit? '0' '0' (hexDigit (n / 16)) (hexDigit (n % 16)) = some n := by
  have zero : hexValue? '0' = some 0 := by decide
  have high := hexValue?_hexDigit (n / 16) (by omega)
  have low := hexValue?_hexDigit (n % 16) (by omega)
  have whole : ((0 * 16 + 0) * 16 + n / 16) * 16 + n % 16 = n := by omega
  simp only [hexUnit?, zero, high, low, Option.bind_eq_bind, Option.bind_some, whole]

/-- A unit that is no half of a surrogate pair stands for a character of its own. -/
theorem textOf?_unit {n : Nat} (alone : n < 0xD800) (ps : List Piece) :
    textOf? (.unit n :: ps) = (textOf? ps).map (Char.ofNat n :: ·) := by
  have high : isHighSurrogate n = false := by simp [isHighSurrogate]; omega
  have low : isLowSurrogate n = false := by simp [isLowSurrogate]; omega
  cases ps with
  | nil => simp [textOf?, high, low]
  | cons p ps => cases p <;> simp [textOf?, high, low]

/-- The three ways in which a character is written: by a short escape, by its number, as itself. -/
theorem escape_cases (c : Char) :
    (∃ e, escape c = ['\\', e] ∧ e ≠ 'u' ∧ unescape? e = some c) ∨
    (c.toNat < 32 ∧ escape c =
      ['\\', 'u', '0', '0', hexDigit (c.toNat / 16), hexDigit (c.toNat % 16)]) ∨
    (32 ≤ c.toNat ∧ c ≠ '"' ∧ c ≠ '\\' ∧ escape c = [c]) := by
  unfold escape
  split
  · exact Or.inl ⟨'"', rfl, by decide, by simp_all [unescape?]⟩
  split
  · exact Or.inl ⟨'\\', rfl, by decide, by simp_all [unescape?]⟩
  split
  · exact Or.inl ⟨'n', rfl, by decide, by simp_all [unescape?]⟩
  split
  · exact Or.inl ⟨'r', rfl, by decide, by simp_all [unescape?]⟩
  split
  · exact Or.inl ⟨'t', rfl, by decide, by simp_all [unescape?]⟩
  split
  · exact Or.inl ⟨'b', rfl, by decide, by simp_all [unescape?]⟩
  split
  · exact Or.inl ⟨'f', rfl, by decide, by simp_all [unescape?]⟩
  split
  · rename_i low
    exact Or.inr (Or.inl ⟨low, rfl⟩)
  · rename_i quote backslash _ _ _ _ _ high
    exact Or.inr (Or.inr ⟨Nat.le_of_not_lt high, quote, backslash, rfl⟩)

/-- Each character is written as one piece that stands for it. -/
theorem pieces_escape (c : Char) : ∃ p : Piece,
    (∀ rest, pieces (escape c ++ rest) = (pieces rest).map fun found => (p :: found.1, found.2)) ∧
      ∀ ps, textOf? (p :: ps) = (textOf? ps).map (c :: ·) := by
  obtain ⟨e, written, plain, short⟩ | ⟨low, written⟩ | ⟨high, quote, backslash, written⟩ :=
    escape_cases c
  · refine ⟨.char c, fun rest => ?_, fun ps => rfl⟩
    rw [written, List.cons_append, List.singleton_append,
      pieces.eq_4 e rest fun _ _ _ _ _ unicode => absurd unicode plain, short]
    cases pieces rest <;> rfl
  · refine ⟨.unit c.toNat, fun rest => ?_, fun ps => ?_⟩
    · simp only [written, List.cons_append, List.nil_append, pieces, hexUnit?_hexDigit low]
      cases pieces rest <;> rfl
    · rw [textOf?_unit (by omega), Char.ofNat_toNat]
  · refine ⟨.char c, fun rest => ?_, fun ps => rfl⟩
    have printed : ¬ c.toNat < 32 := Nat.not_lt.mpr high
    rw [written, List.singleton_append, pieces.eq_5 c rest quote
      (fun _ _ _ _ _ escaped => absurd escaped backslash)
      (fun _ _ escaped => absurd escaped backslash), if_neg printed]
    cases pieces rest <;> rfl

/-- A quoted text is read back, and the reader stops right behind it. -/
theorem readString_escape (t rest : Text) :
    readString (t.flatMap escape ++ '"' :: rest) = some (some t, rest) := by
  have read : ∃ ps, pieces (t.flatMap escape ++ '"' :: rest) = some (ps, rest) ∧
      textOf? ps = some t := by
    induction t with
    | nil => exact ⟨[], rfl, rfl⟩
    | cons c t ih =>
      obtain ⟨ps, front, back⟩ := ih
      obtain ⟨p, taken, stands⟩ := pieces_escape c
      refine ⟨p :: ps, ?_, ?_⟩
      · rw [List.flatMap_cons, List.append_assoc, taken, front]
        rfl
      · rw [stands, back]
        rfl
  obtain ⟨ps, front, back⟩ := read
  simp [readString, front, back]

end LiveMarkup.Json
