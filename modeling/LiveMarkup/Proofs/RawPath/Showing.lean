import LiveMarkup.Utf8
import Mathlib.Tactic.SplitIfs

/-!
What is kept of bytes that are shown as text.

* `ofBytesLossy_utf8`: text is shown as it is;
* `eq_utf8_of_ofBytesLossy`: whatever shows no mark is text;
* `eq_of_mem_utf8EncodeChar`, `mem_of_mem_ofBytesLossy`: a slash is shown for a slash alone.
-/

namespace LiveMarkup.Text

theorem utf8_cons (c : Char) (t : Text) : utf8 (c :: t) = String.utf8EncodeChar c ++ utf8 t :=
  List.flatMap_cons

theorem utf8_append (s t : Text) : utf8 (s ++ t) = utf8 s ++ utf8 t :=
  List.flatMap_append

theorem first?_encoded (c : Char) (rest : List UInt8) :
    first? (String.utf8EncodeChar c ++ rest) = some c := by
  unfold first?
  rw [List.toByteArray_append]
  exact ByteArray.utf8DecodeChar?_utf8EncodeChar_append

/-- Bytes that begin with a character are its bytes and more. -/
theorem eq_of_first? {bytes : List UInt8} {c : Char} (h : first? bytes = some c) :
    ∃ rest, bytes = String.utf8EncodeChar c ++ rest := by
  obtain ⟨rest, split⟩ := ByteArray.exists_of_utf8DecodeChar?_eq_some h
  refine ⟨rest.data.toList, ?_⟩
  have content := congrArg (fun b : ByteArray => b.data.toList) split
  simpa using content

theorem showBehind_eq (skipped : Nat) (bytes : List UInt8) :
    showBehind skipped bytes = ofBytesLossy (bytes.drop skipped) := by
  induction bytes generalizing skipped with
  | nil => cases skipped <;> rfl
  | cons b rest ih =>
    cases skipped with
    | zero => rfl
    | succ skipped => exact ih skipped

/-- Showing a character goes on with what is behind its bytes. -/
theorem ofBytesLossy_encoded (c : Char) (rest : List UInt8) :
    ofBytesLossy (String.utf8EncodeChar c ++ rest) = c :: ofBytesLossy rest := by
  have first := first?_encoded c rest
  have size := String.length_utf8EncodeChar c
  cases bytes : String.utf8EncodeChar c with
  | nil => exact absurd bytes String.utf8EncodeChar_ne_nil
  | cons b more =>
    rw [bytes] at first size
    have last : c.utf8Size - 1 = more.length := by
      rw [← size, List.length_cons, Nat.add_sub_cancel]
    rw [List.cons_append] at first ⊢
    rw [ofBytesLossy, showBehind, first]
    simp only
    rw [showBehind_eq, last, List.drop_left]

theorem ofBytesLossy_utf8 (t : Text) : ofBytesLossy (utf8 t) = t := by
  induction t with
  | nil => rfl
  | cons c t ih => rw [utf8_cons, ofBytesLossy_encoded, ih]

theorem utf8_injective {s t : Text} (h : utf8 s = utf8 t) : s = t := by
  rw [← ofBytesLossy_utf8 s, h, ofBytesLossy_utf8]

/-- Some bytes begin with a character, with which they are shown, or with a flaw. -/
theorem ofBytesLossy_cases (b : UInt8) (rest : List UInt8) :
    (∃ c more, b :: rest = String.utf8EncodeChar c ++ more ∧
      ofBytesLossy (b :: rest) = c :: ofBytesLossy more) ∨
    ∃ behind, behind <:+ rest ∧ ofBytesLossy (b :: rest) = flawMark :: ofBytesLossy behind := by
  cases first : first? (b :: rest) with
  | some c =>
    obtain ⟨more, split⟩ := eq_of_first? first
    refine Or.inl ⟨c, more, split, ?_⟩
    rw [split, ofBytesLossy_encoded]
  | none =>
    refine Or.inr ⟨_, List.drop_suffix (flawLength (b :: rest) - 1) rest, ?_⟩
    rw [ofBytesLossy, showBehind, first]
    simp only
    rw [showBehind_eq]

/-- Bytes that are shown without a mark are those of the text that they are shown as. -/
theorem eq_utf8_of_ofBytesLossy {bytes : List UInt8} {t : Text} (shown : ofBytesLossy bytes = t)
    (unmarked : flawMark ∉ t) : bytes = utf8 t := by
  induction t generalizing bytes with
  | nil =>
    cases bytes with
    | nil => rfl
    | cons b rest =>
      rcases ofBytesLossy_cases b rest with ⟨c, more, -, first⟩ | ⟨behind, -, first⟩ <;>
        · rw [first] at shown
          cases shown
  | cons c t ih =>
    cases bytes with
    | nil => cases shown
    | cons b rest =>
      rcases ofBytesLossy_cases b rest with ⟨d, more, split, first⟩ | ⟨behind, -, first⟩
      · rw [first] at shown
        cases shown
        have behind := ih rfl fun member => unmarked (List.mem_cons_of_mem _ member)
        rw [split, utf8_cons, ← behind]
      · rw [first] at shown
        cases shown
        exact absurd List.mem_cons_self unmarked

/-! ### Single bytes -/

/-- A byte below 128 is a character of its own. -/
theorem eq_of_mem_utf8EncodeChar {c : Char} {b : UInt8} (member : b ∈ String.utf8EncodeChar c)
    (single : b.toNat < 128) : String.utf8EncodeChar c = [b] ∧ c.toNat = b.toNat := by
  have high {n m : Nat} (bound : 128 ≤ m) (fits : n + m < 256) : b ≠ UInt8.ofNat (n + m) := by
    rintro rfl
    rw [UInt8.toNat_ofNat_of_lt' (by simpa [UInt8.size] using fits)] at single
    omega
  unfold String.utf8EncodeChar at member ⊢
  simp only at member ⊢
  split_ifs at member ⊢ with one two three
  · have same := List.mem_singleton.mp member
    refine ⟨by rw [same], ?_⟩
    rw [same, UInt8.toNat_ofNat_of_lt' (Nat.lt_of_le_of_lt one (by decide))]
    rfl
  · simp only [List.mem_cons, List.not_mem_nil, or_false] at member
    rcases member with same | same <;> exact absurd same (high (by omega) (by omega))
  · simp only [List.mem_cons, List.not_mem_nil, or_false] at member
    rcases member with same | same | same <;> exact absurd same (high (by omega) (by omega))
  · simp only [List.mem_cons, List.not_mem_nil, or_false] at member
    rcases member with same | same | same | same <;>
      exact absurd same (high (by omega) (by omega))

/-- A character below 128 is shown for its byte alone. -/
theorem mem_of_mem_ofBytesLossy {bytes : List UInt8} {c : Char} (member : c ∈ ofBytesLossy bytes)
    {b : UInt8} (encoded : String.utf8EncodeChar c = [b]) (other : c ≠ flawMark) : b ∈ bytes := by
  induction gap : bytes.length using Nat.strongRecOn generalizing bytes with
  | ind gap ih =>
    cases bytes with
    | nil => cases member
    | cons a rest =>
      rcases ofBytesLossy_cases a rest with ⟨d, more, split, first⟩ | ⟨behind, suffix, first⟩
      · have size := congrArg List.length split
        have some := List.length_pos_iff.mpr (String.utf8EncodeChar_ne_nil (c := d))
        rw [List.length_append] at size
        rw [first] at member
        rw [split]
        rcases List.mem_cons.mp member with rfl | member
        · exact List.mem_append_left more (encoded ▸ List.mem_singleton_self b)
        · exact List.mem_append_right _ (ih more.length (by omega) member rfl)
      · have size := suffix.length_le
        rw [first] at member
        rcases List.mem_cons.mp member with rfl | member
        · exact absurd rfl other
        · have behind := ih behind.length (by rw [← gap, List.length_cons]; omega) member rfl
          exact List.mem_cons_of_mem a (suffix.subset behind)

end LiveMarkup.Text
