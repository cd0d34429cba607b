import LiveMarkup.Proofs.Pattern.Carrying
import Mathlib.Data.List.Basic

/-!
What a pattern matches. An expression matches a part of a text that is seen with what stands before
and behind it, and a search finds a pattern exactly where it matches a part.

* `Expr.Matches`: the parts that an expression matches;
* `Spans`: parts by the places where they begin and end;
* `carries_ends`, `Expr.occursIn_iff`: the search is right for every expression and every text.
-/

namespace LiveMarkup.Pattern

/-! ### The parts that an expression matches -/

/-- A number of matches, one behind the other. -/
def Times (one : Text → Text → Text → Prop) : Nat → Text → Text → Text → Prop
  | 0, _, part, _ => part = []
  | n + 1, before, part, after =>
    ∃ a b, part = a ++ b ∧ Times one n before a (b ++ after) ∧ one (before ++ a) b after

/-- Whether an expression matches a part of a text, between what stands before and behind it. -/
def Expr.Matches : Expr → Text → Text → Text → Prop
  | .empty, _, part, _ => part = []
  | .text cs, _, part, _ => part = cs
  | .set s _, _, part, _ => ∃ c, part = [c] ∧ s.mem c = true
  | .look l, before, part, after => part = [] ∧ l.holds before.getLast? after.head? = true
  | .repeated low high _ e, before, part, after =>
    ∃ n, low ≤ n ∧ (∀ h ∈ high, n ≤ max low h) ∧ Times e.Matches n before part after
  | .group _ e, before, part, after => e.Matches before part after
  | .seq first rest, before, part, after =>
    ∃ a b, part = a ++ b ∧ first.Matches before a (b ++ after) ∧ rest.Matches (before ++ a) b after
  | .alt first rest, before, part, after =>
    first.Matches before part after ∨ rest.Matches before part after

/-! ### Places and parts -/

/-- Whether the part of a text from one place to another is as asked for. -/
def Spans (t : Text) (asked : Text → Text → Text → Prop) (i j : Nat) : Prop :=
  ∃ before part after, t = before ++ (part ++ after) ∧ i = before.length ∧
    j = before.length + part.length ∧ asked before part after

variable {t : Text} {one other : Text → Text → Text → Prop}

theorem spans_nil {i j : Nat} (inside : i < t.length + 1) :
    Spans t (fun _ part _ => part = []) i j ↔ i = j := by
  constructor
  · rintro ⟨before, part, after, -, rfl, rfl, rfl⟩
    rfl
  · rintro rfl
    refine ⟨t.take i, [], t.drop i, (List.take_append_drop i t).symm, ?_, ?_, rfl⟩ <;>
      simp <;> omega

/-- Parts that stand side by side make one part. -/
theorem spans_append {i j : Nat} :
    Spans t (fun before part after => ∃ a b, part = a ++ b ∧ one before a (b ++ after) ∧
      other (before ++ a) b after) i j ↔ ∃ k, Spans t one i k ∧ Spans t other k j := by
  constructor
  · rintro ⟨before, _, after, rfl, rfl, rfl, a, b, rfl, here, there⟩
    exact ⟨before.length + a.length, ⟨before, a, b ++ after, by simp, rfl, rfl, here⟩,
      ⟨before ++ a, b, after, by simp, by simp, by simp [Nat.add_assoc], there⟩⟩
  · rintro ⟨_, ⟨before, a, rest, split, rfl, rfl, here⟩, front, b, after, split', ends, rfl, there⟩
    -- Both parts split one text at one place, so what stands around them is the same.
    rw [split, ← List.append_assoc] at split'
    obtain ⟨rfl, rfl⟩ := List.append_inj split' (by simp [ends])
    exact ⟨before, a ++ b, after, by simp [split], rfl, by simp [Nat.add_assoc], a, b, rfl, here,
      there⟩

theorem spans_times {n i j : Nat} (inside : i < t.length + 1) :
    Spans t (Times one n) i j ↔ Walk (Spans t one) n i j := by
  induction n generalizing j with
  | zero => exact spans_nil inside
  | succ n ih =>
    rw [Walk]
    simp only [← ih]
    exact spans_append

theorem spans_congr (same : ∀ before part after, one before part after ↔ other before part after)
    {i j : Nat} : Spans t one i j ↔ Spans t other i j := by
  simp only [Spans, same]

theorem spans_or {i j : Nat} :
    Spans t (fun before part after => one before part after ∨ other before part after) i j ↔
      Spans t one i j ∨ Spans t other i j := by
  constructor
  · rintro ⟨before, part, after, split, starts, ends, here | there⟩
    · exact Or.inl ⟨before, part, after, split, starts, ends, here⟩
    · exact Or.inr ⟨before, part, after, split, starts, ends, there⟩
  · rintro (⟨before, part, after, split, starts, ends, here⟩ |
      ⟨before, part, after, split, starts, ends, there⟩)
    · exact ⟨before, part, after, split, starts, ends, Or.inl here⟩
    · exact ⟨before, part, after, split, starts, ends, Or.inr there⟩

/-- Parts of one kind or another are the parts of all kinds. -/
theorem spans_exists {kind : Nat → Prop} {of : Nat → Text → Text → Text → Prop} {i j : Nat} :
    Spans t (fun before part after => ∃ n, kind n ∧ of n before part after) i j ↔
      ∃ n, kind n ∧ Spans t (of n) i j := by
  constructor
  · rintro ⟨before, part, after, split, starts, ends, n, known, here⟩
    exact ⟨n, known, before, part, after, split, starts, ends, here⟩
  · rintro ⟨n, known, before, part, after, split, starts, ends, here⟩
    exact ⟨before, part, after, split, starts, ends, n, known, here⟩

/-- Marks are carried over a character that is as asked for. -/
theorem carries_step (t : Text) (asked : Char → Bool) :
    Carries t (Spans t fun _ part _ => ∃ c, part = [c] ∧ asked c = true) (step t asked) where
  length_eq sized := by simp [step, sized]
  has_iff {m} sized j := by
    constructor
    · intro marked
      cases j with
      | zero => cases marked
      | succ i =>
        simp only [step, Marks.Has, List.getElem?_cons_succ, List.getElem?_zipWith_eq_some,
          Bool.and_eq_true] at marked
        obtain ⟨mark, c, found, there, rfl, taken⟩ := marked
        obtain ⟨inside, rfl⟩ := List.getElem?_eq_some_iff.mp there
        have front : i = (t.take i).length := by
          rw [List.length_take]
          omega
        refine ⟨i, found, t.take i, [t[i]], t.drop (i + 1), ?_, front, ?_, _, rfl, taken⟩
        · rw [List.singleton_append, ← List.drop_eq_getElem_cons inside, List.take_append_drop]
        · rw [← front, List.length_singleton]
    · rintro ⟨_, marked, before, _, after, rfl, rfl, rfl, c, rfl, taken⟩
      unfold Marks.Has at marked
      simp [step, Marks.Has, List.getElem?_zipWith, marked, taken]

/-- The neighbours of the place between two parts of a text. -/
theorem getElem?_places (before after : Text) :
    (places (before ++ after))[before.length]? = some (before.getLast?, after.head?) := by
  have left : (none :: (before ++ after).map some)[before.length]? = some before.getLast? := by
    obtain rfl | ⟨front, c, rfl⟩ := List.eq_nil_or_concat before
    · rfl
    · simp
  have right : ((before ++ after).map some ++ [none])[before.length]? = some after.head? := by
    cases after <;> simp
  rw [places, List.zip, List.getElem?_zipWith, left, right]

/-- Marks stay where the neighbours are as asked for. -/
theorem carries_look (t : Text) (l : Look) :
    Carries t (Spans t fun before part after =>
        part = [] ∧ l.holds before.getLast? after.head? = true)
      (fun m => List.zipWith (fun mark (before, after) => mark && l.holds before after) m
        (places t)) where
  length_eq sized := by simp [places, sized]
  has_iff {m} sized j := by
    constructor
    · intro marked
      simp only [Marks.Has, List.getElem?_zipWith_eq_some, Bool.and_eq_true] at marked
      obtain ⟨mark, ⟨b, a⟩, found, there, rfl, holds⟩ := marked
      have inside : j < t.length + 1 := sized ▸ Marks.Has.lt_length found
      have front : j = (t.take j).length := by
        rw [List.length_take]
        omega
      have neighbours := getElem?_places (t.take j) (t.drop j)
      rw [List.take_append_drop, ← front, there] at neighbours
      cases neighbours
      exact ⟨j, found, t.take j, [], t.drop j, (List.take_append_drop j t).symm, front,
        front, rfl, holds⟩
    · rintro ⟨_, marked, before, _, after, rfl, rfl, rfl, rfl, holds⟩
      unfold Marks.Has at marked ⊢
      rw [List.length_nil, Nat.add_zero, List.nil_append, List.getElem?_zipWith, marked,
        getElem?_places]
      simp [holds]

/-- Marks are carried over a text character by character. -/
theorem carries_text (t cs : Text) :
    Carries t (Spans t fun _ part _ => part = cs)
      (fun m => cs.foldl (fun m c => step t (· == c) m) m) := by
  induction cs with
  | nil => exact Carries.refl.congr fun i j inside => (spans_nil inside).symm
  | cons c cs ih =>
    refine ((carries_step t (· == c)).comp ih).congr fun i j _ => ?_
    rw [← spans_append]
    refine spans_congr fun _ part _ => ?_
    constructor
    · rintro ⟨_, _, rfl, ⟨d, rfl, same⟩, rfl⟩
      rw [eq_of_beq same]
      rfl
    · rintro rfl
      exact ⟨[c], cs, rfl, ⟨c, rfl, beq_self_eq_true c⟩, rfl⟩

/-- Marks are carried along a number of matches. -/
theorem carries_repeated {f : Marks → Marks} (carries : Carries t (Spans t one) f) (low : Nat)
    (high : Option Nat) :
    Carries t (Spans t fun before part after =>
        ∃ n, (low ≤ n ∧ ∀ h ∈ high, n ≤ max low h) ∧ Times one n before part after)
      (fun m => spread f ((high.map (· - low)).getD (t.length + 1)) (power f low m)) := by
  -- The least number of matches comes first, and then as many more as are allowed.
  have more : Carries t
      (fun i j => ∃ k, (∀ h ∈ high, k ≤ h - low) ∧ Walk (Spans t one) k i j)
      (spread f ((high.map (· - low)).getD (t.length + 1))) := by
    cases high with
    | none => simpa using carries.saturate
    | some h => simpa using carries.spread (h - low)
  refine ((carries.power low).comp more).congr fun i j inside => ?_
  rw [spans_exists]
  simp only [spans_times inside]
  constructor
  · rintro ⟨k, front, n, few, back⟩
    refine ⟨low + n, ⟨Nat.le_add_right low n, fun h given => ?_⟩,
      walk_add_iff.mpr ⟨k, front, back⟩⟩
    have := few h given
    omega
  · rintro ⟨n, ⟨enough, few⟩, walk⟩
    obtain ⟨n, rfl⟩ := Nat.exists_eq_add_of_le enough
    obtain ⟨k, front, back⟩ := walk_add_iff.mp walk
    refine ⟨k, front, n, fun h given => ?_, back⟩
    have := few h given
    omega

/-- A search carries marks along the parts that an expression matches. -/
theorem carries_ends (t : Text) (e : Expr) : Carries t (Spans t e.Matches) (ends t e) := by
  induction e with
  | empty => exact Carries.refl.congr fun i j inside => (spans_nil inside).symm
  | text cs => exact carries_text t cs
  | set s ascii => exact carries_step t s.mem
  | look l => exact carries_look t l
  | repeated low high greedy e ih =>
    refine (carries_repeated ih low high).congr fun i j _ => spans_congr fun _ _ _ => ?_
    simp only [Expr.Matches, and_assoc]
  | group index e ih => exact ih
  | seq first rest ihFirst ihRest =>
    exact (ihFirst.comp ihRest).congr fun i j _ => spans_append.symm
  | alt first rest ihFirst ihRest =>
    exact (ihFirst.or ihRest).congr fun i j _ => spans_or.symm

theorem Expr.matches_optional {greedy : Bool} {e : Expr} {before part after : Text} :
    (Expr.repeated 0 (some 1) greedy e).Matches before part after ↔
      part = [] ∨ e.Matches before part after := by
  constructor
  · rintro ⟨n, -, few, times⟩
    have : n ≤ 1 := by simpa using few
    obtain rfl | rfl : n = 0 ∨ n = 1 := by omega
    · exact Or.inl times
    · obtain ⟨_, _, rfl, rfl, fits⟩ := times
      exact Or.inr (by simpa using fits)
  · rintro (rfl | fits)
    · exact ⟨0, Nat.le_refl 0, by simp, rfl⟩
    · exact ⟨1, Nat.zero_le 1, by simp, [], part, rfl, rfl, by simpa using fits⟩

/-- A search finds an expression where it matches a part of the text, and only there. -/
theorem Expr.occursIn_iff (e : Expr) (t : Text) :
    e.occursIn t = true ↔
      ∃ before part after, t = before ++ (part ++ after) ∧ e.Matches before part after := by
  let everywhere : Marks := List.replicate (t.length + 1) true
  have sized : everywhere.length = t.length + 1 := List.length_replicate
  have found := (carries_ends t e).has_iff sized
  rw [Expr.occursIn, List.contains_iff_mem]
  constructor
  · intro member
    obtain ⟨j, marked⟩ := List.mem_iff_getElem?.mp member
    obtain ⟨i, -, before, part, after, split, -, -, fits⟩ := (found j).mp marked
    exact ⟨before, part, after, split, fits⟩
  · rintro ⟨before, part, after, split, fits⟩
    have inside : before.length < t.length + 1 := by
      rw [split, List.length_append]
      omega
    have marked : everywhere.Has before.length := by
      simp [everywhere, Marks.Has, inside]
    have ends := (found _).mpr ⟨_, marked, before, part, after, split, rfl, rfl, fits⟩
    exact List.mem_iff_getElem?.mpr ⟨_, ends⟩

end LiveMarkup.Pattern
