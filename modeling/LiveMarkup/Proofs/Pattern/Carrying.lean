import LiveMarkup.Pattern.Marks

/-!
Marks that are carried along a relation between the places of a text, once and again.

* `Carries`: what a way to move marks does to every place;
* `Carries.comp`, `Carries.or`: ways one behind the other and side by side;
* `Carries.power`, `Carries.spread`: a number of steps, and at most a number of steps;
* `Carries.saturate`: as many steps as there are places reach all that can be reached.
-/

namespace LiveMarkup.Pattern

/-- Whether a place is marked. -/
def Marks.Has (m : Marks) (place : Nat) : Prop :=
  m[place]? = some true

/-- A number of steps from one place to another. -/
def Walk (r : Nat → Nat → Prop) : Nat → Nat → Nat → Prop
  | 0, i, j => i = j
  | n + 1, i, j => ∃ k, Walk r n i k ∧ r k j

/-- Carries the marks of a text from places to the places that they are related to. -/
structure Carries (t : Text) (r : Nat → Nat → Prop) (f : Marks → Marks) : Prop where
  length_eq : ∀ {m : Marks}, m.length = t.length + 1 → (f m).length = t.length + 1
  has_iff : ∀ {m : Marks}, m.length = t.length + 1 →
    ∀ j, (f m).Has j ↔ ∃ i, m.Has i ∧ r i j

variable {t : Text} {r r' : Nat → Nat → Prop} {f g : Marks → Marks}

theorem walk_add_iff {m n i j : Nat} :
    Walk r (m + n) i j ↔ ∃ k, Walk r m i k ∧ Walk r n k j := by
  induction n generalizing j with
  | zero => simp [Walk]
  | succ n ih =>
    rw [← Nat.add_assoc]
    constructor
    · rintro ⟨k, walk, last⟩
      obtain ⟨middle, front, back⟩ := ih.mp walk
      exact ⟨middle, front, k, back, last⟩
    · rintro ⟨middle, front, k, back, last⟩
      exact ⟨k, ih.mpr ⟨middle, front, back⟩, last⟩

theorem walk_succ_iff {n i j : Nat} : Walk r (n + 1) i j ↔ ∃ k, r i k ∧ Walk r n k j := by
  rw [Nat.add_comm, walk_add_iff]
  simp [Walk]

theorem Marks.Has.lt_length {m : Marks} {i : Nat} (marked : m.Has i) : i < m.length :=
  (List.getElem?_eq_some_iff.mp marked).1

theorem has_both {a b : Marks} (same : a.length = b.length) (i : Nat) :
    (both a b).Has i ↔ a.Has i ∨ b.Has i := by
  unfold Marks.Has both
  rw [List.getElem?_zipWith]
  by_cases inside : i < a.length
  · rw [List.getElem?_eq_getElem inside, List.getElem?_eq_getElem (same ▸ inside)]
    simp
  · rw [List.getElem?_eq_none (by omega), List.getElem?_eq_none (by omega)]
    simp

theorem length_both {a b : Marks} (same : a.length = b.length) :
    (both a b).length = a.length := by
  simp [both, same]

/-- Marks that add something leave fewer places unmarked. -/
theorem count_both_lt {a b : Marks} (same : a.length = b.length) (wider : both a b ≠ a) :
    (both a b).count false < a.count false := by
  induction a generalizing b with
  | nil => exact absurd rfl wider
  | cons x a ih =>
    obtain _ | ⟨y, b⟩ := b
    · cases same
    have le : (both a b).count false ≤ a.count false := by
      by_cases still : both a b = a
      · exact Nat.le_of_eq (congrArg (List.count false) still)
      · exact Nat.le_of_lt (ih (by simpa using same) still)
    have split : both (x :: a) (y :: b) = (x || y) :: both a b := rfl
    rw [split] at wider ⊢
    cases x <;> cases y
    -- Only here is the first place what was added; in all other cases it is among the rest.
    case false.true => simpa using Nat.lt_succ_of_le le
    all_goals
      have rest : both a b ≠ a := by
        rintro still
        exact wider (by simp [still])
      simpa using ih (by simpa using same) rest

namespace Carries

theorem refl : Carries t Eq id :=
  ⟨id, fun _ j => by simp⟩

theorem comp (first : Carries t r f) (next : Carries t r' g) :
    Carries t (fun i j => ∃ k, r i k ∧ r' k j) (fun m => g (f m)) where
  length_eq sized := next.length_eq (first.length_eq sized)
  has_iff sized j := by
    rw [next.has_iff (first.length_eq sized)]
    simp only [first.has_iff sized]
    constructor
    · rintro ⟨k, ⟨i, marked, here⟩, there⟩
      exact ⟨i, marked, k, here, there⟩
    · rintro ⟨i, marked, k, here, there⟩
      exact ⟨k, ⟨i, marked, here⟩, there⟩

theorem or (one : Carries t r f) (other : Carries t r' g) :
    Carries t (fun i j => r i j ∨ r' i j) (fun m => both (f m) (g m)) where
  length_eq sized := by
    rw [length_both ((one.length_eq sized).trans (other.length_eq sized).symm)]
    exact one.length_eq sized
  has_iff sized j := by
    rw [has_both ((one.length_eq sized).trans (other.length_eq sized).symm), one.has_iff sized,
      other.has_iff sized, ← exists_or]
    simp only [and_or_left]

theorem congr (carries : Carries t r f)
    (same : ∀ i j, i < t.length + 1 → (r i j ↔ r' i j)) : Carries t r' f where
  length_eq sized := carries.length_eq sized
  has_iff {m} sized j := by
    rw [carries.has_iff sized]
    refine exists_congr fun i => and_congr_right fun marked => same i j ?_
    exact sized ▸ marked.lt_length

theorem power (carries : Carries t r f) (n : Nat) : Carries t (Walk r n) (power f n) := by
  have repeats : Carries t (Walk r n) (n.repeat f) := by
    induction n with
    | zero => exact refl
    | succ n ih => exact ih.comp carries
  have same : Pattern.power f n = n.repeat f := funext (power_eq_repeat f n)
  rwa [same]

/-- What is marked after one step more. -/
theorem has_wider (carries : Carries t r f) {m : Marks} (sized : m.length = t.length + 1)
    (i : Nat) : (both m (f m)).Has i ↔ m.Has i ∨ ∃ k, m.Has k ∧ r k i := by
  rw [has_both (sized.trans (carries.length_eq sized).symm), carries.has_iff sized]

/-- Marks that carrying adds nothing to have all that any number of steps leads to. -/
theorem has_of_walk (carries : Carries t r f) {m : Marks} (sized : m.length = t.length + 1)
    (still : both m (f m) = m) {n i j : Nat} (marked : m.Has i) (walk : Walk r n i j) :
    m.Has j := by
  induction n generalizing j with
  | zero =>
    cases walk
    exact marked
  | succ n ih =>
    obtain ⟨k, walk, last⟩ := walk
    rw [← still, carries.has_wider sized]
    exact Or.inr ⟨k, ih walk, last⟩

theorem length_spread (carries : Carries t r f) (n : Nat) {m : Marks}
    (sized : m.length = t.length + 1) : (Pattern.spread f n m).length = t.length + 1 := by
  induction n generalizing m with
  | zero => exact sized
  | succ n ih =>
    have same := sized.trans (carries.length_eq sized).symm
    rw [Pattern.spread]
    split
    · exact sized
    · exact ih ((length_both same).trans sized)

/-- Marks spread by at most a number of steps. -/
theorem spread (carries : Carries t r f) (n : Nat) :
    Carries t (fun i j => ∃ k ≤ n, Walk r k i j) (Pattern.spread f n) where
  length_eq sized := carries.length_spread n sized
  has_iff {m} sized j := by
    induction n generalizing m with
    | zero => simp [Pattern.spread, Walk]
    | succ n ih =>
      rw [Pattern.spread]
      split
      · rename_i still
        constructor
        · intro marked
          exact ⟨j, marked, 0, Nat.zero_le _, rfl⟩
        · rintro ⟨i, marked, k, -, walk⟩
          exact carries.has_of_walk sized still marked walk
      · have same := sized.trans (carries.length_eq sized).symm
        rw [ih ((length_both same).trans sized)]
        simp only [carries.has_wider sized]
        constructor
        · rintro ⟨i, marked | ⟨i', marked, first⟩, k, few, walk⟩
          · exact ⟨i, marked, k, by omega, walk⟩
          · exact ⟨i', marked, k + 1, by omega, walk_succ_iff.mpr ⟨i, first, walk⟩⟩
        · rintro ⟨i, marked, k, few, walk⟩
          by_cases fewer : k ≤ n
          · exact ⟨i, Or.inl marked, k, fewer, walk⟩
          · obtain rfl : k = n + 1 := by omega
            obtain ⟨i', first, walk⟩ := walk_succ_iff.mp walk
            exact ⟨i', Or.inr ⟨i, marked, first⟩, n, Nat.le_refl n, walk⟩

/-- Where enough steps are granted, marks spread as far as any number of steps leads. -/
theorem has_spread_of_walk (carries : Carries t r f) {n : Nat} {m : Marks}
    (sized : m.length = t.length + 1) (enough : m.count false ≤ n) {i j k : Nat}
    (marked : m.Has i) (walk : Walk r k i j) (inside : j < t.length + 1) :
    (Pattern.spread f n m).Has j := by
  have same := sized.trans (carries.length_eq sized).symm
  induction n generalizing m i k with
  | zero =>
    have all : ∀ mark ∈ m, mark = true := by
      intro mark member
      have none := List.count_eq_zero.mp (Nat.le_zero.mp enough)
      cases mark with
      | false => exact absurd member none
      | true => rfl
    rw [← sized] at inside
    exact List.getElem?_eq_some_iff.mpr ⟨inside, all _ (List.getElem_mem inside)⟩
  | succ n ih =>
    rw [Pattern.spread]
    split
    · rename_i still
      exact carries.has_of_walk sized still marked walk
    · rename_i wider
      -- A step that adds something uses up one unmarked place, so the granted steps last.
      have fewer := count_both_lt same wider
      have sized' := (length_both same).trans sized
      have kept := (carries.has_wider sized i).mpr (Or.inl marked)
      exact ih sized' (by omega) kept walk (sized'.trans (carries.length_eq sized').symm)

theorem lt_of_related (carries : Carries t r f) {i j : Nat} (inside : i < t.length + 1)
    (related : r i j) : j < t.length + 1 := by
  have all : (List.replicate (t.length + 1) true).length = t.length + 1 := List.length_replicate
  have marked : Marks.Has (List.replicate (t.length + 1) true) i := by
    simp [Marks.Has, inside]
  rw [← carries.length_eq all]
  exact ((carries.has_iff all j).mpr ⟨i, marked, related⟩).lt_length

/-- As many steps as there are places reach all that any number of steps leads to. -/
theorem saturate (carries : Carries t r f) :
    Carries t (fun i j => ∃ k, Walk r k i j) (Pattern.spread f (t.length + 1)) where
  length_eq sized := carries.length_spread _ sized
  has_iff {m} sized j := by
    constructor
    · intro marked
      obtain ⟨i, marked, k, -, walk⟩ := ((carries.spread _).has_iff sized j).mp marked
      exact ⟨i, marked, k, walk⟩
    · rintro ⟨i, marked, k, walk⟩
      have enough : m.count false ≤ t.length + 1 := sized ▸ List.count_le_length
      have starts : i < t.length + 1 := sized ▸ marked.lt_length
      exact carries.has_spread_of_walk sized enough marked walk
        ((carries.power k).lt_of_related starts walk)

end Carries

end LiveMarkup.Pattern
