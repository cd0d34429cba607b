import LiveMarkup.Text

/-!
Sets of characters. A set lists in ascending order the code points where membership changes. So a
set is known by its members alone, and every operation on sets is one walk over two lists.
-/

namespace LiveMarkup

/-- The code points where membership changes, in ascending order. -/
structure CharSet where
  bounds : List Nat
  deriving DecidableEq, Repr

namespace CharSet

/-- Whether a code point is a member, when those before the first bound are as `inside` says. -/
def memFrom (inside : Bool) : List Nat → Nat → Bool
  | [], _ => inside
  | b :: bs, n => if n < b then inside else memFrom (! inside) bs n

def mem (s : CharSet) (c : Char) : Bool :=
  memFrom false s.bounds c.toNat

def empty : CharSet :=
  ⟨[]⟩

/-- All characters: the code points apart from the surrogates. -/
def all : CharSet :=
  ⟨[0, 0xD800, 0xE000, 0x110000]⟩

/-- The nearest bound of two lists. -/
def nearest? : List Nat → List Nat → Option Nat
  | [], [] => none
  | a :: _, [] => some a
  | [], b :: _ => some b
  | a :: _, b :: _ => some (min a b)

/-- What lies behind a place: membership there, and the bounds that follow. -/
def behind (n : Nat) (inside : Bool) : List Nat → Bool × List Nat
  | [] => (inside, [])
  | b :: bs => if b = n then (! inside, bs) else (inside, b :: bs)

/-- The bounds of a set whose members follow from membership in two others by a rule. The flags
tell of membership in the two and in the result at the place that the walk has reached. -/
def walk (rule : Bool → Bool → Bool) :
    Nat → Bool → List Nat → Bool → List Nat → Bool → List Nat
  | 0, _, _, _, _, _ => []
  | fuel + 1, x, xs, y, ys, inside =>
    match nearest? xs ys with
    | none => []
    | some n =>
      let (x, xs) := behind n x xs
      let (y, ys) := behind n y ys
      if rule x y = inside then walk rule fuel x xs y ys inside
      else n :: walk rule fuel x xs y ys (rule x y)

/-- The set whose members follow from membership in two sets by a rule. Every step of the walk
passes a bound, so the bounds of both are enough steps. -/
def combine (rule : Bool → Bool → Bool) (s t : CharSet) : CharSet :=
  ⟨walk rule (s.bounds.length + t.bounds.length) false s.bounds false t.bounds false⟩

instance : Union CharSet := ⟨combine or⟩

instance : Inter CharSet := ⟨combine and⟩

instance : SDiff CharSet := ⟨combine fun x y => x && ! y⟩

def symmDiff (s t : CharSet) : CharSet :=
  combine xor s t

def compl (s : CharSet) : CharSet :=
  all \ s

/-- The bounds of runs that ascend and do not overlap; each goes from its first code point to the
one past its last. Runs that touch become one. -/
def boundsOfRuns : List (Nat × Nat) → List Nat
  | [] => []
  | (first, past) :: rest =>
    match boundsOfRuns rest with
    | b :: bs => if b = past then first :: bs else first :: past :: b :: bs
    | [] => [first, past]

def ofRuns (runs : List (Nat × Nat)) : CharSet :=
  ⟨boundsOfRuns runs⟩

/-- From the first code point to the last. -/
def range (first last : Nat) : CharSet :=
  ⟨[first, last + 1]⟩ ∩ all

def ofList (ns : List Nat) : CharSet :=
  ns.foldr (fun n s => ⟨[n, n + 1]⟩ ∪ s) empty

/-- The runs between bounds, each from its first code point to its last. -/
def runsOfBounds : List Nat → List (Nat × Nat)
  | first :: past :: bounds => (first, past - 1) :: runsOfBounds bounds
  | _ => []

/-- The runs of members, each from its first code point to its last. -/
def runs (s : CharSet) : List (Nat × Nat) :=
  runsOfBounds s.bounds

/-- Whether all members are ASCII. -/
def isAscii (s : CharSet) : Bool :=
  s.bounds.all (· ≤ 0x80)

/-- The one member of a set that has no other. -/
def only? (s : CharSet) : Option Char :=
  match s.bounds with
  | [first, past] => if past = first + 1 then some (Char.ofNat first) else none
  | _ => none

/-! ### Members of combined sets -/

@[simp] theorem mem_empty (c : Char) : empty.mem c = false :=
  rfl

theorem memFrom_of_lt {inside : Bool} {bounds : List Nat} {n : Nat}
    (h : ∀ b ∈ bounds, n < b) : memFrom inside bounds n = inside := by
  cases bounds with
  | nil => rfl
  | cons b bs => simp [memFrom, h b (by simp)]

theorem memFrom_behind {n m : Nat} {x : Bool} {xs : List Nat} (h : ∀ b ∈ xs, m ≤ b)
    (hn : m ≤ n) : memFrom (behind m x xs).1 (behind m x xs).2 n = memFrom x xs n := by
  cases xs with
  | nil => rfl
  | cons b bs => grind [behind, memFrom]

theorem lt_of_mem_behind {m b : Nat} {x : Bool} {xs : List Nat} (ascending : xs.Pairwise (· < ·))
    (h : ∀ b ∈ xs, m ≤ b) (hb : b ∈ (behind m x xs).2) : m < b := by
  cases xs with
  | nil => simp [behind] at hb
  | cons a as =>
    rw [List.pairwise_cons] at ascending
    have := h a (by simp)
    grind [behind]

theorem pairwise_behind {m : Nat} {x : Bool} {xs : List Nat} (ascending : xs.Pairwise (· < ·)) :
    (behind m x xs).2.Pairwise (· < ·) := by
  cases xs with
  | nil => exact ascending
  | cons a as => grind [behind, List.pairwise_cons]

theorem le_of_nearest? {m : Nat} {xs ys : List Nat} (hxs : xs.Pairwise (· < ·))
    (hys : ys.Pairwise (· < ·)) (h : nearest? xs ys = some m) :
    (∀ b ∈ xs, m ≤ b) ∧ (∀ b ∈ ys, m ≤ b) := by
  cases xs <;> cases ys <;> grind [nearest?, List.pairwise_cons]

theorem length_behind {m : Nat} {x y : Bool} {xs ys : List Nat} (h : nearest? xs ys = some m) :
    (behind m x xs).2.length + (behind m y ys).2.length < xs.length + ys.length := by
  cases xs <;> cases ys <;> grind [nearest?, behind]

/-- A walk over ascending bounds reaches every place with the membership that the rule asks for. -/
theorem memFrom_walk {rule : Bool → Bool → Bool} {fuel : Nat} {x y : Bool} {xs ys : List Nat}
    (hxs : xs.Pairwise (· < ·)) (hys : ys.Pairwise (· < ·))
    (hfuel : xs.length + ys.length ≤ fuel) (n : Nat) :
    memFrom (rule x y) (walk rule fuel x xs y ys (rule x y)) n =
      rule (memFrom x xs n) (memFrom y ys n) := by
  induction fuel generalizing x y xs ys with
  | zero =>
    obtain ⟨rfl, rfl⟩ : xs = [] ∧ ys = [] := by
      constructor <;> apply List.eq_nil_of_length_eq_zero <;> omega
    rfl
  | succ fuel ih =>
    rw [walk]
    cases hm : nearest? xs ys with
    | none => cases xs <;> cases ys <;> simp_all [nearest?, memFrom]
    | some m =>
      obtain ⟨hx, hy⟩ := le_of_nearest? hxs hys hm
      have shorter := length_behind (x := x) (y := y) hm
      have next := ih (x := (behind m x xs).1) (y := (behind m y ys).1)
        (pairwise_behind (m := m) (x := x) hxs) (pairwise_behind (m := m) (x := y) hys) (by omega)
      dsimp only
      by_cases hn : n < m
      · rw [memFrom_of_lt fun b hb => Nat.lt_of_lt_of_le hn (hx b hb),
          memFrom_of_lt fun b hb => Nat.lt_of_lt_of_le hn (hy b hb)]
        rw [memFrom_of_lt fun b hb => Nat.lt_trans hn (lt_of_mem_behind hxs hx hb),
          memFrom_of_lt fun b hb => Nat.lt_trans hn (lt_of_mem_behind hys hy hb)] at next
        split
        · rename_i same
          rwa [same] at next
        · simp [memFrom, hn]
      · rw [memFrom_behind hx (by omega), memFrom_behind hy (by omega)] at next
        split
        · rename_i same
          rwa [same] at next
        · rename_i turned
          rw [memFrom, if_neg hn, ← next, Bool.not_eq.2 (Ne.symm turned)]

/-- A combined set has the members that the rule asks for, when it asks for none outside of both. -/
theorem mem_combine {rule : Bool → Bool → Bool} {s t : CharSet} (outside : rule false false = false)
    (hs : s.bounds.Pairwise (· < ·)) (ht : t.bounds.Pairwise (· < ·)) (c : Char) :
    (combine rule s t).mem c = rule (s.mem c) (t.mem c) := by
  have := @memFrom_walk rule _ false false _ _ hs ht (Nat.le_refl _) c.toNat
  rwa [outside] at this

/-- Membership goes by the runs between bounds. -/
theorem memFrom_cons_cons {first past : Nat} {bounds : List Nat}
    (ascending : (first :: past :: bounds).Pairwise (· < ·)) (n : Nat) :
    memFrom false (first :: past :: bounds) n =
      (decide (first ≤ n) && decide (n < past) || memFrom false bounds n) := by
  simp only [List.pairwise_cons, List.mem_cons, forall_eq_or_imp] at ascending
  obtain ⟨⟨order, -⟩, beyond, -⟩ := ascending
  by_cases low : n < first
  · have outside : memFrom false bounds n = false :=
      memFrom_of_lt fun b hb => Nat.lt_trans (Nat.lt_trans low order) (beyond b hb)
    have below : ¬ first ≤ n := Nat.not_le.mpr low
    simp [memFrom, low, outside, below]
  · have above : first ≤ n := Nat.le_of_not_lt low
    by_cases inside : n < past
    · simp [memFrom, low, inside, above]
    · simp [memFrom, low, inside]

theorem mem_of_mem_behind {m b : Nat} {x : Bool} {xs : List Nat} (hb : b ∈ (behind m x xs).2) :
    b ∈ xs := by
  cases xs with
  | nil => exact hb
  | cons a as => grind [behind]

theorem mem_of_mem_walk {rule : Bool → Bool → Bool} {fuel : Nat} {x y inside : Bool}
    {xs ys : List Nat} {b : Nat} (hb : b ∈ walk rule fuel x xs y ys inside) : b ∈ xs ∨ b ∈ ys := by
  induction fuel generalizing x y xs ys inside with
  | zero => cases hb
  | succ fuel ih =>
    rw [walk] at hb
    cases hm : nearest? xs ys with
    | none =>
      rw [hm] at hb
      cases hb
    | some m =>
      rw [hm] at hb
      dsimp only at hb
      have later (next : b ∈ (behind m x xs).2 ∨ b ∈ (behind m y ys).2) : b ∈ xs ∨ b ∈ ys :=
        next.imp mem_of_mem_behind mem_of_mem_behind
      split at hb
      · exact later (ih hb)
      · rcases List.mem_cons.mp hb with rfl | hb
        · cases xs <;> cases ys <;> grind [nearest?]
        · exact later (ih hb)

/-- A walk over ascending bounds meets bounds that ascend. -/
theorem pairwise_walk {rule : Bool → Bool → Bool} {fuel : Nat} {x y inside : Bool}
    {xs ys : List Nat} (hxs : xs.Pairwise (· < ·)) (hys : ys.Pairwise (· < ·)) :
    (walk rule fuel x xs y ys inside).Pairwise (· < ·) := by
  induction fuel generalizing x y xs ys inside with
  | zero => exact .nil
  | succ fuel ih =>
    rw [walk]
    cases hm : nearest? xs ys with
    | none => exact .nil
    | some m =>
      obtain ⟨hx, hy⟩ := le_of_nearest? hxs hys hm
      dsimp only
      split
      · exact ih (pairwise_behind hxs) (pairwise_behind hys)
      · refine .cons (fun b hb => ?_) (ih (pairwise_behind hxs) (pairwise_behind hys))
        exact (mem_of_mem_walk hb).elim (lt_of_mem_behind hxs hx) (lt_of_mem_behind hys hy)

theorem pairwise_ofList (ns : List Nat) : (ofList ns).bounds.Pairwise (· < ·) := by
  induction ns with
  | nil => exact .nil
  | cons n ns ih => exact pairwise_walk (by simp) ih

theorem mem_ofList {ns : List Nat} {c : Char} : (ofList ns).mem c = true ↔ c.toNat ∈ ns := by
  induction ns with
  | nil => simp [ofList]
  | cons n ns ih =>
    have single : (⟨[n, n + 1]⟩ : CharSet).mem c = true ↔ c.toNat = n := by
      grind [mem, memFrom]
    have member : (ofList (n :: ns)).mem c =
        ((⟨[n, n + 1]⟩ : CharSet).mem c || (ofList ns).mem c) :=
      mem_combine rfl (by simp) (pairwise_ofList ns) c
    rw [member, Bool.or_eq_true, single, ih, List.mem_cons]

end CharSet
end LiveMarkup
