import LiveMarkup.Text
import Mathlib.Data.List.Nodup

/-!
Lists of those who are told, as they come of what was done to them. Whoever enters gets the next
number, and keeps it until a task lets go of that number or of all who are gone.

* `Upkeep`: what a task does to the list that is kept at a place;
* `staying`, `staying_succ`: who is left of those who have entered, moment by moment;
* `eq_staying`: a list that is kept this way holds just those.
-/

namespace LiveMarkup.Display

/-- Someone enters the list at a place, someone leaves it by number, or it lets go of all who are
gone. -/
inductive Upkeep (κ α : Type) where
  | enter (place : κ) (who : α)
  | leave (place : κ) (id : Nat)
  | prune (place : κ)
  deriving DecidableEq, Repr

namespace Upkeep

variable {κ α : Type}

/-- Where something is done. -/
def place : Upkeep κ α → κ
  | .enter p _ | .leave p _ | .prune p => p

/-- Who enters a list, with its place. -/
def entry? : Option (Upkeep κ α) → Option (κ × α)
  | some (.enter place who) => some (place, who)
  | _ => none

/-- Who enters the list at a place. -/
def entrant? [DecidableEq κ] (place : κ) : Option (Upkeep κ α) → Option α
  | some (.enter p who) => if p = place then some who else none
  | _ => none

/-- Whether the list at a place lets go of someone, who is there under a number. -/
def dismisses [BEq κ] (live : α → Bool) (place : κ) (id : Nat) (who : α) :
    Option (Upkeep κ α) → Bool
  | some (.leave p i) => place == p && id == i
  | some (.prune p) => place == p && !live who
  | _ => false

/-- What is done elsewhere dismisses nobody. -/
theorem dismisses_of_ne [BEq κ] [LawfulBEq κ] {live : α → Bool} {place : κ} {id : Nat} {who : α}
    {u : Upkeep κ α} (elsewhere : u.place ≠ place) :
    dismisses live place id who (some u) = false := by
  cases u with
  | enter => rfl
  | leave p | prune p =>
    have apart : (place == p) = false := beq_eq_false_iff_ne.mpr elsewhere.symm
    rw [dismisses, apart, Bool.false_and]

end Upkeep

variable {α : Type} {enters : Nat → Option α} {leaves : Nat → Nat → α → Bool} {i : Nat}

/-- Those who have entered before a moment, in order, each with the moment. -/
def entered (enters : Nat → Option α) (i : Nat) : List (Nat × α) :=
  (List.range i).filterMap fun l => (enters l).map (l, ·)

/-- No moment after `l` and before `i` lets go of someone, who is there under a number. -/
def Stays (leaves : Nat → Nat → α → Bool) (i l id : Nat) (who : α) : Prop :=
  ∀ j < i, l < j → leaves j id who = false

instance (i l id : Nat) (who : α) : Decidable (Stays leaves i l id who) :=
  inferInstanceAs (Decidable (∀ j < i, l < j → leaves j id who = false))

/-- Those who have entered before a moment and are still there, each with the number that tells how
many had entered before. -/
def staying (enters : Nat → Option α) (leaves : Nat → Nat → α → Bool) (i : Nat) :
    List (Nat × α) :=
  ((entered enters i).zipIdx.filter fun ((l, who), id) => Stays leaves i l id who).map
    fun ((_, who), id) => (id, who)

theorem Stays.last (i id : Nat) (who : α) : Stays leaves (i + 1) i id who :=
  fun j upto after => absurd upto (by omega)

theorem stays_succ {l id : Nat} {who : α} (before : l < i) :
    Stays leaves (i + 1) l id who ↔ leaves i id who = false ∧ Stays leaves i l id who := by
  constructor
  · intro stays
    exact ⟨stays i (Nat.lt_succ_self i) before, fun j upto => stays j (Nat.lt_succ_of_lt upto)⟩
  · rintro ⟨last, stays⟩ j upto after
    obtain earlier | rfl := Nat.lt_succ_iff_lt_or_eq.mp upto
    · exact stays j earlier after
    · exact last

theorem entered_succ (enters : Nat → Option α) (i : Nat) :
    entered enters (i + 1) = entered enters i ++ (enters i).toList.map (i, ·) := by
  unfold entered
  rw [List.range_succ, List.filterMap_append]
  cases h : enters i <;> simp [h]

theorem lt_of_mem_entered {l : Nat} {a : α} (member : (l, a) ∈ entered enters i) : l < i := by
  obtain ⟨l', within, found⟩ := List.mem_filterMap.mp member
  obtain ⟨a', -, same⟩ := Option.map_eq_some_iff.mp found
  cases same
  exact List.mem_range.mp within

/-- A moment lets go of some who are there, and lets one more in. -/
theorem staying_succ (enters : Nat → Option α) (leaves : Nat → Nat → α → Bool) (i : Nat) :
    staying enters leaves (i + 1) =
      (staying enters leaves i).filter (fun e => !leaves i e.1 e.2) ++
        (enters i).toList.map ((entered enters i).length, ·) := by
  unfold staying
  rw [entered_succ, List.zipIdx_append, List.filter_append, List.map_append, List.filter_map,
    List.filter_filter]
  congr 1
  · refine congrArg (List.map _) (List.filter_congr ?_)
    rintro ⟨⟨l, who⟩, id⟩ member
    have before : l < i := lt_of_mem_entered (List.fst_mem_of_mem_zipIdx member)
    have split :
        Stays leaves (i + 1) l id who ↔ leaves i id who = false ∧ Stays leaves i l id who :=
      stays_succ before
    simp only [split, Bool.decide_and, Function.comp_apply, Bool.decide_eq_false]
  · cases enters i with
    | none => rfl
    | some who =>
      have stays : Stays leaves (i + 1) i (entered enters i).length who := .last i _ who
      have one : (Option.some who).toList.map (i, ·) = [(i, who)] := rfl
      rw [one, List.zipIdx_singleton, Nat.zero_add, List.filter_cons_of_pos (by simpa using stays)]
      rfl

/-- A list that lets go of those whom a moment dismisses and lets in who enters, with a number that
counts them, holds those who stay. -/
theorem eq_staying {list : Nat → List (Nat × α)} {next : Nat → Nat} (empty : list 0 = [])
    (zero : next 0 = 0)
    (kept : ∀ j < i, list (j + 1) = (list j).filter (fun e => !leaves j e.1 e.2) ++
      (enters j).toList.map (next j, ·))
    (counted : ∀ j < i, next (j + 1) = next j + (enters j).toList.length) :
    list i = staying enters leaves i ∧ next i = (entered enters i).length := by
  induction i with
  | zero => exact ⟨empty, zero⟩
  | succ i ih =>
    obtain ⟨same, count⟩ := ih (fun j upto => kept j (Nat.lt_succ_of_lt upto))
      (fun j upto => counted j (Nat.lt_succ_of_lt upto))
    have last := Nat.lt_succ_self i
    refine ⟨?_, ?_⟩
    · rw [kept i last, same, count, staying_succ]
    · rw [counted i last, count, entered_succ, List.length_append, List.length_map]

theorem mem_staying {id : Nat} {a : α} :
    (id, a) ∈ staying enters leaves i ↔
      ∃ l, (entered enters i)[id]? = some (l, a) ∧ Stays leaves i l id a := by
  simp only [staying, List.mem_map, List.mem_filter, decide_eq_true_eq]
  constructor
  · rintro ⟨⟨⟨l, a'⟩, id'⟩, ⟨member, stays⟩, same⟩
    cases same
    exact ⟨l, List.mk_mem_zipIdx_iff_getElem?.mp member, stays⟩
  · rintro ⟨l, found, stays⟩
    exact ⟨((l, a), id), ⟨List.mk_mem_zipIdx_iff_getElem?.mpr found, stays⟩, rfl⟩

/-- Numbers tell how many had entered before, so none is given again. -/
theorem lt_of_mem_staying {e : Nat × α} (member : e ∈ staying enters leaves i) :
    e.1 < (entered enters i).length := by
  obtain ⟨l, found, -⟩ := mem_staying.mp member
  exact (List.getElem?_eq_some_iff.mp found).1

theorem pairwise_staying (enters : Nat → Option α) (leaves : Nat → Nat → α → Bool) (i : Nat) :
    (staying enters leaves i).Pairwise (·.1 < ·.1) := by
  have numbers : (entered enters i).zipIdx.Pairwise (·.2 < ·.2) := by
    rw [← List.pairwise_map (f := Prod.snd) (R := (· < ·)), List.zipIdx_map_snd]
    exact List.pairwise_lt_range'
  exact List.pairwise_map.mpr (numbers.filter _)

/-- In a list with rising numbers a number stands for one element alone. -/
theorem filter_eq_erase {number : α → Nat} [DecidableEq α] {list : List α}
    (numbered : list.Pairwise (number · < number ·)) {a : α} (member : a ∈ list) :
    list.filter (number · != number a) = list.erase a := by
  have distinct : (list.map number).Nodup :=
    List.pairwise_map.mpr (numbered.imp fun less => Nat.ne_of_lt less)
  rw [distinct.of_map.erase_eq_filter]
  refine List.filter_congr fun b there => ?_
  rw [Bool.eq_iff_iff, bne_iff_ne, bne_iff_ne]
  exact not_congr ⟨fun same => List.inj_on_of_nodup_map distinct there member same,
    fun same => by rw [same]⟩

/-- A number that nobody in a list has takes nobody away. -/
theorem any_filter_of_absent {number : α → Nat} {list : List α} {id : Nat}
    (absent : ∀ a ∈ list, number a ≠ id) :
    list.any (number · == id) = false ∧ list.filter (number · != id) = list := by
  constructor
  · rw [List.any_eq_false]
    exact fun a there same => absent a there (beq_iff_eq.mp same)
  · rw [List.filter_eq_self]
    exact fun a there => bne_iff_ne.mpr (absent a there)

end LiveMarkup.Display
