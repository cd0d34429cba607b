import LiveMarkup.Text

/-!
Names for things, each name for one thing at a time.
-/

namespace LiveMarkup

structure Naming (α : Type) where
  entries : List (Text × α) := []
  deriving Repr

namespace Naming

variable {α : Type}

/-- What a name stands for. -/
def get? (names : Naming α) (name : Text) : Option α :=
  (names.entries.find? (·.1 == name)).map (·.2)

def has (names : Naming α) (name : Text) : Bool :=
  names.entries.any (·.1 == name)

def forget (name : Text) (names : Naming α) : Naming α :=
  ⟨names.entries.filter (·.1 != name)⟩

/-- Gives a name to something, and takes it from what had it. -/
def give (name : Text) (a : α) (names : Naming α) : Naming α :=
  ⟨(name, a) :: (names.forget name).entries⟩

/-- All that has a name. -/
def values (names : Naming α) : List α :=
  names.entries.map (·.2)

theorem get?_forget (names : Naming α) (name other : Text) :
    (names.forget name).get? other = if other = name then none else names.get? other := by
  simp only [get?, forget, List.find?_filter]
  split
  · rename_i h
    simp [h]
  · rename_i h
    have same (e : Text × α) :
        decide ((e.1 != name) = true ∧ (e.1 == other) = true) = (e.1 == other) := by
      by_cases he : e.1 = other <;> simp_all
    simp only [same]

theorem get?_give (names : Naming α) (name other : Text) (a : α) :
    (names.give name a).get? other = if other = name then some a else names.get? other := by
  by_cases h : other = name
  · simp [give, get?, h]
  · have hn : ¬ name = other := fun e => h e.symm
    have := get?_forget names name other
    simp only [get?, h, if_false] at this
    simp [give, get?, h, hn, this]

end Naming
end LiveMarkup
