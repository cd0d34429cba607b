import LiveMarkup.Stage

/-!
Watch lists: the identities of the files that were processed, in order and each once.
-/

namespace LiveMarkup

abbrev WatchList := List Text

namespace WatchList

/-- Puts an identity in its place unless it is there. -/
def add (identity : Text) : WatchList → WatchList
  | [] => [identity]
  | f :: rest =>
    if f = identity then f :: rest
    else if StageTable.textLe f identity then f :: add identity rest
    else identity :: f :: rest

theorem mem_add {identity f : Text} {list : WatchList} :
    f ∈ add identity list ↔ f = identity ∨ f ∈ list := by
  induction list with
  | nil => simp [add]
  | cons g rest ih =>
    unfold add
    split
    · rename_i h
      simp [h]
    · split
      · simp [ih, or_left_comm]
      · simp

end WatchList
end LiveMarkup
