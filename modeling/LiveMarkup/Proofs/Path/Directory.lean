import LiveMarkup.Proofs.Path.Identity
import Mathlib.Data.List.Induction

/-!
Directories of files, and the ways that lead from them. A clean absolute path is told apart by the
names below the root, and its directory by the names without the last one.
-/

namespace LiveMarkup.Path

open Component (IsPiece)

/-- A slash or a `.` piece at the end is dropped, a component that leads somewhere is not. -/
theorem dropTail_append {c : Component} (piece : IsPiece c) (front : Text) :
    dropTail (front ++ c.text).reverse = (front ++ c.text).reverse := by
  have slash : '/' ∉ c.text.reverse := fun member => piece.2 (List.mem_reverse.mp member)
  rw [List.reverse_append]
  cases last : c.text.reverse with
  | nil => exact absurd (List.reverse_eq_nil_iff.mp last) piece.ne_nil
  | cons d ds =>
    rw [last] at slash
    simp only [List.mem_cons, not_or] at slash
    cases ds with
    | nil =>
      have dot : d ≠ '.' := by
        rintro rfl
        exact piece.ne_dot (by simpa using congrArg List.reverse last)
      rw [List.singleton_append, dropTail]
      · exact fun h => slash.1 (List.cons.inj h).1.symm
      · exact fun _ h => slash.1 (List.cons.inj h).1.symm
      · exact fun _ h => dot (List.cons.inj h).1
    | cons e es =>
      have next : e ≠ '/' := fun h => slash.2 (by simp [h])
      rw [List.cons_append, List.cons_append, dropTail]
      · exact fun h => slash.1 (List.cons.inj h).1.symm
      · exact fun _ h => slash.1 (List.cons.inj h).1.symm
      · exact fun _ h => next (List.cons.inj (List.cons.inj h).2).1

theorem dropTail_reverse {c : Component} (piece : IsPiece c) (front : Text) :
    dropTail (front ++ '/' :: c.text).reverse = (front ++ '/' :: c.text).reverse := by
  have split : front ++ '/' :: c.text = (front ++ ['/']) ++ c.text := by simp
  rw [split, dropTail_append piece]

/-- The last component is taken away, and so are the slashes in front of it. -/
theorem parent?_append {c : Component} (piece : IsPiece c) {front : Text}
    (ends : front = [] ∨ ∃ base, front = base ++ ['/']) :
    parent? (front ++ c.text) = some (dropTail front.reverse).reverse := by
  have kept := dropTail_append piece front
  rw [List.reverse_append] at kept
  cases last : c.text.reverse with
  | nil => exact absurd (List.reverse_eq_nil_iff.mp last) piece.ne_nil
  | cons d ds =>
    have name : ∀ e ∈ d :: ds, e ≠ '/' := by
      rintro e member rfl
      exact piece.2 (List.mem_reverse.mp (last ▸ member))
    have rest : (ds ++ front.reverse).dropWhile (· ≠ '/') = front.reverse := by
      have inside : ∀ e ∈ ds, decide (e ≠ '/') = true := fun e member =>
        decide_eq_true (name e (List.mem_cons_of_mem d member))
      rw [List.dropWhile_append_of_pos inside]
      rcases ends with rfl | ⟨base, rfl⟩
      · rfl
      · rw [List.reverse_append, List.reverse_singleton, List.singleton_append,
          List.dropWhile_cons_of_neg (by simp)]
    rw [last, List.cons_append] at kept
    rw [parent?, List.reverse_append, last, List.cons_append, kept]
    split
    · rename_i h
      cases h
    · rename_i h
      exact absurd (List.cons.inj h).1 (name d List.mem_cons_self)
    · rename_i h
      rw [← (List.cons.inj h).2, rest]

/-- A component behind a slash is taken away with it, and so are more slashes in front. -/
theorem parent?_append_slash {c : Component} (piece : IsPiece c) (front : Text) :
    parent? (front ++ '/' :: c.text) = some (dropTail ('/' :: front.reverse)).reverse := by
  have split : front ++ '/' :: c.text = (front ++ ['/']) ++ c.text := by simp
  rw [split, parent?_append piece (Or.inr ⟨front, rfl⟩), List.reverse_append,
    List.reverse_singleton, List.singleton_append]

/-- What is joined to a path leads back to it, if the path does not end in anything that could be
dropped. -/
theorem parent?_join {d : Text} (kept : dropTail d.reverse = d.reverse) {c : Component}
    (piece : IsPiece c) : parent? (join d c.text) = some d := by
  by_cases empty : d = []
  · have below : parent? ([] ++ c.text) = some (dropTail [].reverse).reverse :=
      parent?_append piece (Or.inl rfl)
    rw [List.reverse_nil, dropTail] at below
    · rwa [empty, join_nil]
    all_goals simp
  · obtain ⟨front, joined, same | slash⟩ :=
      join_eq empty (isAbsolute_eq_false_of_isPiece piece)
    · subst same
      rw [joined, parent?_append_slash piece, dropTail_slash (List.reverse_ne_nil_iff.mpr empty),
        kept, List.reverse_reverse]
    · have turned : '/' :: front.reverse = d.reverse := by rw [slash]; simp
      rw [joined, parent?_append_slash piece, turned, kept, List.reverse_reverse]

theorem assemble_concat (cs : List Component) (c : Component) :
    assemble (cs ++ [c]) = join (assemble cs) c.text := by
  simp [assemble]

theorem assemble_root_ne_nil (names : List Component) : assemble (.root :: names) ≠ [] := by
  have absolute : isAbsolute (assemble (.root :: names)) = true := isAbsolute_extend rfl names
  intro empty
  rw [empty] at absolute
  cases absolute

/-- A file stands behind one slash in its directory, which the root brings along. -/
theorem assemble_concat_eq (names : List Component) {c : Component} (piece : IsPiece c) :
    ∃ front, assemble (.root :: (names ++ [c])) = front ++ '/' :: c.text ∧
      (assemble (.root :: names) = front ∨ assemble (.root :: names) = front ++ ['/']) := by
  rw [← List.cons_append, assemble_concat]
  exact join_eq (assemble_root_ne_nil names) (isAbsolute_eq_false_of_isPiece piece)

/-- A clean absolute path does not end in anything that could be dropped. -/
theorem dropTail_assemble {names : List Component} (h : ∀ c ∈ names, IsName c) :
    dropTail (assemble (.root :: names)).reverse = (assemble (.root :: names)).reverse := by
  cases names using List.reverseRecOn with
  | nil =>
    have first : (assemble [.root]).reverse = ['/'] := rfl
    rw [first, dropTail]
  | append_singleton names c =>
    have piece : IsPiece c := (h c (by simp)).1
    obtain ⟨front, written, -⟩ := assemble_concat_eq names piece
    rw [written, dropTail_reverse piece]

/-- The directory of a file is reached by all names but its own. -/
theorem parent?_assemble {names : List Component} {c : Component}
    (h : ∀ d ∈ names ++ [c], IsName d) :
    parent? (assemble (.root :: (names ++ [c]))) = some (assemble (.root :: names)) := by
  have piece : IsPiece c := (h c (by simp)).1
  rw [← List.cons_append, assemble_concat]
  exact parent?_join (dropTail_assemble fun d hd => h d (List.mem_append_left [c] hd)) piece

theorem parent?_root : parent? (assemble [.root]) = none := by
  have last : (assemble [.root]).reverse = ['/'] := rfl
  have kept : dropTail ['/'] = ['/'] := by rw [dropTail]
  rw [parent?, last, kept]
  rfl

/-- Every file lies in a directory; the root stands for that of `/`, which lies in none. -/
theorem isAbsolute_directory {root : Text} (absolute : isAbsolute root = true) (p : Text) :
    isAbsolute ((parent? (absolutize root p)).getD root) = true := by
  obtain ⟨names, -, h, place⟩ := clean_eq_assemble (isAbsolute_join absolute p)
  rw [absolutize_eq, place]
  cases names using List.reverseRecOn with
  | nil => rwa [parent?_root, Option.getD_none]
  | append_singleton names c =>
    rw [parent?_assemble h, Option.getD_some]
    exact isAbsolute_extend rfl names

/-! ### Ways between places -/

/-- A way goes up first and then down. -/
theorem exists_ways_eq {here there : List Component} (hthere : ∀ c ∈ there, IsName c) :
    ∃ n down, ways here there = List.replicate n .parent ++ down ∧ Component.parent ∉ down := by
  obtain ⟨common, -, there_eq⟩ := dropCommon_append here there
  refine ⟨(dropCommon here there).1.length, (dropCommon here there).2, ?_, ?_⟩
  · simp only [ways, List.map_const']
  · intro member
    exact (hthere .parent (there_eq ▸ List.mem_append_right common member)).2 rfl

/-- A relative path between two places is relative, has all its `..` in front, and leads from the
one to the other. -/
theorem relative_leads {a b : Text} (ha : isAbsolute a = true) (hb : isAbsolute b = true) :
    isAbsolute (relative a b) = false ∧
      (∃ n down, components (relative a b) = List.replicate n .parent ++ down ∧
        Component.parent ∉ down) ∧
      clean (join a (relative a b)) = clean b := by
  obtain ⟨here, reduced, hhere, from_eq⟩ := clean_eq_assemble ha
  obtain ⟨there, -, hthere, to_eq⟩ := clean_eq_assemble hb
  have pieces : ∀ c ∈ ways here there, IsPiece c :=
    isPiece_of_mem_ways fun c hc => (hthere c hc).1
  have way := relative_eq hhere hthere from_eq to_eq
  rw [to_eq]
  split at way
  · rename_i empty
    have none : ways here there = [] := by
      rw [← components_assemble pieces, List.isEmpty_iff.mp empty]
      rfl
    rw [way]
    refine ⟨rfl, ⟨0, [.current], rfl, by decide⟩, ?_⟩
    exact clean_join_ways ha reduced hhere hthere rfl none.symm
  · rw [way, components_assemble pieces]
    exact ⟨isAbsolute_assemble pieces, exists_ways_eq hthere,
      clean_join_ways ha reduced hhere hthere (isAbsolute_assemble pieces) (steps_assemble pieces)⟩

end LiveMarkup.Path
