import LiveMarkup.Proofs.Path.Directory

/-!
The canonical form of a path. Cleaning can be done on the text, one component after the other, and
comes to what the components resolve to, in whichever of the parts of a path it is done first.

* `Path.advance`, `foldl_advance`: a path that is put together one component at a time;
* `Path.Resolved`, `resolved_iff`: the rules by which components resolve;
* `reduce_reduce_append`, `reduce_append_reduce`: parts of a path may be resolved first;
* `Path.clean_canonical`: what cleaning does.
-/

namespace LiveMarkup.Path

open Component (IsPiece)

/-- A path, as it is written so far, with one component more. -/
def advance (out : Text) : Component → Text
  | .current => out
  | .parent =>
    match (components out).getLast? with
    | some (.name _) => (parent? out).getD out
    | some .root => out
    | _ => join out Component.parent.text
  | c => join out c.text

/-- The rules by which the components of a path resolve: `.` is dropped, `..` takes back a name in
front of it, is absorbed by the root, and stays otherwise. -/
inductive Resolved : List Component → List Component → Prop where
  | nil : Resolved [] []
  | root {cs out : List Component} (front : Resolved cs out) :
      Resolved (cs ++ [.root]) (out ++ [.root])
  | current {cs out : List Component} (front : Resolved cs out) : Resolved (cs ++ [.current]) out
  | name {cs out : List Component} (t : Text) (front : Resolved cs out) :
      Resolved (cs ++ [.name t]) (out ++ [.name t])
  | back {cs out : List Component} {t : Text} (front : Resolved cs (out ++ [.name t])) :
      Resolved (cs ++ [.parent]) out
  | absorbed {cs out : List Component} (front : Resolved cs (out ++ [.root])) :
      Resolved (cs ++ [.parent]) (out ++ [.root])
  | kept {cs out : List Component} (front : Resolved cs out)
      (nameless : ∀ t, out.getLast? ≠ some (.name t)) (rootless : out.getLast? ≠ some .root) :
      Resolved (cs ++ [.parent]) (out ++ [.parent])

/-- The components of a path without detours: names below the root, or names behind some `..`. -/
inductive Canonical : Bool → List Component → Prop where
  | absolute {names : List Component} (h : ∀ c ∈ names, IsName c) : Canonical true (.root :: names)
  | relative (n : Nat) {names : List Component} (h : ∀ c ∈ names, IsName c) :
      Canonical false (List.replicate n .parent ++ names)

/-! ### Resolving -/

theorem reduce_concat (cs : List Component) (c : Component) :
    reduce (cs ++ [c]) = (walk (reduce cs).reverse c).reverse :=
  reduce_append cs [c]

theorem reduce_of_resolved {cs out : List Component} (resolved : Resolved cs out) :
    reduce cs = out := by
  induction resolved with
  | kept front nameless rootless ih =>
    rw [reduce_concat, ih]
    rename_i out
    rw [List.getLast?_eq_head?_reverse] at nameless rootless
    rw [← List.reverse_reverse (out ++ [_]), List.reverse_append]
    cases h : out.reverse with
    | nil => rfl
    | cons c v =>
      rw [h] at nameless rootless
      cases c with
      | root => exact absurd rfl rootless
      | name t => exact absurd rfl (nameless t)
      | _ => rfl
  | nil => rfl
  | name t front ih => simp [reduce_concat, ih, walk]
  | root front ih | current front ih | back front ih | absorbed front ih =>
    simp [reduce_concat, ih, walk]

theorem resolved_reduce (cs : List Component) : Resolved cs (reduce cs) := by
  induction cs using List.reverseRecOn with
  | nil => exact .nil
  | append_singleton cs c ih =>
    rw [reduce_concat]
    generalize reduce cs = out at ih ⊢
    cases c with
    | root => simpa [walk] using ih.root
    | current => simpa [walk] using ih.current
    | name t => simpa [walk] using ih.name t
    | parent =>
      cases out using List.reverseRecOn with
      | nil => exact .kept ih (by simp) (by simp)
      | append_singleton out c' =>
        rw [List.reverse_append, List.reverse_singleton, List.singleton_append]
        cases c' with
        | root => simpa [walk] using ih.absorbed
        | name t => simpa [walk] using ih.back
        | current => simpa [walk] using ih.kept (by simp) (by simp)
        | parent => simpa [walk] using ih.kept (by simp) (by simp)

/-- The rules leave just what a walk leaves. -/
theorem resolved_iff {cs out : List Component} : Resolved cs out ↔ out = reduce cs := by
  constructor
  · exact fun resolved => (reduce_of_resolved resolved).symm
  · rintro rfl
    exact resolved_reduce cs

/-! ### Resolving parts of a path -/

/-- To walk on along what is left of a walk with one more step is to walk on along what was left
before, and to take the step then. -/
theorem foldl_walk_walk (visited on : List Component) (c : Component) :
    (walk on c).reverse.foldl walk visited = walk (on.reverse.foldl walk visited) c := by
  cases c with
  | current => rfl
  | root | name => simp [walk]
  | parent =>
    cases on with
    | nil => rfl
    | cons d on =>
      -- what was pushed last is taken back, and the root absorbs on both sides
      cases d <;> simp [walk]

theorem foldl_walk_foldl_walk (visited on cs : List Component) :
    (cs.foldl walk on).reverse.foldl walk visited =
      cs.foldl walk (on.reverse.foldl walk visited) := by
  induction cs generalizing on with
  | nil => rfl
  | cons c cs ih => rw [List.foldl_cons, ih, foldl_walk_walk, List.foldl_cons]

/-- To walk on along what is left of some components is to walk on along them. -/
theorem foldl_walk_reduce (visited cs : List Component) :
    (reduce cs).foldl walk visited = cs.foldl walk visited :=
  foldl_walk_foldl_walk visited [] cs

theorem reduce_reduce (cs : List Component) : reduce (reduce cs) = reduce cs := by
  rw [reduce, foldl_walk_reduce, reduce]

theorem reduce_reduce_append (as bs : List Component) :
    reduce (reduce as ++ bs) = reduce (as ++ bs) := by
  rw [reduce_append, reduce_reduce, ← reduce_append]

theorem reduce_append_reduce (as bs : List Component) :
    reduce (as ++ reduce bs) = reduce (as ++ bs) := by
  rw [reduce_append, foldl_walk_reduce, ← reduce_append]

/-! ### What is left of a path -/

/-- What a walk along a path has visited, the last component first: names in front of the root, or
in front of some `..`. -/
inductive Stacked : Bool → List Component → Prop where
  | root : Stacked true [.root]
  | parents (n : Nat) : Stacked false (List.replicate n .parent)
  | name {absolute : Bool} {c : Component} {visited : List Component} (h : IsName c)
      (below : Stacked absolute visited) : Stacked absolute (c :: visited)

theorem Stacked.walk {absolute : Bool} {visited : List Component}
    (stacked : Stacked absolute visited) {c : Component} (piece : IsPiece c) :
    Stacked absolute (walk visited c) := by
  by_cases up : c = .parent
  · subst up
    cases stacked with
    | root => exact .root
    | parents n =>
      cases n with
      | zero => exact .parents 1
      | succ n => exact .parents (n + 2)
    | @name _ d visited h below =>
      have only : ∀ e ∈ [d], IsName e := by simpa using h
      have back : Path.walk (d :: visited) .parent = visited := foldl_walk_parents only visited
      rwa [back]
  · rw [walk_of_isName ⟨piece, up⟩]
    exact .name ⟨piece, up⟩ stacked

theorem Stacked.foldl {absolute : Bool} {visited cs : List Component}
    (stacked : Stacked absolute visited) (pieces : ∀ c ∈ cs, IsPiece c) :
    Stacked absolute (cs.foldl Path.walk visited) := by
  induction cs generalizing visited with
  | nil => exact stacked
  | cons c cs ih =>
    exact ih (stacked.walk (pieces c List.mem_cons_self)) fun d member =>
      pieces d (List.mem_cons_of_mem c member)

theorem Stacked.canonical {absolute : Bool} {visited : List Component}
    (stacked : Stacked absolute visited) : Canonical absolute visited.reverse := by
  induction stacked with
  | root =>
    have none : ∀ c ∈ ([] : List Component), IsName c := by simp
    exact .absolute none
  | parents n =>
    rw [List.reverse_replicate, ← List.append_nil (List.replicate n _)]
    exact .relative n (by simp)
  | @name _ c visited h below ih =>
    have all {names : List Component} (hnames : ∀ d ∈ names, IsName d) :
        ∀ d ∈ names ++ [c], IsName d := by
      intro d member
      obtain member | member := List.mem_append.mp member
      · exact hnames d member
      · exact List.mem_singleton.mp member ▸ h
    rw [List.reverse_cons]
    generalize visited.reverse = cs at ih
    cases ih with
    | absolute hnames => exact .absolute (all hnames)
    | relative n hnames =>
      rw [List.append_assoc]
      exact .relative n (all hnames)

theorem stacked_start (p : Text) : Stacked (isAbsolute p) ((start p).foldl walk []) := by
  unfold start
  cases isAbsolute p with
  | true => exact .root
  | false =>
    simp only [Bool.false_eq_true, if_false]
    split <;> exact .parents 0

theorem stacked_components (p : Text) : Stacked (isAbsolute p) ((components p).foldl walk []) := by
  rw [components_eq, List.foldl_append]
  exact (stacked_start p).foldl fun c => isPiece_of_mem_steps

theorem canonical_reduce (p : Text) : Canonical (isAbsolute p) (reduce (components p)) :=
  (stacked_components p).canonical

/-- What is left of a path comes back from the path that is put together from it. -/
theorem Canonical.components_assemble {absolute : Bool} {cs : List Component}
    (canonical : Canonical absolute cs) :
    components (assemble cs) = cs ∧ isAbsolute (assemble cs) = absolute := by
  cases canonical with
  | @absolute names h =>
    have absolute : isAbsolute (extend ['/'] names) = true := isAbsolute_extend rfl names
    exact ⟨components_assemble_names h, absolute⟩
  | @relative n names h =>
    have pieces : ∀ c ∈ List.replicate n .parent ++ names, IsPiece c := by
      intro c member
      obtain up | down := List.mem_append.mp member
      · exact List.eq_of_mem_replicate up ▸ Component.isPiece_parent
      · exact (h c down).1
    exact ⟨Path.components_assemble pieces, isAbsolute_assemble pieces⟩

theorem components_clean (p : Text) : components (clean p) = reduce (components p) :=
  (canonical_reduce p).components_assemble.1

/-! ### Cleaning on the text -/

/-- Nothing could be dropped at the end of a path that is put together from what was visited. -/
theorem Stacked.dropTail_assemble {absolute : Bool} {visited : List Component}
    (stacked : Stacked absolute visited) :
    dropTail (assemble visited.reverse).reverse = (assemble visited.reverse).reverse := by
  have last (cs : List Component) {c : Component} (piece : IsPiece c) :
      dropTail (assemble (cs ++ [c])).reverse = (assemble (cs ++ [c])).reverse := by
    rw [assemble_concat]
    by_cases empty : assemble cs = []
    · rw [empty, join_nil]
      exact dropTail_append piece []
    · obtain ⟨front, joined, -⟩ := join_eq empty (isAbsolute_eq_false_of_isPiece piece)
      rw [joined, dropTail_reverse piece]
  cases stacked with
  | root =>
    have none : ∀ c ∈ ([] : List Component), IsName c := by simp
    exact Path.dropTail_assemble none
  | parents n =>
    cases n with
    | zero =>
      have none : (assemble (List.replicate 0 Component.parent).reverse).reverse = [] := rfl
      rw [none, dropTail] <;> simp
    | succ n =>
      rw [List.replicate_succ, List.reverse_cons]
      exact last _ Component.isPiece_parent
  | name h below =>
    rw [List.reverse_cons]
    exact last _ h.1

/-- One component more on the text is one step more of the walk. -/
theorem Stacked.advance {absolute : Bool} {visited : List Component}
    (stacked : Stacked absolute visited) (c : Component) :
    advance (assemble visited.reverse) c = assemble (Path.walk visited c).reverse := by
  have concat (c : Component) :
      join (assemble visited.reverse) c.text = assemble (c :: visited).reverse := by
    rw [List.reverse_cons, assemble_concat]
  cases c with
  | current => rfl
  | root => exact concat .root
  | name t => exact concat (.name t)
  | parent =>
    have seen : (components (assemble visited.reverse)).getLast? = visited.head? := by
      rw [stacked.canonical.components_assemble.1, List.getLast?_reverse]
    unfold Path.advance
    rw [seen]
    cases stacked with
    | root => rfl
    | parents n =>
      cases n with
      | zero => rfl
      | succ n => exact concat .parent
    | @name _ d visited h below =>
      cases d with
      | name t =>
        have up := parent?_join below.dropTail_assemble h.1
        rw [← assemble_concat, ← List.reverse_cons] at up
        simp only [List.head?_cons, up, Option.getD_some]
        rfl
      | root => exact absurd h.1 Component.not_isPiece_root
      | current => exact absurd h.1 Component.not_isPiece_current
      | parent => exact absurd rfl h.2

theorem Stacked.foldl_advance {absolute : Bool} {visited cs : List Component}
    (stacked : Stacked absolute visited) (pieces : ∀ c ∈ cs, IsPiece c) :
    cs.foldl Path.advance (assemble visited.reverse) =
      assemble (cs.foldl Path.walk visited).reverse := by
  induction cs generalizing visited with
  | nil => rfl
  | cons c cs ih =>
    rw [List.foldl_cons, stacked.advance, List.foldl_cons]
    exact ih (stacked.walk (pieces c List.mem_cons_self)) fun d member =>
      pieces d (List.mem_cons_of_mem c member)

/-- A path that is put together one component at a time is clean all the way. -/
theorem foldl_advance (p : Text) : (components p).foldl advance [] = clean p := by
  have first : (start p).foldl advance [] = assemble ((start p).foldl walk []).reverse := by
    unfold start
    split
    · rfl
    · split <;> rfl
  rw [clean, reduce, components_eq, List.foldl_append, first, List.foldl_append,
    (stacked_start p).foldl_advance fun c => isPiece_of_mem_steps]

/-! ### Joined paths -/

/-- Below a base a relative path goes on from what the base comes to. -/
theorem reduce_components_join (a : Text) {b : Text} (relative : isAbsolute b = false) :
    reduce (components (join a b)) = reduce (components a ++ components b) := by
  by_cases empty : a = []
  · rw [empty, join_nil]
    rfl
  · have dropped : reduce (components a ++ components b) = reduce (components a ++ steps b) := by
      rw [reduce_append, reduce_append, components_eq b, List.foldl_append]
      simp only [start, relative, Bool.false_eq_true, if_false]
      split <;> rfl
    rw [dropped, components_eq (join a b), start_join empty relative, steps_join a relative,
      ← List.append_assoc, ← components_eq]

theorem isAbsolute_clean_eq (p : Text) : isAbsolute (clean p) = isAbsolute p :=
  (canonical_reduce p).components_assemble.2

theorem clean_clean (p : Text) : clean (clean p) = clean p := by
  rw [clean, components_clean, reduce_reduce, clean]

theorem clean_join_clean_left (a b : Text) : clean (join (clean a) b) = clean (join a b) := by
  cases absolute : isAbsolute b with
  | true => rw [join_of_isAbsolute absolute, join_of_isAbsolute absolute]
  | false =>
    rw [clean, reduce_components_join _ absolute, components_clean, reduce_reduce_append,
      ← reduce_components_join a absolute, clean]

theorem clean_join_clean_right (a b : Text) : clean (join a (clean b)) = clean (join a b) := by
  have kind := isAbsolute_clean_eq b
  cases absolute : isAbsolute b with
  | true =>
    rw [absolute] at kind
    rw [join_of_isAbsolute kind, join_of_isAbsolute absolute, clean_clean]
  | false =>
    rw [absolute] at kind
    rw [clean, reduce_components_join _ kind, components_clean, reduce_append_reduce,
      ← reduce_components_join a absolute, clean]

/-- Cleaning puts a path together one component at a time, taking back what `..` leads away from.
It leaves what the components resolve to, which has no detours and is written in one way, so a
clean path stays as it is; and either part of a joined path may be cleaned before. -/
theorem clean_canonical (p : Text) :
    clean p = (components p).foldl advance [] ∧
      (∀ out, Resolved (components p) out ↔ out = components (clean p)) ∧
      Canonical (isAbsolute p) (components (clean p)) ∧
      isAbsolute (clean p) = isAbsolute p ∧ clean p = assemble (components (clean p)) ∧
      clean (clean p) = clean p ∧
      ∀ b, clean (join p b) = clean (join (clean p) b) ∧
        clean (join p b) = clean (join p (clean b)) := by
  have left := components_clean p
  refine ⟨(foldl_advance p).symm, ?_, ?_, isAbsolute_clean_eq p, ?_, clean_clean p, ?_⟩
  · intro out
    rw [left]
    exact resolved_iff
  · rw [left]
    exact canonical_reduce p
  · rw [left, clean]
  · exact fun b => ⟨(clean_join_clean_left p b).symm, (clean_join_clean_right p b).symm⟩

/-- The root absorbs what leads above it, and nothing else does. -/
example :
    clean (join ['/', 'a', '/', '.'] ['.', '.', '/', '.', '.', '/', 'b']) = ['/', 'b'] ∧
      clean (join ['a', '/', '.'] ['.', '.', '/', '.', '.', '/', 'b']) =
        ['.', '.', '/', 'b'] := by
  decide

end LiveMarkup.Path
