import LiveMarkup.Proofs.Path.Directory

/-!
The directories above a place. `parent?` takes a path as it is written, with its `..` pieces, so
these directories are told by the steps that their paths take, and each takes all the steps of the
next one and one more.
-/

namespace LiveMarkup

namespace Component

theorem exists_ofSegment? {s : Text} (full : s ≠ []) (other : s ≠ ['.']) :
    ∃ c, ofSegment? s = some c ∧ c.text = s := by
  by_cases up : s = ['.', '.']
  · exact ⟨.parent, by rw [up]; rfl, up.symm⟩
  · exact ⟨.name s, ofSegment?_of_ne full other up, rfl⟩

theorem text_of_ofSegment? {s : Text} {c : Component} (h : ofSegment? s = some c) :
    c.text = s := by
  unfold ofSegment? at h
  split at h
  · cases h
  · cases h
  · cases h; rfl
  · cases h; rfl

end Component

namespace Path

open Component (IsPiece)

/-- An absolute path that ends in its last step, as `parent?` leaves it: no slash and no `.` could
be dropped at its end. -/
inductive Stripped : Text → Prop where
  | root : Stripped ['/']
  | below {front : Text} {c : Component} (absolute : isAbsolute (front ++ '/' :: c.text) = true)
      (piece : IsPiece c) : Stripped (front ++ '/' :: c.text)

theorem Stripped.isAbsolute {p : Text} (stripped : Stripped p) : isAbsolute p = true := by
  cases stripped with
  | root => rfl
  | below absolute _ => exact absolute

theorem Stripped.ne_nil {p : Text} (stripped : Stripped p) : p ≠ [] := by
  rintro rfl
  cases stripped.isAbsolute

/-- There is nothing to drop. -/
theorem Stripped.dropTail_eq {p : Text} (stripped : Stripped p) :
    dropTail p.reverse = p.reverse := by
  cases stripped with
  | root =>
    have first : (['/'] : Text).reverse = ['/'] := rfl
    rw [first, dropTail]
  | below _ piece => exact dropTail_reverse piece _

theorem steps_concat_slash (p : Text) : steps (p ++ ['/']) = steps p := by
  have last : steps [] = [] := rfl
  rw [steps_append_slash, last, List.append_nil]

theorem isAbsolute_of_append {p t : Text} (nonempty : p ≠ [])
    (absolute : isAbsolute (p ++ t) = true) : isAbsolute p = true := by
  cases p with
  | nil => exact absurd rfl nonempty
  | cons c p => simpa [isAbsolute_cons] using absolute

/-- Behind its last slash an absolute path has a step, unless it ends in a slash or in `.`. -/
theorem stripped_of_tail {r : Text} (absolute : isAbsolute r.reverse = true)
    (slash : ∀ r', r ≠ '/' :: r') (dot : ∀ r', r ≠ '.' :: '/' :: r') : Stripped r.reverse := by
  have first : '/' ∈ r := by
    cases h : r.reverse with
    | nil => rw [h] at absolute; cases absolute
    | cons c p =>
      rw [h, isAbsolute_cons] at absolute
      have last : c ∈ r.reverse := h ▸ List.mem_cons_self
      rwa [beq_iff_eq.mp absolute, List.mem_reverse] at last
  obtain ⟨behind, front, split, none⟩ := List.eq_append_cons_of_mem first
  have full : behind.reverse ≠ [] := by
    intro empty
    rw [List.reverse_eq_nil_iff.mp empty] at split
    exact slash front split
  have other : behind.reverse ≠ ['.'] := by
    intro single
    rw [List.reverse_eq_iff.mp single] at split
    exact dot front split
  obtain ⟨c, known, text⟩ := Component.exists_ofSegment? full other
  have piece : IsPiece c :=
    Component.isPiece_of_ofSegment? (fun member => none (List.mem_reverse.mp member)) known
  have turned : r.reverse = front.reverse ++ '/' :: c.text := by rw [split, text]; simp
  rw [turned] at absolute ⊢
  exact .below absolute piece

/-- What is dropped at the end of an absolute path is no step of it. -/
theorem stripped_dropTail {r : Text} (absolute : isAbsolute r.reverse = true) :
    Stripped (dropTail r).reverse ∧ steps (dropTail r).reverse = steps r.reverse := by
  fun_induction dropTail r with
  | case1 => exact ⟨.root, rfl⟩
  | case2 r more ih =>
    have full : r.reverse ≠ [] := fun empty => more (List.reverse_eq_nil_iff.mp empty)
    rw [List.reverse_cons] at absolute ⊢
    rw [steps_concat_slash]
    exact ih (isAbsolute_of_append full absolute)
  | case3 r ih =>
    have turned : ('.' :: '/' :: r).reverse = ('/' :: r).reverse ++ ['.'] := by simp
    have dot : steps ['.'] = [] := rfl
    have same : steps ('.' :: '/' :: r).reverse = steps ('/' :: r).reverse := by
      rw [turned, List.reverse_cons, List.append_assoc, List.singleton_append, steps_append_slash,
        dot, List.append_nil, steps_concat_slash]
    rw [turned] at absolute
    rw [same]
    exact ih (isAbsolute_of_append (by simp) absolute)
  | case4 r root slash dot =>
    exact ⟨stripped_of_tail absolute slash dot, rfl⟩

/-- Without what is dropped at its end a path has the same directory. -/
theorem parent?_dropTail {p : Text} (absolute : isAbsolute p = true) :
    parent? (dropTail p.reverse).reverse = parent? p := by
  have stripped := (stripped_dropTail (r := p.reverse) (by rwa [List.reverse_reverse])).1
  rw [parent?, stripped.dropTail_eq, List.reverse_reverse, parent?]

/-- A path without a directory takes no steps; any other takes one more than its directory. -/
theorem parent?_cases {p : Text} (absolute : isAbsolute p = true) :
    parent? p = none ∧ steps p = [] ∨
      ∃ q c, parent? p = some q ∧ Stripped q ∧ steps p = steps q ++ [c] := by
  obtain ⟨stripped, same⟩ :=
    stripped_dropTail (r := p.reverse) (by rwa [List.reverse_reverse])
  rw [List.reverse_reverse] at same
  rw [← same, ← parent?_dropTail absolute]
  generalize (dropTail p.reverse).reverse = q at stripped
  cases stripped with
  | root => exact .inl ⟨parent?_root, rfl⟩
  | @below front c absolute piece =>
    have base : isAbsolute ('/' :: front.reverse).reverse = true := by
      rw [List.reverse_cons, List.reverse_reverse]
      exact isAbsolute_of_append (t := c.text) (by simp) (by simpa using absolute)
    obtain ⟨stripped, same⟩ := stripped_dropTail base
    rw [List.reverse_cons, List.reverse_reverse, steps_concat_slash] at same
    refine .inr ⟨_, c, parent?_append_slash piece front, stripped, ?_⟩
    rw [same, steps_append_slash, steps_text piece]

theorem Stripped.eq_root {p : Text} (stripped : Stripped p) (none : parent? p = none) :
    p = ['/'] := by
  cases stripped with
  | root => rfl
  | below _ piece =>
    rw [parent?_append_slash piece] at none
    cases none

/-- A name in a directory lies in this directory, as it is written. -/
theorem Stripped.parent?_join {d : Text} (stripped : Stripped d) {c : Component}
    (piece : IsPiece c) : parent? (join d c.text) = some d :=
  Path.parent?_join stripped.dropTail_eq piece

theorem Stripped.join {d : Text} (stripped : Stripped d) {c : Component} (piece : IsPiece c) :
    Stripped (join d c.text) := by
  have absolute := isAbsolute_join stripped.isAbsolute c.text
  obtain ⟨front, joined, -⟩ := join_eq stripped.ne_nil (isAbsolute_eq_false_of_isPiece piece)
  rw [joined] at absolute ⊢
  exact .below absolute piece

theorem dropTail_suffix (r : Text) : dropTail r <:+ r := by
  fun_induction dropTail r with
  | case1 => exact List.suffix_rfl
  | case2 r _ ih => exact ih.trans (List.suffix_cons '/' r)
  | case3 r ih => exact ih.trans (List.suffix_cons '.' ('/' :: r))
  | case4 => exact List.suffix_rfl

/-- A path goes on from its directory. -/
theorem isPrefix_of_parent? {p q : Text} (h : parent? p = some q) : q <+: p := by
  have whole := dropTail_suffix p.reverse
  unfold parent? at h
  split at h
  · cases h
  · cases h
  · rename_i c r _ tail
    cases h
    rw [tail] at whole
    have rest : r <:+ p.reverse := (List.suffix_cons c r).trans whole
    have front : dropTail (r.dropWhile (· ≠ '/')) <:+ p.reverse :=
      (dropTail_suffix _).trans ((List.dropWhile_suffix _).trans rest)
    simpa using List.reverse_prefix.mpr front

/-! ### The chain of directories -/

theorem ancestors_of_parent? {p q : Text} (h : parent? p = some q) :
    ancestors p = p :: ancestors q := by
  rw [ancestors]
  split
  · rename_i none
    rw [none] at h
    cases h
  · rename_i some
    rw [Option.some.inj (some.symm.trans h)]

theorem ancestors_of_none {p : Text} (h : parent? p = none) : ancestors p = [p] := by
  rw [ancestors]
  split
  · rfl
  · rename_i some
    rw [some] at h
    cases h

theorem exists_ancestors_eq_cons (p : Text) : ∃ above, ancestors p = p :: above := by
  rw [ancestors]
  split
  · exact ⟨[], rfl⟩
  · exact ⟨_, rfl⟩

/-- Each directory is followed by the one it lies in. -/
theorem isChain_ancestors (p : Text) :
    (ancestors p).IsChain fun a b => parent? a = some b := by
  fun_induction ancestors p with
  | case1 => exact .singleton _
  | case2 p q h ih =>
    obtain ⟨above, first⟩ := exists_ancestors_eq_cons q
    rw [first] at ih ⊢
    exact List.isChain_cons_cons.mpr ⟨h, ih⟩

/-- The way up ends at the root, wherever it begins. -/
theorem Stripped.exists_ancestors_eq {p : Text} (stripped : Stripped p) :
    ∃ near, ancestors p = near ++ [['/']] := by
  fun_induction ancestors p with
  | case1 p none => exact ⟨[], by rw [stripped.eq_root none]; rfl⟩
  | case2 p q h ih =>
    rcases parent?_cases stripped.isAbsolute with ⟨none, -⟩ | ⟨q', c, some, stripped', -⟩
    · rw [none] at h
      cases h
    · cases some.symm.trans h
      obtain ⟨near, split⟩ := ih stripped'
      exact ⟨p :: near, by rw [split]; rfl⟩

/-- Among some directories, those that lead up from `a` to `d`: a path that takes some of the steps
from `d` on to `a` takes just the steps of one of them. -/
def Between (dirs : List Text) (d a : Text) : Prop :=
  ∃ way, steps a = steps d ++ way ∧ ∀ front, front <+: way → ∃ b ∈ dirs, steps b = steps d ++ front

theorem Between.mono {dirs dirs' : List Text} {d a : Text} (h : Between dirs d a)
    (more : ∀ b ∈ dirs, b ∈ dirs') : Between dirs' d a := by
  obtain ⟨way, split, reached⟩ := h
  refine ⟨way, split, fun front first => ?_⟩
  obtain ⟨b, member, same⟩ := reached front first
  exact ⟨b, more b member, same⟩

/-- Up to any directory of the chain, nothing between is left out. -/
theorem Stripped.between_ancestors {near above : List Text} {d p : Text} (stripped : Stripped p)
    (split : ancestors p = near ++ d :: above) :
    ∀ a ∈ near ++ [d], Stripped a ∧ d <+: a ∧ Between (near ++ [d]) d a := by
  induction near generalizing p with
  | nil =>
    obtain ⟨above', first⟩ := exists_ancestors_eq_cons p
    obtain ⟨rfl, -⟩ := List.cons.inj (first.symm.trans split)
    intro a member
    obtain rfl : a = p := by simpa using member
    refine ⟨stripped, List.prefix_rfl, [], (List.append_nil _).symm, ?_⟩
    intro front first
    exact ⟨a, member, by rw [List.prefix_nil.mp first, List.append_nil]⟩
  | cons b near ih =>
    rcases parent?_cases stripped.isAbsolute with ⟨none, -⟩ | ⟨q, c, some, stripped', longer⟩
    · rw [ancestors_of_none none] at split
      simp at split
    · rw [ancestors_of_parent? some, List.cons_append] at split
      obtain ⟨rfl, tail⟩ := List.cons.inj split
      have rest := ih stripped' tail
      have below : ∀ a ∈ near ++ [d], a ∈ p :: (near ++ [d]) :=
        fun a member => List.mem_cons_of_mem p member
      have next : q ∈ near ++ [d] := by
        obtain ⟨above', first⟩ := exists_ancestors_eq_cons q
        rw [first] at tail
        cases near with
        | nil => exact List.mem_singleton.mpr (List.cons.inj tail).1
        | cons b near => exact (List.cons.inj tail).1 ▸ List.mem_cons_self
      rw [List.cons_append]
      intro a member
      rcases List.mem_cons.mp member with rfl | member
      · obtain ⟨-, start, way, reach, between⟩ := rest q next
        refine ⟨stripped, start.trans (isPrefix_of_parent? some), way ++ [c],
          by rw [longer, reach, List.append_assoc], ?_⟩
        intro front first
        rcases List.prefix_concat_iff.mp first with whole | first
        · exact ⟨a, List.mem_cons_self, by rw [longer, reach, whole, List.append_assoc]⟩
        · obtain ⟨b, member, same⟩ := between front first
          exact ⟨b, below b member, same⟩
      · obtain ⟨stripped, start, between⟩ := rest a member
        exact ⟨stripped, start, between.mono below⟩

end Path
end LiveMarkup
