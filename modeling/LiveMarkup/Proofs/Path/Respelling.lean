import LiveMarkup.Proofs.Path.Directory

/-!
Paths in another spelling. The rules of paths know no characters but the slash and the dot, so they
go with every spelling that keeps these two and tells all names apart.

* `Respells`: such a spelling;
* `Respells.components`, `Respells.clean`, `Respells.absolutize`, `Respells.relative`,
  `Respells.parent?`: the rules in it.
-/

namespace LiveMarkup

/-- A component with its name replaced. -/
def Component.map (f : Text → Text) : Component → Component
  | name t => name (f t)
  | c => c

namespace Path

open Component (IsPiece)

/-- A way to spell texts, character by character, that keeps the slash and the dot, writes a slash
for nothing else, and tells all texts apart. -/
structure Respells (f : Text → Text) : Prop where
  append : ∀ s t, f (s ++ t) = f s ++ f t
  slash : f ['/'] = ['/']
  dot : f ['.'] = ['.']
  injective : ∀ s t, f s = f t → s = t
  slash_mem : ∀ t, '/' ∈ f t → '/' ∈ t

namespace Respells

variable {f : Text → Text} (respells : Respells f)
include respells

theorem nil : f [] = [] := by
  have twice := respells.append [] []
  rw [List.append_nil] at twice
  exact List.self_eq_append_left.mp twice

theorem cons (c : Char) (t : Text) : f (c :: t) = f [c] ++ f t :=
  respells.append [c] t

theorem cons_slash (t : Text) : f ('/' :: t) = '/' :: f t := by
  rw [respells.cons, respells.slash]
  rfl

theorem dots : f ['.', '.'] = ['.', '.'] := by
  rw [respells.cons, respells.dot]
  rfl

theorem eq_nil_iff {t : Text} : f t = [] ↔ t = [] := by
  constructor
  · intro empty
    exact respells.injective t [] (empty.trans respells.nil.symm)
  · rintro rfl
    exact respells.nil

/-- A character other than the slash is spelled with some characters, none of which is one. -/
theorem exists_of_ne {c : Char} (other : c ≠ '/') :
    ∃ d more, f [c] = d :: more ∧ '/' ∉ d :: more := by
  cases spelled : f [c] with
  | nil => cases respells.eq_nil_iff.mp spelled
  | cons d more =>
    refine ⟨d, more, rfl, fun member => ?_⟩
    have slash := respells.slash_mem [c] (spelled ▸ member)
    exact other (List.mem_singleton.mp slash).symm

theorem isAbsolute (p : Text) : isAbsolute (f p) = Path.isAbsolute p := by
  cases p with
  | nil => rw [respells.nil]
  | cons c p =>
    by_cases slash : c = '/'
    · rw [slash, respells.cons_slash]
      rfl
    · obtain ⟨d, more, spelled, none⟩ := respells.exists_of_ne slash
      have other : d ≠ '/' := fun same => none (same ▸ List.mem_cons_self)
      rw [respells.cons, spelled, List.cons_append, isAbsolute_cons, isAbsolute_cons,
        beq_false_of_ne other, beq_false_of_ne slash]

omit respells in
theorem segments_append_of_not_mem {u : Text} (none : '/' ∉ u) {v first : Text}
    {more : List Text} (rest : segments v = first :: more) :
    segments (u ++ v) = (u ++ first) :: more := by
  induction u with
  | nil => exact rest
  | cons c u ih =>
    have other : c ≠ '/' := fun same => none (same ▸ List.mem_cons_self)
    exact segments_of_ne other (ih fun member => none (List.mem_cons_of_mem c member))

theorem segments (p : Text) : segments (f p) = (Path.segments p).map f := by
  induction p with
  | nil =>
    have empty : Path.segments [] = [[]] := rfl
    rw [respells.nil, empty, List.map_singleton, respells.nil]
  | cons c p ih =>
    by_cases slash : c = '/'
    · rw [slash, respells.cons_slash, segments_slash, segments_slash, ih, List.map_cons,
        respells.nil]
    · obtain ⟨d, more, spelled, none⟩ := respells.exists_of_ne slash
      obtain ⟨s, ss, rest⟩ := exists_segments p
      rw [rest, List.map_cons] at ih
      rw [respells.cons, segments_append_of_not_mem (spelled ▸ none) ih, segments_of_ne slash rest,
        List.map_cons, respells.cons c s]

theorem text (c : Component) : (c.map f).text = f c.text := by
  cases c with
  | root => exact respells.slash.symm
  | current => exact respells.dot.symm
  | parent => exact respells.dots.symm
  | name t => rfl

theorem ofSegment? (s : Text) :
    Component.ofSegment? (f s) = (Component.ofSegment? s).map (Component.map f) := by
  by_cases none : s = []
  · rw [none, respells.nil]
    rfl
  by_cases here : s = ['.']
  · rw [here, respells.dot]
    rfl
  by_cases up : s = ['.', '.']
  · rw [up, respells.dots]
    rfl
  · have full : f s ≠ [] := fun same => none (respells.eq_nil_iff.mp same)
    have dot : f s ≠ ['.'] := fun same =>
      here (respells.injective s _ (same.trans respells.dot.symm))
    have dots : f s ≠ ['.', '.'] := fun same =>
      up (respells.injective s _ (same.trans respells.dots.symm))
    rw [Component.ofSegment?_of_ne none here up, Component.ofSegment?_of_ne full dot dots]
    rfl

theorem isPiece {c : Component} (piece : IsPiece c) : IsPiece (c.map f) := by
  refine ⟨?_, fun member => ?_⟩
  · rw [respells.text, respells.ofSegment?, piece.1]
    rfl
  · rw [respells.text] at member
    exact piece.2 (respells.slash_mem c.text member)

theorem steps (p : Text) : steps (f p) = (Path.steps p).map (Component.map f) := by
  unfold Path.steps
  rw [respells.segments, List.filterMap_map, List.map_filterMap]
  congr 1
  funext s
  exact respells.ofSegment? s

theorem components (p : Text) : components (f p) = (Path.components p).map (Component.map f) := by
  have first : (Path.segments (f p)).head? = some ['.'] ↔ (Path.segments p).head? = some ['.'] := by
    rw [respells.segments, List.head?_map, Option.map_eq_some_iff]
    constructor
    · rintro ⟨s, front, same⟩
      rw [front, respells.injective s _ (same.trans respells.dot.symm)]
    · intro front
      exact ⟨_, front, respells.dot⟩
  rw [components_eq, components_eq, List.map_append, respells.steps]
  congr 1
  unfold start
  rw [respells.isAbsolute]
  simp only [first]
  split
  · rfl
  · split <;> rfl

theorem getLast?_eq_slash_iff (p : Text) :
    (f p).getLast? = some '/' ↔ p.getLast? = some '/' := by
  cases p using List.reverseRecOn with
  | nil => rw [respells.nil]
  | append_singleton p c =>
    by_cases slash : c = '/'
    · rw [slash, respells.append, respells.slash]
      simp
    · obtain ⟨d, more, spelled, none⟩ := respells.exists_of_ne slash
      rw [respells.append, spelled, List.getLast?_append, List.getLast?_concat]
      constructor
      · intro ends
        rw [List.getLast?_eq_some_getLast (List.cons_ne_nil d more)] at ends
        have member := List.getLast_mem (List.cons_ne_nil d more)
        rw [Option.some.inj ends] at member
        exact absurd member none
      · intro ends
        exact absurd (Option.some.inj ends) slash

theorem join (base p : Text) : join (f base) (f p) = f (join base p) := by
  have empty : (f base).isEmpty = base.isEmpty := by
    rw [Bool.eq_iff_iff, List.isEmpty_iff, List.isEmpty_iff, respells.eq_nil_iff]
  have ends : ((f base).getLast? == some '/') = (base.getLast? == some '/') := by
    rw [Bool.eq_iff_iff, beq_iff_eq, beq_iff_eq, respells.getLast?_eq_slash_iff]
  unfold Path.join
  rw [respells.isAbsolute, empty, ends]
  split
  · rfl
  · split
    · rw [respells.append]
    · rw [respells.append, respells.cons_slash]

theorem assemble (cs : List Component) :
    assemble (cs.map (Component.map f)) = f (Path.assemble cs) := by
  have extended (base : Text) : (cs.map (Component.map f)).foldl (fun p c => Path.join p c.text)
      (f base) = f (cs.foldl (fun p c => Path.join p c.text) base) := by
    induction cs generalizing base with
    | nil => rfl
    | cons c cs ih =>
      rw [List.map_cons, List.foldl_cons, List.foldl_cons, respells.text, respells.join]
      exact ih _
  have whole := extended []
  rw [respells.nil] at whole
  exact whole

omit respells in
theorem reduce_map (f : Text → Text) (cs : List Component) :
    reduce (cs.map (Component.map f)) = (reduce cs).map (Component.map f) := by
  have step (visited : List Component) (c : Component) :
      walk (visited.map (Component.map f)) (c.map f) = (walk visited c).map (Component.map f) := by
    cases c with
    | parent =>
      cases visited with
      | nil => rfl
      | cons d visited => cases d <;> rfl
    | _ => rfl
  have walked (visited : List Component) :
      (cs.map (Component.map f)).foldl walk (visited.map (Component.map f)) =
        (cs.foldl walk visited).map (Component.map f) := by
    induction cs generalizing visited with
    | nil => rfl
    | cons c cs ih =>
      rw [List.map_cons, List.foldl_cons, List.foldl_cons, step]
      exact ih _
  have whole := walked []
  rw [List.map_nil] at whole
  rw [reduce, reduce, whole, List.map_reverse]

theorem clean (p : Text) : clean (f p) = f (Path.clean p) := by
  rw [Path.clean, Path.clean, respells.components, reduce_map, respells.assemble]

theorem absolutize (root p : Text) : absolutize (f root) (f p) = f (Path.absolutize root p) := by
  rw [absolutize_eq, absolutize_eq, respells.join, respells.clean]

theorem map_injective {c d : Component} (same : c.map f = d.map f) : c = d := by
  cases c <;> cases d <;> simp only [Component.map, reduceCtorEq, Component.name.injEq] at same
  all_goals first
    | rfl
    | exact congrArg Component.name (respells.injective _ _ same)

theorem dropCommon (as bs : List Component) :
    dropCommon (as.map (Component.map f)) (bs.map (Component.map f)) =
      ((Path.dropCommon as bs).1.map (Component.map f),
        (Path.dropCommon as bs).2.map (Component.map f)) := by
  induction as generalizing bs with
  | nil => rfl
  | cons a as ih =>
    cases bs with
    | nil => rfl
    | cons b bs =>
      simp only [List.map_cons, Path.dropCommon]
      by_cases same : a = b
      · rw [if_pos same, if_pos (congrArg (Component.map f) same)]
        exact ih bs
      · rw [if_neg same, if_neg fun equal => same (respells.map_injective equal)]
        rfl

theorem relative (directory target : Text) :
    relative (f directory) (f target) = f (Path.relative directory target) := by
  have parents (up : List Component) : (up.map (Component.map f)).map (fun _ => Component.parent) =
      (up.map fun _ => Component.parent).map (Component.map f) := by
    rw [List.map_map, List.map_map]
    rfl
  simp only [Path.relative, respells.clean, respells.components, respells.dropCommon]
  rw [parents, ← List.map_append, respells.assemble]
  simp only [List.isEmpty_iff, respells.eq_nil_iff]
  split
  · exact respells.dot.symm
  · rfl

omit respells in
theorem isName_map_iff (f : Text → Text) (c : Component) :
    c.map f = .parent ↔ c = .parent := by
  cases c <;> simp [Component.map]

theorem isName {c : Component} (h : IsName c) : IsName (c.map f) :=
  ⟨respells.isPiece h.1, fun up => h.2 ((isName_map_iff f c).mp up)⟩

/-- The directory of a clean absolute path. -/
theorem parent? {root : Text} (absolute : Path.isAbsolute root = true) (p : Text) :
    parent? (f (Path.absolutize root p)) = (Path.parent? (Path.absolutize root p)).map f := by
  obtain ⟨names, -, hnames, place⟩ := clean_eq_assemble (isAbsolute_join absolute p)
  rw [← absolutize_eq] at place
  rw [place, ← respells.assemble]
  cases names using List.reverseRecOn with
  | nil =>
    have alone : [Component.root].map (Component.map f) = [.root] := rfl
    rw [alone, parent?_root]
    rfl
  | append_singleton names c =>
    have split : (Component.root :: (names ++ [c])).map (Component.map f) =
        .root :: (names.map (Component.map f) ++ [c.map f]) := by simp [Component.map]
    have respelled : ∀ d ∈ names.map (Component.map f) ++ [c.map f], IsName d := by
      intro d member
      rw [← List.map_singleton, ← List.map_append] at member
      obtain ⟨e, below, rfl⟩ := List.mem_map.mp member
      exact respells.isName (hnames e below)
    have above : Component.root :: names.map (Component.map f) =
        (Component.root :: names).map (Component.map f) := rfl
    rw [split, parent?_assemble respelled, parent?_assemble hnames, above, respells.assemble]
    rfl

theorem intercalate (xs : List Text) :
    f (List.intercalate ['/'] xs) = List.intercalate ['/'] (xs.map f) := by
  induction xs with
  | nil => exact respells.nil
  | cons x xs ih =>
    cases xs with
    | nil => simp [List.intercalate]
    | cons y ys =>
      simp only [List.map_cons, List.intercalate_cons_cons, respells.append, respells.slash, ih]

end Respells

end Path
end LiveMarkup
