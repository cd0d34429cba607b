import LiveMarkup.Path

/-!
What the components of a path are, once it is joined, cleaned or put together from components. A
path is seen through its steps, the components that its pieces stand for.
-/

namespace LiveMarkup

namespace Component

/-- A component that a piece between two slashes can stand for: `..` or a name. -/
def IsPiece (c : Component) : Prop :=
  ofSegment? c.text = some c ∧ '/' ∉ c.text

theorem not_isPiece_root : ¬ IsPiece .root :=
  fun piece => absurd piece.1 (by decide)

theorem not_isPiece_current : ¬ IsPiece .current :=
  fun piece => absurd piece.1 (by decide)

theorem isPiece_parent : IsPiece .parent :=
  ⟨rfl, by decide⟩

theorem isPiece_of_ofSegment? {s : Text} {c : Component} (slash : '/' ∉ s)
    (h : ofSegment? s = some c) : IsPiece c := by
  by_cases full : s = []
  · subst full
    cases h
  by_cases here : s = ['.']
  · subst here
    cases h
  by_cases up : s = ['.', '.']
  · subst up
    cases h
    exact isPiece_parent
  · have named := ofSegment?_of_ne full here up
    obtain rfl := Option.some.inj (named.symm.trans h)
    exact ⟨named, slash⟩

theorem IsPiece.ne_nil {c : Component} (h : IsPiece c) : c.text ≠ [] := by
  intro empty
  have piece := h.1
  rw [empty] at piece
  cases piece

theorem IsPiece.ne_dot {c : Component} (h : IsPiece c) : c.text ≠ ['.'] := by
  intro dot
  have piece := h.1
  rw [dot] at piece
  cases piece

end Component

namespace Path

open Component (IsPiece)

/-! ### Pieces -/

theorem segments_append_slash (p t : Text) :
    segments (p ++ '/' :: t) = segments p ++ segments t := by
  induction p with
  | nil => exact segments_slash t
  | cons c p ih =>
    by_cases slash : c = '/'
    · rw [slash, List.cons_append, segments_slash, segments_slash, ih, List.cons_append]
    · obtain ⟨s, ss, rest⟩ := exists_segments p
      rw [rest, List.cons_append] at ih
      rw [List.cons_append, segments_of_ne slash ih, segments_of_ne slash rest, List.cons_append]

theorem segments_of_not_mem {p : Text} (h : '/' ∉ p) : segments p = [p] := by
  induction p with
  | nil => rfl
  | cons c p ih =>
    have other : c ≠ '/' := fun slash => h (slash ▸ List.mem_cons_self)
    exact segments_of_ne other (ih fun slash => h (List.mem_cons_of_mem c slash))

theorem not_mem_of_mem_segments {p s : Text} (h : s ∈ segments p) : '/' ∉ s := by
  induction p generalizing s with
  | nil =>
    rw [List.mem_singleton.mp h]
    exact List.not_mem_nil
  | cons c p ih =>
    by_cases slash : c = '/'
    · rw [slash, segments_slash] at h
      rcases List.mem_cons.mp h with rfl | h
      · exact List.not_mem_nil
      · exact ih h
    · obtain ⟨a, as, rest⟩ := exists_segments p
      rw [segments_of_ne slash rest] at h
      rw [rest] at ih
      rcases List.mem_cons.mp h with rfl | h
      · exact List.not_mem_cons_of_ne_of_not_mem (Ne.symm slash) (ih List.mem_cons_self)
      · exact ih (List.mem_cons_of_mem a h)

/-! ### Steps -/

/-- The components of a path apart from what it starts from. -/
def steps (p : Text) : List Component :=
  (segments p).filterMap Component.ofSegment?

/-- What a path starts from: the root, the current directory if it says so, or nothing. -/
def start (p : Text) : List Component :=
  if isAbsolute p then [.root]
  else if (segments p).head? = some ['.'] then [.current]
  else []

theorem components_eq (p : Text) : components p = start p ++ steps p := by
  unfold components start steps
  by_cases h : isAbsolute p = true
  · simp [h]
  · simp only [h, Bool.false_eq_true, if_false]
    split
    · rename_i rest hs
      have none : Component.ofSegment? ['.'] = none := rfl
      simp [hs, none]
    · rename_i hs
      have other : (segments p).head? ≠ some ['.'] := by
        intro dot
        cases hp : segments p with
        | nil => simp [hp] at dot
        | cons s ss =>
          simp only [hp, List.head?_cons, Option.some.injEq] at dot
          exact hs ss (by rw [hp, dot])
      simp [other]

theorem isPiece_of_mem_steps {p : Text} {c : Component} (h : c ∈ steps p) : IsPiece c := by
  obtain ⟨s, hs, hc⟩ := List.mem_filterMap.mp h
  exact Component.isPiece_of_ofSegment? (not_mem_of_mem_segments hs) hc

theorem steps_append_slash (p t : Text) : steps (p ++ '/' :: t) = steps p ++ steps t := by
  simp [steps, segments_append_slash]

theorem steps_text {c : Component} (h : IsPiece c) : steps c.text = [c] := by
  simp [steps, segments_of_not_mem h.2, h.1]

theorem isAbsolute_cons (c : Char) (r : Text) : isAbsolute (c :: r) = (c == '/') := by
  unfold isAbsolute
  split <;> simp_all

theorem isAbsolute_eq_false_of_isPiece {c : Component} (h : IsPiece c) :
    isAbsolute c.text = false := by
  cases hc : c.text with
  | nil => rfl
  | cons d r =>
    have other : d ≠ '/' := fun slash => h.2 (by simp [hc, slash])
    simp [isAbsolute_cons, other]

theorem start_text {c : Component} (h : IsPiece c) : start c.text = [] := by
  simp [start, isAbsolute_eq_false_of_isPiece h, segments_of_not_mem h.2, h.ne_dot]

/-! ### Joined paths -/

theorem join_of_isAbsolute {base p : Text} (h : isAbsolute p = true) : join base p = p := by
  simp [join, h]

/-- Below a base that is not empty, a relative path stands behind one slash, which the base may
bring along. -/
theorem join_eq {base p : Text} (nonempty : base ≠ []) (relative : isAbsolute p = false) :
    ∃ front, join base p = front ++ '/' :: p ∧ (base = front ∨ base = front ++ ['/']) := by
  have full : base.isEmpty = false := by simpa using nonempty
  simp only [join, relative, full, Bool.false_eq_true, if_false, Bool.false_or, beq_iff_eq]
  split
  · rename_i slash
    obtain ⟨front, rfl⟩ := List.getLast?_eq_some_iff.mp slash
    exact ⟨front, by simp, Or.inr rfl⟩
  · exact ⟨base, rfl, Or.inl rfl⟩

theorem join_ne_nil {base p : Text} (nonempty : base ≠ []) (relative : isAbsolute p = false) :
    join base p ≠ [] := by
  obtain ⟨front, joined, -⟩ := join_eq nonempty relative
  simp [joined]

theorem join_nil (p : Text) : join [] p = p := by
  simp [join]

theorem steps_join (base : Text) {p : Text} (relative : isAbsolute p = false) :
    steps (join base p) = steps base ++ steps p := by
  by_cases empty : base = []
  · rw [empty, join_nil]; rfl
  · obtain ⟨front, joined, same | slash⟩ := join_eq empty relative
    · rw [joined, steps_append_slash, same]
    · have last : steps [] = [] := rfl
      rw [joined, slash, steps_append_slash, steps_append_slash, last, List.append_nil]

theorem start_congr {p q : Text} (absolute : isAbsolute p = isAbsolute q)
    (first : (segments p).head? = (segments q).head?) : start p = start q := by
  simp [start, absolute, first]

theorem start_join {base p : Text} (nonempty : base ≠ []) (relative : isAbsolute p = false) :
    start (join base p) = start base := by
  obtain ⟨front, joined, base_eq⟩ := join_eq nonempty relative
  have first (t : Text) : (segments (front ++ '/' :: t)).head? = (segments front).head? := by
    obtain ⟨s, ss, pieces⟩ := exists_segments front
    rw [segments_append_slash, pieces]
    rfl
  rw [joined]
  rcases base_eq with rfl | rfl
  · refine start_congr ?_ (first p)
    cases base with
    | nil => exact absurd rfl nonempty
    | cons c r => simp [isAbsolute_cons]
  · refine start_congr ?_ ((first p).trans (first []).symm)
    cases front with
    | nil => rfl
    | cons c r => simp [isAbsolute_cons]

theorem isAbsolute_join {base : Text} (h : isAbsolute base = true) (p : Text) :
    isAbsolute (join base p) = true := by
  cases absolute : isAbsolute p with
  | true => rwa [join_of_isAbsolute absolute]
  | false =>
    cases base with
    | nil => cases h
    | cons c r =>
      have slash : c = '/' := by simpa [isAbsolute_cons] using h
      simp only [join, absolute, Bool.false_eq_true, if_false]
      split <;> simp [isAbsolute_cons, slash]

/-! ### Paths put together from components -/

/-- The path that goes on from `base` along some components. -/
def extend (base : Text) (cs : List Component) : Text :=
  cs.foldl (fun p c => join p c.text) base

theorem steps_extend (base : Text) {cs : List Component} (pieces : ∀ c ∈ cs, IsPiece c) :
    steps (extend base cs) = steps base ++ cs := by
  induction cs generalizing base with
  | nil => simp [extend]
  | cons c cs ih =>
    have hc : IsPiece c := pieces c List.mem_cons_self
    have joined := steps_join base (isAbsolute_eq_false_of_isPiece hc)
    rw [steps_text hc] at joined
    have rest := ih (join base c.text) fun d hd => pieces d (List.mem_cons_of_mem c hd)
    simpa only [extend, List.foldl_cons, joined, List.append_assoc,
      List.singleton_append] using rest

theorem start_extend {base : Text} (nonempty : base ≠ []) {cs : List Component}
    (pieces : ∀ c ∈ cs, IsPiece c) : start (extend base cs) = start base := by
  induction cs generalizing base with
  | nil => rfl
  | cons c cs ih =>
    have relative := isAbsolute_eq_false_of_isPiece (pieces c List.mem_cons_self)
    have rest := ih (join_ne_nil nonempty relative) fun d hd => pieces d (List.mem_cons_of_mem c hd)
    exact rest.trans (start_join nonempty relative)

theorem isAbsolute_extend {base : Text} (absolute : isAbsolute base = true) (cs : List Component) :
    isAbsolute (extend base cs) = true := by
  induction cs generalizing base with
  | nil => exact absolute
  | cons c cs ih => exact ih (isAbsolute_join absolute c.text)

theorem assemble_cons (c : Component) (cs : List Component) :
    assemble (c :: cs) = extend c.text cs := by
  simp only [assemble, extend, List.foldl_cons, join_nil]

theorem steps_assemble {cs : List Component} (pieces : ∀ c ∈ cs, IsPiece c) :
    steps (assemble cs) = cs := by
  cases cs with
  | nil => rfl
  | cons c cs =>
    rw [assemble_cons, steps_extend _ fun d hd => pieces d (List.mem_cons_of_mem c hd),
      steps_text (pieces c List.mem_cons_self), List.singleton_append]

theorem start_assemble {cs : List Component} (pieces : ∀ c ∈ cs, IsPiece c) :
    start (assemble cs) = [] := by
  cases cs with
  | nil => rfl
  | cons c cs =>
    have hc : IsPiece c := pieces c List.mem_cons_self
    rw [assemble_cons, start_extend hc.ne_nil fun d hd => pieces d (List.mem_cons_of_mem c hd),
      start_text hc]

theorem components_assemble {cs : List Component} (pieces : ∀ c ∈ cs, IsPiece c) :
    components (assemble cs) = cs := by
  rw [components_eq, start_assemble pieces, steps_assemble pieces, List.nil_append]

theorem isAbsolute_assemble {cs : List Component} (pieces : ∀ c ∈ cs, IsPiece c) :
    isAbsolute (assemble cs) = false := by
  have relative := start_assemble pieces
  cases absolute : isAbsolute (assemble cs) with
  | false => rfl
  | true => simp [start, absolute] at relative

theorem components_assemble_root {cs : List Component} (pieces : ∀ c ∈ cs, IsPiece c) :
    components (assemble (.root :: cs)) = .root :: cs := by
  have first : assemble (.root :: cs) = extend ['/'] cs := rfl
  rw [components_eq, first, start_extend (by simp) pieces, steps_extend _ pieces]
  rfl

/-- A slash between each two pieces gives a path with just these steps. -/
theorem steps_slashes {cs : List Component} (pieces : ∀ c ∈ cs, IsPiece c) :
    steps (List.intercalate ['/'] (cs.map Component.text)) = cs := by
  induction cs with
  | nil => rfl
  | cons c cs ih =>
    have hc : IsPiece c := pieces c List.mem_cons_self
    have rest := ih fun d hd => pieces d (List.mem_cons_of_mem c hd)
    cases cs with
    | nil => simpa [List.intercalate] using steps_text hc
    | cons d cs =>
      have split : List.intercalate ['/'] ((c :: d :: cs).map Component.text) =
          c.text ++ '/' :: List.intercalate ['/'] ((d :: cs).map Component.text) := by
        simp [List.intercalate]
      rw [split, steps_append_slash, steps_text hc, rest]
      rfl

theorem isAbsolute_slashes {cs : List Component} (pieces : ∀ c ∈ cs, IsPiece c) :
    isAbsolute (List.intercalate ['/'] (cs.map Component.text)) = false := by
  cases cs with
  | nil => rfl
  | cons c cs =>
    have hc : IsPiece c := pieces c List.mem_cons_self
    have relative := isAbsolute_eq_false_of_isPiece hc
    cases hs : c.text with
    | nil => exact absurd hs hc.ne_nil
    | cons d r =>
      rw [hs, isAbsolute_cons] at relative
      cases cs <;> simp [List.intercalate, hs, isAbsolute_cons, relative]

/-! ### Absolute paths without detours -/

/-- A component that leads down. -/
def IsName (c : Component) : Prop :=
  IsPiece c ∧ c ≠ .parent

theorem walk_of_isName {c : Component} (h : IsName c) (visited : List Component) :
    walk visited c = c :: visited := by
  cases c with
  | root => exact absurd h.1 Component.not_isPiece_root
  | current => exact absurd h.1 Component.not_isPiece_current
  | parent => exact absurd rfl h.2
  | name t => rfl

theorem foldl_walk_names {names : List Component} (h : ∀ c ∈ names, IsName c)
    (visited : List Component) : names.foldl walk visited = names.reverse ++ visited := by
  induction names generalizing visited with
  | nil => rfl
  | cons c names ih =>
    rw [List.foldl_cons, walk_of_isName (h c List.mem_cons_self),
      ih fun d hd => h d (List.mem_cons_of_mem c hd)]
    simp

/-- As many `..` as there are names on top take these names back. -/
theorem foldl_walk_parents {names : List Component} (h : ∀ c ∈ names, IsName c)
    (visited : List Component) :
    (names.map fun _ => Component.parent).foldl walk (names ++ visited) = visited := by
  induction names with
  | nil => rfl
  | cons c names ih =>
    have hc : IsName c := h c List.mem_cons_self
    cases c with
    | root => exact absurd hc.1 Component.not_isPiece_root
    | current => exact absurd hc.1 Component.not_isPiece_current
    | parent => exact absurd rfl hc.2
    | name t => exact ih fun d hd => h d (List.mem_cons_of_mem _ hd)

/-- One step keeps names above the root. -/
theorem walk_above_root {names : List Component} (h : ∀ c ∈ names, IsName c) {c : Component}
    (piece : IsPiece c) :
    ∃ names', walk (names ++ [.root]) c = names' ++ [.root] ∧ ∀ d ∈ names', IsName d := by
  by_cases up : c = .parent
  · subst up
    cases names with
    | nil => exact ⟨[], rfl, h⟩
    | cons d names =>
      have hnames : ∀ e ∈ names, IsName e := fun e he => h e (List.mem_cons_of_mem d he)
      have top : ∀ e ∈ [d], IsName e := by simpa using h d List.mem_cons_self
      exact ⟨names, foldl_walk_parents top (names ++ [Component.root]), hnames⟩
  · refine ⟨c :: names, walk_of_isName ⟨piece, up⟩ _, ?_⟩
    intro d hd
    rcases List.mem_cons.mp hd with rfl | hd
    · exact ⟨piece, up⟩
    · exact h d hd

theorem foldl_walk_above_root {cs names : List Component} (pieces : ∀ c ∈ cs, IsPiece c)
    (h : ∀ c ∈ names, IsName c) :
    ∃ names', cs.foldl walk (names ++ [.root]) = names' ++ [.root] ∧ ∀ c ∈ names', IsName c := by
  induction cs generalizing names with
  | nil => exact ⟨names, rfl, h⟩
  | cons c cs ih =>
    obtain ⟨names', step, h'⟩ := walk_above_root h (pieces c List.mem_cons_self)
    rw [List.foldl_cons, step]
    exact ih (fun d hd => pieces d (List.mem_cons_of_mem c hd)) h'

/-- What is left of an absolute path: the root, and names below it. -/
theorem reduce_root {cs : List Component} (pieces : ∀ c ∈ cs, IsPiece c) :
    ∃ names, reduce (.root :: cs) = .root :: names ∧ ∀ c ∈ names, IsName c := by
  have none : ∀ c ∈ ([] : List Component), IsName c := by simp
  obtain ⟨names, walked, h⟩ := foldl_walk_above_root pieces none
  refine ⟨names.reverse, ?_, fun c hc => h c (List.mem_reverse.mp hc)⟩
  have first : (Component.root :: cs).foldl walk [] = names ++ [.root] := walked
  simp [reduce, first]

theorem reduce_root_names {names : List Component} (h : ∀ c ∈ names, IsName c) :
    reduce (.root :: names) = .root :: names := by
  have first : (Component.root :: names).foldl walk [] = names.reverse ++ [.root] :=
    foldl_walk_names h [.root]
  simp [reduce, first]

end Path
end LiveMarkup
