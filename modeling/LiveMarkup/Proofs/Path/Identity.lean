import LiveMarkup.Proofs.Path.Components

/-!
Identities of files. An identity is a relative path that leads from the root back to its file, so
two paths have one identity exactly when they are spellings of one place, inside the root or not.
-/

namespace LiveMarkup.Path

open Component (IsPiece)

theorem absolutize_eq (root p : Text) : absolutize root p = clean (join root p) := by
  unfold absolutize
  split
  · rename_i absolute
    rw [join_of_isAbsolute absolute]
  · rfl

theorem components_of_isAbsolute {p : Text} (h : isAbsolute p = true) :
    components p = .root :: steps p := by
  simp [components_eq, start, h]

/-- A clean absolute path is put together from the root and names. -/
theorem clean_eq_assemble {p : Text} (absolute : isAbsolute p = true) :
    ∃ names, reduce (components p) = .root :: names ∧ (∀ c ∈ names, IsName c) ∧
      clean p = assemble (.root :: names) := by
  have pieces : ∀ c ∈ steps p, IsPiece c := fun c hc => isPiece_of_mem_steps hc
  obtain ⟨names, reduced, h⟩ := reduce_root pieces
  rw [← components_of_isAbsolute absolute] at reduced
  exact ⟨names, reduced, h, by rw [clean, reduced]⟩

theorem components_assemble_names {names : List Component} (h : ∀ c ∈ names, IsName c) :
    components (assemble (.root :: names)) = .root :: names :=
  components_assemble_root fun c hc => (h c hc).1

theorem clean_assemble_names {names : List Component} (h : ∀ c ∈ names, IsName c) :
    clean (assemble (.root :: names)) = assemble (.root :: names) := by
  rw [clean, components_assemble_names h, reduce_root_names h]

theorem isAbsolute_clean {p : Text} (absolute : isAbsolute p = true) :
    isAbsolute (clean p) = true := by
  obtain ⟨names, -, -, place⟩ := clean_eq_assemble absolute
  rw [place]
  exact isAbsolute_extend rfl names

theorem isAbsolute_absolutize {root : Text} (absolute : isAbsolute root = true) (p : Text) :
    isAbsolute (absolutize root p) = true := by
  rw [absolutize_eq]
  exact isAbsolute_clean (isAbsolute_join absolute p)

theorem clean_absolutize {root : Text} (absolute : isAbsolute root = true) (p : Text) :
    clean (absolutize root p) = absolutize root p := by
  obtain ⟨names, -, hnames, place⟩ := clean_eq_assemble (isAbsolute_join absolute p)
  rw [absolutize_eq, place, clean_assemble_names hnames]

/-- Once a path is absolute and clean it is read from no root. -/
theorem absolutize_absolutize {root : Text} (absolute : isAbsolute root = true) (p : Text) :
    absolutize root (absolutize root p) = absolutize root p := by
  rw [absolutize_eq root (absolutize root p),
    join_of_isAbsolute (isAbsolute_absolutize absolute p), clean_absolutize absolute]

theorem identity_absolutize {root : Text} (absolute : isAbsolute root = true) (p : Text) :
    identity root (absolutize root p) = identity root p := by
  rw [identity, identity, absolutize_absolutize absolute]

/-- Both lists are what they begin with together, and what is left of each. -/
theorem dropCommon_append (as bs : List Component) :
    ∃ common, as = common ++ (dropCommon as bs).1 ∧ bs = common ++ (dropCommon as bs).2 := by
  induction as generalizing bs with
  | nil => exact ⟨[], rfl, rfl⟩
  | cons a as ih =>
    cases bs with
    | nil => exact ⟨[], rfl, rfl⟩
    | cons b bs =>
      unfold dropCommon
      split
      · rename_i same
        obtain ⟨common, ha, hb⟩ := ih bs
        exact ⟨a :: common, congrArg (a :: ·) ha, by rw [same]; exact congrArg (b :: ·) hb⟩
      · exact ⟨[], rfl, rfl⟩

/-- The steps that lead from one place below the root to another. -/
def ways (here there : List Component) : List Component :=
  let (up, down) := dropCommon here there
  up.map (fun _ => Component.parent) ++ down

theorem isPiece_of_mem_ways {here there : List Component} (pieces : ∀ c ∈ there, IsPiece c) :
    ∀ c ∈ ways here there, IsPiece c := by
  intro c hc
  obtain ⟨common, -, split⟩ := dropCommon_append here there
  rcases List.mem_append.mp hc with up | down
  · obtain ⟨d, -, rfl⟩ := List.mem_map.mp up
    exact Component.isPiece_parent
  · exact pieces c (split ▸ List.mem_append_right common down)

/-- As many `..` as there are names behind `common` lead back there, and from there on down. -/
theorem reduce_back {common up down : List Component} (hcommon : ∀ c ∈ common, IsName c)
    (hup : ∀ c ∈ up, IsName c) (hdown : ∀ c ∈ down, IsName c) :
    reduce (.root :: (common ++ up ++ (up.map (fun _ => Component.parent) ++ down))) =
      .root :: (common ++ down) := by
  have back : (up.map fun _ => Component.parent).foldl walk
      (up.reverse ++ (common.reverse ++ [.root])) = common.reverse ++ [.root] := by
    have upward : ∀ c ∈ up.reverse, IsName c := fun c hc => hup c (List.mem_reverse.mp hc)
    have turned := foldl_walk_parents upward (common.reverse ++ [.root])
    rwa [List.map_const', List.length_reverse, ← List.map_const'] at turned
  have first : (Component.root ::
      (common ++ up ++ (up.map (fun _ => Component.parent) ++ down))).foldl walk [] =
        down.reverse ++ (common.reverse ++ [.root]) := by
    have start : walk [] Component.root = [.root] := rfl
    have reached :
        (common ++ up).foldl walk [.root] = up.reverse ++ (common.reverse ++ [.root]) := by
      rw [List.foldl_append, foldl_walk_names hcommon, foldl_walk_names hup]
    rw [List.foldl_cons, start, List.foldl_append, reached, List.foldl_append, back,
      foldl_walk_names hdown]
  rw [reduce, first]
  simp only [List.reverse_append, List.reverse_reverse, List.reverse_singleton,
    List.cons_append, List.nil_append]

/-- What is left of a walk goes on like the walk. -/
theorem reduce_append (as bs : List Component) :
    reduce (as ++ bs) = (bs.foldl walk (reduce as).reverse).reverse := by
  rw [reduce, List.foldl_append, reduce, List.reverse_reverse]

/-- A path that leads back up and then down again leads there, whichever path leads to the place
that it is seen from. -/
theorem clean_join_back {a p : Text} {common up down : List Component}
    (absolute : isAbsolute a = true) (reduced : reduce (components a) = .root :: (common ++ up))
    (hcommon : ∀ c ∈ common, IsName c) (hup : ∀ c ∈ up, IsName c) (hdown : ∀ c ∈ down, IsName c)
    (relative : isAbsolute p = false)
    (along : steps p = up.map (fun _ => Component.parent) ++ down) :
    clean (join a p) = assemble (.root :: (common ++ down)) := by
  have joined : components (join a p) =
      components a ++ (up.map (fun _ => Component.parent) ++ down) := by
    rw [components_of_isAbsolute (isAbsolute_join absolute p), steps_join a relative, along,
      components_of_isAbsolute absolute, List.cons_append]
  have hhere : ∀ c ∈ common ++ up, IsName c := by
    intro c member
    rcases List.mem_append.mp member with first | more
    · exact hcommon c first
    · exact hup c more
  have ends := reduce_back hcommon hup hdown
  rw [← List.cons_append, reduce_append, reduce_root_names hhere] at ends
  rw [clean, joined, reduce_append, reduced, ends]

/-- Walking on from a place along the way to another ends at the other, whichever path leads to the
place and whichever path is taken along the way. -/
theorem clean_join_ways {a p : Text} {here there : List Component}
    (absolute : isAbsolute a = true) (reduced : reduce (components a) = .root :: here)
    (hhere : ∀ c ∈ here, IsName c) (hthere : ∀ c ∈ there, IsName c)
    (relative : isAbsolute p = false) (along : steps p = ways here there) :
    clean (join a p) = assemble (.root :: there) := by
  obtain ⟨common, here_eq, there_eq⟩ := dropCommon_append here there
  have within : ∀ c ∈ common, IsName c := fun c hc => hhere c (by rw [here_eq]; simp [hc])
  rw [there_eq]
  rw [here_eq] at reduced
  exact clean_join_back absolute reduced within
    (fun c hc => hhere c (here_eq ▸ List.mem_append_right common hc))
    (fun c hc => hthere c (there_eq ▸ List.mem_append_right common hc)) relative along

/-- A relative path between two places takes the steps of the way, and is `.` where there are
none. -/
theorem relative_eq {a b : Text} {here there : List Component}
    (hhere : ∀ c ∈ here, IsName c) (hthere : ∀ c ∈ there, IsName c)
    (from_eq : clean a = assemble (.root :: here)) (to_eq : clean b = assemble (.root :: there)) :
    relative a b =
      if (assemble (ways here there)).isEmpty then ['.'] else assemble (ways here there) := by
  simp only [relative, from_eq, to_eq, components_assemble_names hhere,
    components_assemble_names hthere, dropCommon, if_true]
  rfl

/-- The components of a relative path are the steps of the way, and a single `.` stands for none. -/
theorem components_relative {a b : Text} {here there : List Component}
    (hhere : ∀ c ∈ here, IsName c) (hthere : ∀ c ∈ there, IsName c)
    (from_eq : clean a = assemble (.root :: here)) (to_eq : clean b = assemble (.root :: there)) :
    ways here there = [] ∧ components (relative a b) = [.current] ∨
      components (relative a b) = ways here there := by
  have pieces : ∀ c ∈ ways here there, IsPiece c :=
    isPiece_of_mem_ways fun c hc => (hthere c hc).1
  have parts := components_assemble pieces
  rw [relative_eq hhere hthere from_eq to_eq]
  split
  · rename_i empty
    refine Or.inl ⟨?_, rfl⟩
    rw [← parts, List.isEmpty_iff.mp empty]
    rfl
  · exact Or.inr parts

/-- A relative path between two places is written with the steps of the way. -/
theorem slashed_relative {a b : Text} {here there : List Component}
    (hhere : ∀ c ∈ here, IsName c) (hthere : ∀ c ∈ there, IsName c)
    (from_eq : clean a = assemble (.root :: here)) (to_eq : clean b = assemble (.root :: there)) :
    let p := slashed (relative a b)
    isAbsolute p = false ∧ steps p = ways here there := by
  have pieces : ∀ c ∈ ways here there, IsPiece c :=
    isPiece_of_mem_ways fun c hc => (hthere c hc).1
  unfold slashed
  rcases components_relative hhere hthere from_eq to_eq with ⟨none, single⟩ | parts
  · rw [single, none]
    exact ⟨rfl, rfl⟩
  · rw [parts]
    exact ⟨isAbsolute_slashes pieces, steps_slashes pieces⟩

/-- An identity is relative, and leads from the root to the place of its path. -/
theorem absolutize_identity {root : Text} (absolute : isAbsolute root = true) (p : Text) :
    isAbsolute (identity root p) = false ∧
      absolutize root (identity root p) = absolutize root p := by
  obtain ⟨here, reduced, hhere, root_eq⟩ := clean_eq_assemble absolute
  obtain ⟨there, -, hthere, place_eq⟩ := clean_eq_assemble (isAbsolute_join absolute p)
  rw [← absolutize_eq] at place_eq
  have place_clean := (clean_absolutize absolute p).trans place_eq
  obtain ⟨relative, along⟩ := slashed_relative hhere hthere root_eq place_clean
  refine ⟨relative, ?_⟩
  rw [absolutize_eq, place_eq]
  exact clean_join_ways absolute reduced hhere hthere relative along

/-- Texts have the same identity exactly when they lead from the root to the same place, and the
identity leads back to it. -/
theorem identity_faithful {root : Text} (absolute : isAbsolute root = true) (p q : Text) :
    (identity root p = identity root q ↔ absolutize root p = absolutize root q) ∧
      isAbsolute (identity root p) = false ∧
      absolutize root (identity root p) = absolutize root p ∧
      identity root (identity root p) = identity root p := by
  obtain ⟨relative, back⟩ := absolutize_identity absolute p
  have backq := (absolutize_identity absolute q).2
  have same {a b : Text} (h : absolutize root a = absolutize root b) :
      identity root a = identity root b := by
    rw [identity, identity, h]
  refine ⟨⟨?_, same⟩, relative, back, same back⟩
  intro h
  rw [← back, h, backq]

end LiveMarkup.Path
