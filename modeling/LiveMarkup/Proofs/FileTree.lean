import LiveMarkup.FileTree
import LiveMarkup.Proofs.Path.Ancestors

/-!
What following a path asks of a tree of files. Each piece asks what is at the place that is reached
and at most what is at the next one, so two trees differ about a path only if they differ at a place
on the way.

* `step_ok`, `step_mono`: one piece, and what it takes to follow it;
* `follow_filterMap`: a path is followed along its steps;
* `follow_congr`, `follow_mono`: what two trees have to share;
* `follow_of_lookup_eq`, `lookup_congr`: the same for whole paths.
-/

namespace LiveMarkup

theorem Text.byteLength_mono {s t : Text} (h : s <+: t) :
    Text.byteLength s ≤ Text.byteLength t := by
  have grows (t : Text) (n : Nat) : n ≤ t.foldl (fun n c => n + c.utf8Size) n := by
    induction t generalizing n with
    | nil => exact Nat.le_refl n
    | cons c t ih => exact Nat.le_trans (Nat.le_add_right n c.utf8Size) (ih _)
  obtain ⟨rest, rfl⟩ := h
  rw [Text.byteLength, Text.byteLength, List.foldl_append]
  exact grows rest _

/-- The pieces of a path that stand for its steps. -/
def Path.pieces (p : Text) : List Text :=
  (Path.steps p).map Component.text

namespace FileTree

open LiveMarkup.Path (segments pieces Stripped)
open Component (IsPiece)

variable {files files' : FileTree} {place next : List Text} {s : Text}

/-! ### One piece -/

theorem leaveFault?_eq_none :
    files.leaveFault? place = none ↔ files.at? place = some .directory := by
  unfold leaveFault?
  constructor
  · intro free
    split at free
    · assumption
    · cases free
    · cases free
  · intro directory
    rw [directory]

/-- A place can be looked at if something is there that is no stray link. -/
theorem reachFault?_eq_none : files.reachFault? place = none ↔
    ∃ entry, files.at? place = some entry ∧ ∀ fault, entry ≠ .astray fault := by
  unfold reachFault?
  constructor
  · intro free
    split at free
    · cases free
    · cases free
    · rename_i entry other there
      exact ⟨entry, there, other⟩
  · rintro ⟨entry, there, other⟩
    rw [there]
    cases entry with
    | astray fault => exact absurd rfl (other fault)
    | _ => rfl

theorem follow_cons (files : FileTree) (place : List Text) (s : Text) (rest : List Text) :
    files.follow place (s :: rest) =
      (files.step place s).bind fun next => files.follow next rest :=
  rfl

theorem follow_append (files : FileTree) (place front rest : List Text) :
    files.follow place (front ++ rest) =
      (files.follow place front).bind fun next => files.follow next rest := by
  induction front generalizing place with
  | nil => rfl
  | cons s front ih =>
    rw [List.cons_append, follow_cons, follow_cons]
    cases files.step place s with
    | error fault => rfl
    | ok next => exact ih next

theorem follow_cons_ok {rest : List Text} (h : files.follow place (s :: rest) = .ok next) :
    ∃ here, files.step place s = .ok here ∧ files.follow here rest = .ok next := by
  rw [follow_cons] at h
  cases first : files.step place s with
  | error fault =>
    rw [first] at h
    cases h
  | ok here =>
    rw [first] at h
    exact ⟨here, rfl, h⟩

theorem follow_append_ok {front rest : List Text}
    (h : files.follow place (front ++ rest) = .ok next) :
    ∃ here, files.follow place front = .ok here ∧ files.follow here rest = .ok next := by
  induction front generalizing place with
  | nil => exact ⟨place, rfl, h⟩
  | cons s front ih =>
    obtain ⟨first, step, h⟩ := follow_cons_ok h
    obtain ⟨here, reached, h⟩ := ih h
    refine ⟨here, ?_, h⟩
    rw [follow_cons, step]
    exact reached

theorem step_congr (here : files'.at? place = files.at? place)
    (there : files'.at? (place ++ [s]) = files.at? (place ++ [s])) :
    files'.step place s = files.step place s := by
  rw [step, step, leaveFault?, leaveFault?, reachFault?, reachFault?, here, there]

/-- From a directory a piece leads to where it is, up, or to what is at the next place. -/
theorem step_of_directory (directory : files.at? place = some .directory) (s : Text) :
    files.step place s =
      if s = [] || s = ['.'] then .ok place
      else if s = ['.', '.'] then .ok place.dropLast
      else if nameLimit < Text.byteLength s then .error .nameTooLong
      else (files.reachFault? (place ++ [s])).elim (.ok (place ++ [s])) .error := by
  rw [step, leaveFault?_eq_none.mpr directory]
  cases files.reachFault? (place ++ [s]) <;> rfl

theorem directory_of_step (h : files.step place s = .ok next) :
    files.at? place = some .directory := by
  unfold step at h
  split at h
  · cases h
  · rename_i free
    exact leaveFault?_eq_none.mp free

/-- A piece leads up, or to what is at the next place. -/
theorem step_ok (h : files.step place s = .ok next) :
    files.at? place = some .directory ∧
      (next <+: place ∨ next = place ++ [s] ∧ files.reachFault? next = none) := by
  have directory := directory_of_step h
  rw [step_of_directory directory] at h
  refine ⟨directory, ?_⟩
  split_ifs at h with skip up long
  · cases h
    exact .inl List.prefix_rfl
  · cases h
    exact .inl (List.dropLast_prefix place)
  · cases there : files.reachFault? (place ++ [s]) with
    | some fault =>
      rw [there] at h
      cases h
    | none =>
      rw [there] at h
      cases h
      exact .inr ⟨rfl, there⟩

/-- A piece leads on in any tree that has what it needs. -/
theorem step_mono (h : files.step place s = .ok next)
    (here : files'.at? place = some .directory) (there : files'.reachFault? next = none) :
    files'.step place s = .ok next := by
  rw [step_of_directory (directory_of_step h)] at h
  rw [step_of_directory here]
  split_ifs at h ⊢ with skip up long
  · exact h
  · exact h
  · cases reached : files.reachFault? (place ++ [s]) with
    | some fault =>
      rw [reached] at h
      cases h
    | none =>
      rw [reached] at h
      cases h
      rw [there]
      rfl

/-- Where a piece leads, if it leads anywhere, is not up to the tree. -/
theorem step_unique {next' : List Text} (h : files.step place s = .ok next)
    (h' : files'.step place s = .ok next') : next' = next := by
  rw [step_of_directory (directory_of_step h)] at h
  rw [step_of_directory (directory_of_step h')] at h'
  split_ifs at h h'
  · exact (Except.ok.inj h').symm.trans (Except.ok.inj h)
  · exact (Except.ok.inj h').symm.trans (Except.ok.inj h)
  · cases reached : files.reachFault? (place ++ [s]) <;>
      cases reached' : files'.reachFault? (place ++ [s]) <;>
      simp only [reached, reached', Option.elim, reduceCtorEq, Except.ok.injEq] at h h'
    rw [← h, ← h']

theorem follow_unique {segs : List Text} (h : files.follow place segs = .ok next)
    {next' : List Text} (h' : files'.follow place segs = .ok next') : next' = next := by
  induction segs generalizing place with
  | nil => exact (Except.ok.inj h').symm.trans (Except.ok.inj h)
  | cons s rest ih =>
    obtain ⟨here, first, h⟩ := follow_cons_ok h
    obtain ⟨here', first', h'⟩ := follow_cons_ok h'
    rw [step_unique first first'] at h'
    exact ih h h'

/-! ### Pieces that lead nowhere -/

theorem follow_of_leaveFault {fault : FileFault} {segs : List Text}
    (stuck : files.leaveFault? place = some fault) (more : segs ≠ []) :
    files.follow place segs = .error fault := by
  cases segs with
  | nil => exact absurd rfl more
  | cons s rest =>
    have first : files.step place s = .error fault := by rw [step, stuck]
    rw [follow_cons, first]
    rfl

/-- In front of another piece, one that is empty or `.` can be left out. -/
theorem follow_filterMap (files : FileTree) (place segs : List Text) (s : Text) :
    files.follow place (segs ++ [s]) =
      files.follow place ((segs.filterMap Component.ofSegment?).map Component.text ++ [s]) := by
  induction segs generalizing place with
  | nil => rfl
  | cons t segs ih =>
    cases h : Component.ofSegment? t with
    | some c =>
      rw [List.filterMap_cons_some h, List.map_cons, Component.text_of_ofSegment? h,
        List.cons_append, List.cons_append, follow_cons, follow_cons]
      congr 1
      funext next
      exact ih next
    | none =>
      rw [List.filterMap_cons_none h, ← ih, List.cons_append, follow_cons]
      have skip : t = [] ∨ t = ['.'] := by
        by_contra both
        obtain ⟨full, other⟩ := not_or.mp both
        obtain ⟨c, known, -⟩ := Component.exists_ofSegment? full other
        rw [h] at known
        cases known
      cases stuck : files.leaveFault? place with
      | none =>
        rw [step_of_directory (leaveFault?_eq_none.mp stuck), if_pos (by simpa using skip)]
        rfl
      | some fault =>
        rw [step, stuck, follow_of_leaveFault stuck (by simp)]
        rfl

/-- Below a directory a piece is followed behind the steps that lead there. -/
theorem follow_join (files : FileTree) {d : Text} (full : d ≠ []) {c : Component}
    (piece : IsPiece c) :
    files.follow [] (segments (Path.join d c.text)) = files.follow [] (pieces d ++ [c.text]) := by
  obtain ⟨front, joined, base⟩ := Path.join_eq full (Path.isAbsolute_eq_false_of_isPiece piece)
  have same : Path.steps d = Path.steps front := by
    rcases base with same | slash
    · rw [same]
    · rw [slash, Path.steps_concat_slash]
  rw [joined, Path.segments_append_slash, Path.segments_of_not_mem piece.2, follow_filterMap,
    pieces, same, Path.steps]

/-- A path that ends in its last step is followed along its steps. -/
theorem follow_stripped (files : FileTree) {d : Text} (stripped : Stripped d) :
    files.follow [] (segments d) = files.follow [] (pieces d) := by
  cases stripped with
  | root => rfl
  | below _ piece =>
    rw [Path.segments_append_slash, Path.segments_of_not_mem piece.2, follow_filterMap, pieces,
      Path.steps_append_slash, Path.steps_text piece, List.map_append, Path.steps]
    rfl

/-! ### Two trees -/

/-- Two trees have the same at a place and at all places above it, to which `..` can lead back. -/
def Alike (files files' : FileTree) (place : List Text) : Prop :=
  ∀ above, above <+: place → files'.at? above = files.at? above

theorem Alike.step (alike : Alike files files' place)
    (there : files'.at? (place ++ [s]) = files.at? (place ++ [s]))
    (h : files.step place s = .ok next) : Alike files files' next := by
  intro above front
  rcases (step_ok h).2 with up | ⟨rfl, -⟩
  · exact alike above (front.trans up)
  · rcases List.prefix_concat_iff.mp front with rfl | front
    · exact there
    · exact alike above front

/-- Trees that are alike at the start, and at the places that are asked about, lead a path to the
same place, and are alike there. -/
theorem follow_congr {segs : List Text} (alike : Alike files files' place)
    (asked : ∀ front s, front ++ [s] <+: segs → ∀ here, files.follow place front = .ok here →
      files'.at? (here ++ [s]) = files.at? (here ++ [s])) :
    files'.follow place segs = files.follow place segs ∧
      ∀ next, files.follow place segs = .ok next → Alike files files' next := by
  induction segs generalizing place with
  | nil => exact ⟨rfl, fun next h => Except.ok.inj h ▸ alike⟩
  | cons s rest ih =>
    have there := asked [] s (by simp) place rfl
    have same := step_congr (alike place List.prefix_rfl) there
    rw [follow_cons, follow_cons, same]
    cases first : files.step place s with
    | error fault => exact ⟨rfl, fun next h => by cases h⟩
    | ok here =>
      refine ih (alike.step there first) ?_
      intro front t start next reached
      refine asked (s :: front) t (List.cons_prefix_cons.mpr ⟨rfl, start⟩) next ?_
      rw [follow_cons, first]
      exact reached

theorem directory_of_follow_cons {rest : List Text}
    (h : files.follow place (s :: rest) = .ok next) : files.at? place = some .directory := by
  obtain ⟨here, first, -⟩ := follow_cons_ok h
  exact directory_of_step first

/-- A path that leads to a directory does so in every tree that has all these directories. -/
theorem follow_mono {segs : List Text}
    (directories : ∀ place, files.at? place = some .directory →
      files'.at? place = some .directory)
    (h : files.follow place segs = .ok next) (ends : files.at? next = some .directory) :
    files'.follow place segs = .ok next := by
  induction segs generalizing place with
  | nil => exact h
  | cons s rest ih =>
    have start := directory_of_follow_cons h
    obtain ⟨here, first, h⟩ := follow_cons_ok h
    have there : files.at? here = some .directory := by
      cases rest with
      | nil => exact Except.ok.inj h ▸ ends
      | cons t rest => exact directory_of_follow_cons h
    have reached : files'.reachFault? here = none := by
      rw [reachFault?, directories here there]
    rw [follow_cons, step_mono first (directories place start) reached]
    exact ih h

/-- A place that exists with directories above it. -/
structure Stands (files : FileTree) (place : List Text) : Prop where
  here : (files.at? place).isSome
  above : ∀ front, front <+: place → front ≠ place → files.at? front = some .directory

theorem stands_root (files : FileTree) : Stands files [] where
  here := rfl
  above := fun _ front other => absurd (List.prefix_nil.mp front) other

theorem Stands.step (stands : Stands files place) (h : files.step place s = .ok next) :
    Stands files next := by
  obtain ⟨directory, up | ⟨rfl, there⟩⟩ := step_ok h
  · have all : ∀ front, front <+: place → files.at? front = some .directory := by
      intro front start
      by_cases whole : front = place
      · rw [whole, directory]
      · exact stands.above front start whole
    exact ⟨by rw [all next up]; rfl, fun front start _ => all front (start.trans up)⟩
  · obtain ⟨entry, here, -⟩ := reachFault?_eq_none.mp there
    refine ⟨by rw [here]; rfl, fun front start other => ?_⟩
    have start := (List.prefix_concat_iff.mp start).resolve_left other
    by_cases whole : front = place
    · rw [whole, directory]
    · exact stands.above front start whole

theorem Stands.follow {segs : List Text} (stands : Stands files place)
    (h : files.follow place segs = .ok next) : Stands files next := by
  induction segs generalizing place with
  | nil => exact Except.ok.inj h ▸ stands
  | cons s rest ih =>
    obtain ⟨here, first, h⟩ := follow_cons_ok h
    exact ih (stands.step first) h

/-- Two trees in which a place stands are alike there if they have the same at it. -/
theorem Stands.alike (stands : Stands files place) (stands' : Stands files' place)
    (same : files'.at? place = files.at? place) : Alike files files' place := by
  intro front start
  by_cases whole : front = place
  · rw [whole, same]
  · rw [stands.above front start whole, stands'.above front start whole]

/-! ### Whole paths -/

/-- A path that can be followed at all. -/
structure Followable (path : Text) : Prop where
  clear : path.contains '\x00' = false
  full : path ≠ []
  short : Text.byteLength path < pathLimit

theorem lookup_of_followable (files : FileTree) {path : Text} (h : Followable path) :
    files.lookup path =
      (files.follow [] (segments path)).map fun place => (files.at? place).getD .directory := by
  have full : path.isEmpty = false := by simpa using h.full
  simp only [lookup, h.clear, full, Bool.false_eq_true, if_false, Nat.not_le.mpr h.short]
  split <;> simp_all [Except.map]

theorem lookup_of_not_followable {path : Text} (h : ¬ Followable path) (files files' : FileTree) :
    files'.lookup path = files.lookup path := by
  unfold lookup
  split_ifs with nul full long
  · rfl
  · rfl
  · rfl
  · exact absurd ⟨by simpa using nul, by simpa using full, Nat.lt_of_not_le long⟩ h

theorem followable_of_lookup {path : Text} {entry : Entry} (h : files.lookup path = .ok entry) :
    Followable path := by
  unfold lookup at h
  split_ifs at h with nul full long
  exact ⟨by simpa using nul, by simpa using full, Nat.lt_of_not_le long⟩

theorem Followable.of_prefix {d path : Text} (h : Followable path) (full : d ≠ [])
    (start : d <+: path) : Followable d where
  clear := by
    have clear := h.clear
    simp only [List.contains_eq_mem, decide_eq_false_iff_not] at clear ⊢
    exact fun member => clear (start.subset member)
  full := full
  short := Nat.lt_of_le_of_lt (Text.byteLength_mono start) h.short

/-- Two trees in which a path leads to the same are led by it to no place, or to one where they are
alike. -/
theorem follow_of_lookup_eq {d : Text} (followable : Followable d)
    (same : files'.lookup d = files.lookup d) :
    (∃ fault, files.follow [] (segments d) = .error fault ∧
      files'.follow [] (segments d) = .error fault) ∨
    ∃ place, files.follow [] (segments d) = .ok place ∧
      files'.follow [] (segments d) = .ok place ∧ Alike files files' place := by
  rw [lookup_of_followable files followable, lookup_of_followable files' followable] at same
  cases h : files.follow [] (segments d) with
  | error fault =>
    cases h' : files'.follow [] (segments d) with
    | error fault' =>
      rw [h, h'] at same
      cases same
      exact .inl ⟨fault, rfl, rfl⟩
    | ok place' =>
      rw [h, h'] at same
      cases same
  | ok place =>
    cases h' : files'.follow [] (segments d) with
    | error fault' =>
      rw [h, h'] at same
      cases same
    | ok place' =>
      cases follow_unique h h'
      have stands := (stands_root files).follow h
      have stands' := (stands_root files').follow h'
      obtain ⟨entry, here⟩ := Option.isSome_iff_exists.mp stands.here
      obtain ⟨entry', here'⟩ := Option.isSome_iff_exists.mp stands'.here
      rw [h, h'] at same
      simp only [Except.map, here, here', Option.getD_some, Except.ok.injEq] at same
      exact .inr ⟨place, rfl, rfl, stands.alike stands' (by rw [here, here', same])⟩

theorem lookup_congr {path : Text}
    (same : files'.follow [] (segments path) = files.follow [] (segments path))
    (alike : ∀ place, files.follow [] (segments path) = .ok place → Alike files files' place) :
    files'.lookup path = files.lookup path := by
  by_cases h : Followable path
  · rw [lookup_of_followable files h, lookup_of_followable files' h, same]
    cases reached : files.follow [] (segments path) with
    | error fault => rfl
    | ok place =>
      simp only [Except.map, alike place reached place List.prefix_rfl]
  · exact lookup_of_not_followable h files files'

end FileTree
end LiveMarkup
