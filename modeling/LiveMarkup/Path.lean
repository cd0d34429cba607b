import LiveMarkup.Text

/-!
Lexical file paths: their components, cleaning, joining, the way from one directory to a file, and
the identity of a file, which is its path from the project root. Nothing here looks at files.

A path is a text here. A system has paths of other bytes too; `LiveMarkup.RawPath` has the same
rules for those, and shows them as texts.
-/

namespace LiveMarkup

/-- One step of a path. -/
inductive Component where
  | root
  | current
  | parent
  | name (text : Text)
  deriving DecidableEq, Repr

namespace Component

def text : Component → Text
  | root => ['/']
  | current => ['.']
  | parent => ['.', '.']
  | name t => t

/-- The step that a piece between two slashes stands for; an empty piece and `.` stand for none. -/
def ofSegment? : Text → Option Component
  | [] => none
  | ['.'] => none
  | ['.', '.'] => some parent
  | t => some (name t)

theorem ofSegment?_of_ne {s : Text} (full : s ≠ []) (here : s ≠ ['.']) (up : s ≠ ['.', '.']) :
    ofSegment? s = some (name s) := by
  unfold ofSegment?
  split
  · exact absurd rfl full
  · exact absurd rfl here
  · exact absurd rfl up
  · rfl

end Component

namespace Path

/-- The pieces of a path between its slashes. -/
def segments : Text → List Text
  | [] => [[]]
  | c :: r =>
    if c = '/' then [] :: segments r
    else match segments r with
      | [] => [[c]]
      | s :: ss => (c :: s) :: ss

theorem segments_slash (r : Text) : segments ('/' :: r) = [] :: segments r :=
  if_pos rfl

theorem segments_of_ne {c : Char} (other : c ≠ '/') {r s : Text} {ss : List Text}
    (rest : segments r = s :: ss) : segments (c :: r) = (c :: s) :: ss :=
  (if_neg other).trans (by rw [rest])

theorem exists_segments (p : Text) : ∃ s ss, segments p = s :: ss := by
  induction p with
  | nil => exact ⟨[], [], rfl⟩
  | cons c p ih =>
    obtain ⟨s, ss, rest⟩ := ih
    by_cases slash : c = '/'
    · exact ⟨_, _, slash ▸ segments_slash p⟩
    · exact ⟨_, _, segments_of_ne slash rest⟩

def isAbsolute : Text → Bool
  | '/' :: _ => true
  | _ => false

/-- A leading `.` is a component of a relative path; any other `.` is none. -/
def components (p : Text) : List Component :=
  if isAbsolute p then .root :: (segments p).filterMap Component.ofSegment?
  else match segments p with
    | ['.'] :: rest => .current :: rest.filterMap Component.ofSegment?
    | all => all.filterMap Component.ofSegment?

/-- `p` as seen from `base`; an absolute path replaces the base. -/
def join (base p : Text) : Text :=
  if isAbsolute p then p
  else if base.isEmpty || base.getLast? == some '/' then base ++ p
  else base ++ '/' :: p

/-- The path that visits the given components one after the other. -/
def assemble (cs : List Component) : Text :=
  cs.foldl (fun p c => join p c.text) []

/-- One step on a path that is kept with its last component first: `..` takes back a name, is
absorbed by the root, and stays where neither is in front of it. -/
def walk (visited : List Component) : Component → List Component
  | .current => visited
  | .parent =>
    match visited with
    | .name _ :: rest => rest
    | .root :: _ => visited
    | _ => .parent :: visited
  | c => c :: visited

/-- The components that are left once `.` and `..` are resolved. -/
def reduce (cs : List Component) : List Component :=
  (cs.foldl walk []).reverse

def clean (p : Text) : Text :=
  assemble (reduce (components p))

/-- The clean form of a path that is read from `root` unless it is absolute. -/
def absolutize (root p : Text) : Text :=
  if isAbsolute p then clean p else clean (join root p)

/-- Two lists without what both begin with. -/
def dropCommon : List Component → List Component → List Component × List Component
  | a :: as, b :: bs => if a = b then dropCommon as bs else (a :: as, b :: bs)
  | as, bs => (as, bs)

/-- The path that leads from a directory to `target`. -/
def relative (directory target : Text) : Text :=
  let (up, down) := dropCommon (components (clean directory)) (components (clean target))
  let p := assemble (up.map (fun _ => Component.parent) ++ down)
  if p.isEmpty then ['.'] else p

/-- The components with a slash between each two. Names that are no text are not shown as they are,
see `RawPath.slashed`. -/
def slashed (p : Text) : Text :=
  List.intercalate ['/'] ((components p).map Component.text)

/-- The identity of a file: its clean path from `root`, whichever way the path is spelled. That of a
path that is no text is `RawPath.identity`. -/
def identity (root p : Text) : Text :=
  slashed (relative root (absolutize root p))

/-- A path, last character first, without the slashes and `.` pieces that end it. -/
def dropTail : Text → Text
  | ['/'] => ['/']
  | '/' :: r => dropTail r
  | '.' :: '/' :: r => dropTail ('/' :: r)
  | r => r
  termination_by r => r.length

theorem dropTail_slash {r : Text} (more : r ≠ []) : dropTail ('/' :: r) = dropTail r := by
  cases r with
  | nil => exact absurd rfl more
  | cons c r => rw [dropTail]; simp

theorem length_dropTail_le (r : Text) : (dropTail r).length ≤ r.length := by
  fun_induction dropTail r with
  | case1 => simp
  | case2 r _ ih => simp only [List.length_cons]; omega
  | case3 r ih => simp only [List.length_cons] at ih ⊢; omega
  | case4 => simp

/-- The path without its last component, as it is written; the root and the empty path have none. -/
def parent? (p : Text) : Option Text :=
  match dropTail p.reverse with
  | [] => none
  | ['/'] => none
  | _ :: r => some (dropTail (r.dropWhile (· ≠ '/'))).reverse

theorem length_lt_of_parent? {p q : Text} (h : parent? p = some q) : q.length < p.length := by
  have hp := length_dropTail_le p.reverse
  rw [List.length_reverse] at hp
  unfold parent? at h
  split at h
  · simp at h
  · simp at h
  · rename_i c r _ hr
    rw [hr] at hp
    simp only [Option.some.injEq] at h
    subst h
    have h₁ := length_dropTail_le (r.dropWhile (· ≠ '/'))
    have h₂ := (List.dropWhile_sublist (l := r) (· ≠ '/')).length_le
    simp only [List.length_reverse, List.length_cons] at *
    omega

/-- The path, its parent, the parent of that, and so on. -/
def ancestors (p : Text) : List Text :=
  match _h : parent? p with
  | none => [p]
  | some q => p :: ancestors q
  termination_by p.length
  decreasing_by exact length_lt_of_parent? _h

end Path
end LiveMarkup
