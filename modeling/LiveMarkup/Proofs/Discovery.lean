import LiveMarkup.Discovery
import LiveMarkup.Proofs.FileTree

/-!
The nearest manifest alone decides about a file. The directories above the file are asked from the
one it lies in up to the root; the first that has a manifest is the last that is asked, so what the
others hold makes no difference.

* `nearest_append`, `load_eq`: which manifest is read, and for which directory;
* `basedir_of_ofDirectory`: the directory from which it names its stages;
* `lookup_congr_of_between`, `nearest_decided`: why other manifests make no difference;
* `discover_by_nearest`: the rules together.
-/

namespace LiveMarkup.FileConfig

open LiveMarkup.Path (Stripped Between)

variable {σ : Type} {files files' : FileTree} {dirs near above : List Text} {d file : Text}

/-- The path of the manifest of a directory. -/
def manifestIn (directory : Text) : Text :=
  Path.join directory Manifest.fileName

/-- What the manifest of a directory says, or what is wrong with it. -/
def ofDirectory (files : FileTree) (directory : Text) : Except Failure (FileConfig σ) :=
  match files.read (manifestIn directory) with
  | .error fault => .error (.config (.unreadable (manifestIn directory) fault))
  | .ok text =>
    match ofYaml text (some directory) with
    | .error fault => .error (.config fault)
    | .ok config => .ok config

/-- The second tree differs from the first in manifests alone, and in none of those that the given
directories have. -/
def SameBesides (files files' : FileTree) (dirs : List Text) : Prop :=
  ∀ place, files'.at? place ≠ files.at? place →
    ∃ directory, place = directory ++ [Manifest.fileName] ∧
      ∀ a ∈ dirs, files.follow [] (Path.segments a) ≠ .ok directory

/-- A manifest may be added in a directory to which none of the given ones leads. -/
theorem sameBesides_concat {directory : List Text} (entry : Entry)
    (spared : ∀ a ∈ dirs, files.follow [] (Path.segments a) ≠ .ok directory) :
    SameBesides files ⟨files.entries ++ [(directory ++ [Manifest.fileName], entry)]⟩ dirs := by
  intro place changed
  by_cases there : place = directory ++ [Manifest.fileName]
  · exact ⟨directory, there, spared⟩
  · refine absurd ?_ changed
    have other : (directory ++ [Manifest.fileName] == place) = false := by
      simpa using Ne.symm there
    simp only [FileTree.at?, List.find?_append, List.find?_singleton, other]
    simp

/-! ### Which manifest is read -/

theorem isPiece_fileName : Component.IsPiece (.name Manifest.fileName) :=
  ⟨rfl, by decide⟩

theorem isPrefix_manifestIn (full : d ≠ []) : d <+: manifestIn d := by
  obtain ⟨front, joined, base⟩ :=
    Path.join_eq full (Path.isAbsolute_eq_false_of_isPiece isPiece_fileName)
  have written : manifestIn d = front ++ '/' :: Manifest.fileName := joined
  rw [written]
  rcases base with rfl | rfl
  · exact List.prefix_append _ _
  · exact ⟨Manifest.fileName, by simp⟩

theorem follow_manifestIn (files : FileTree) (stripped : Stripped d) :
    files.follow [] (Path.segments (manifestIn d)) =
      files.follow [] (Path.pieces d ++ [Manifest.fileName]) :=
  FileTree.follow_join files stripped.ne_nil isPiece_fileName

/-- A manifest is loaded for the directory it was found in. -/
theorem load_eq (stripped : Stripped d) :
    load (σ := σ) files (manifestIn d) = ofDirectory files d := by
  have directory : Path.parent? (manifestIn d) = some d := stripped.parent?_join isPiece_fileName
  cases written : files.read (manifestIn d) with
  | error fault => simp only [load, ofDirectory, written]
  | ok text =>
    cases read : ofYaml (σ := σ) text (some d) with
    | error fault => simp only [load, ofDirectory, written, directory, read]
    | ok config => simp only [load, ofDirectory, written, directory, read]

theorem nearest_cons (files : FileTree) (d : Text) (above : List Text) :
    nearest (σ := σ) files (d :: above) =
      match files.holds (manifestIn d) with
      | .error fault => .error (.io fault)
      | .ok true => load files (manifestIn d)
      | .ok false => nearest files above := rfl

/-- Directories without a manifest are passed. -/
theorem nearest_append (none : ∀ a ∈ near, files.holds (manifestIn a) = .ok false)
    (rest : List Text) : nearest (σ := σ) files (near ++ rest) = nearest files rest := by
  induction near with
  | nil => rfl
  | cons a near ih =>
    rw [List.cons_append, nearest_cons, none a List.mem_cons_self]
    exact ih fun b member => none b (List.mem_cons_of_mem a member)

theorem nearest_cons_error {fault : FileFault}
    (h : files.holds (manifestIn d) = .error fault) :
    nearest (σ := σ) files (d :: above) = .error (.io fault) := by
  rw [nearest_cons, h]

theorem nearest_cons_true (stripped : Stripped d) (h : files.holds (manifestIn d) = .ok true) :
    nearest (σ := σ) files (d :: above) = ofDirectory files d := by
  rw [nearest_cons, h]
  exact load_eq stripped

theorem basedir_of_ofManifest {m : Manifest} {directory : Option Text} {config : FileConfig σ}
    (h : ofManifest m directory = .ok config) :
    config.basedir = placeBasedir m.basedir directory := by
  unfold ofManifest at h
  split at h
  · cases h; rfl
  · split at h
    · cases h; rfl
    · cases h

/-- The stages of a manifest are named from its directory, or from the one that it gives, which is
seen from there. -/
theorem basedir_of_ofDirectory {config : FileConfig σ} (h : ofDirectory files d = .ok config) :
    ∃ text m, files.read (manifestIn d) = .ok text ∧ Manifest.ofYaml? text = some m ∧
      (m.basedir = none → config.basedir = some d) ∧
      ∀ b, m.basedir = some b →
        config.basedir = some (if Path.isAbsolute b then b else Path.join d b) := by
  unfold ofDirectory at h
  split at h
  · cases h
  · rename_i text written
    split at h
    · cases h
    · rename_i config' read
      cases h
      unfold ofYaml at read
      split at read
      · rename_i m parsed
        have placed := basedir_of_ofManifest read
        refine ⟨text, m, written, parsed, ?_, ?_⟩
        · intro absent
          rw [placed, absent]
          rfl
        · intro b given
          rw [placed, given, placeBasedir]
          split
          · rename_i absolute
            rw [Path.join_of_isAbsolute absolute]
          · rfl
      · cases read

/-! ### What other manifests leave as it is -/

variable {a : Text}

/-- On the way from `d` to the manifest of a directory below it there is no other manifest but those
of the directories that lead there. -/
theorem at?_congr_of_between (stripped : ∀ b ∈ dirs, Stripped b)
    (same : SameBesides files files' dirs) {way : List Component} {front : List Text} {s : Text}
    {here : List Text}
    (between : ∀ front, front <+: way → ∃ b ∈ dirs, Path.steps b = Path.steps d ++ front)
    (start : front ++ [s] <+: way.map Component.text ++ [Manifest.fileName])
    (reached : files.follow [] (Path.pieces d ++ front) = .ok here) :
    files'.at? (here ++ [s]) = files.at? (here ++ [s]) := by
  by_contra changed
  obtain ⟨directory, place, spared⟩ := same _ changed
  obtain ⟨rfl, -⟩ := List.append_inj' place rfl
  have inside : front <+: way.map Component.text := by
    rcases List.prefix_concat_iff.mp start with whole | inside
    · exact (List.append_inj' whole rfl).1 ▸ List.prefix_rfl
    · exact (List.prefix_append front [s]).trans inside
  obtain ⟨steps, first, rfl⟩ := List.prefix_map_iff.mp inside
  obtain ⟨b, member, split⟩ := between steps first
  refine spared b member ?_
  rw [FileTree.follow_stripped files (stripped b member), Path.pieces, split, List.map_append]
  exact reached

/-- A directory that is the same in two trees leads on to the same manifests. -/
theorem lookup_congr_of_between (stripped : ∀ b ∈ dirs, Stripped b)
    (same : SameBesides files files' dirs) (member : d ∈ dirs) (below : a ∈ dirs)
    (start : d <+: a) (between : Between dirs d a) (kept : files'.lookup d = files.lookup d) :
    files'.lookup (manifestIn a) = files.lookup (manifestIn a) := by
  by_cases followable : FileTree.Followable (manifestIn a)
  · obtain ⟨way, split, between⟩ := between
    have path (files : FileTree) : files.follow [] (Path.segments (manifestIn a)) =
        (files.follow [] (Path.segments d)).bind fun place =>
          files.follow place (way.map Component.text ++ [Manifest.fileName]) := by
      rw [follow_manifestIn files (stripped a below), Path.pieces, split, List.map_append,
        List.append_assoc, FileTree.follow_append,
        FileTree.follow_stripped files (stripped d member), Path.pieces]
    have here : FileTree.Followable d := followable.of_prefix (stripped d member).ne_nil
      (start.trans (isPrefix_manifestIn (stripped a below).ne_nil))
    suffices both : _ ∧ _ from FileTree.lookup_congr both.1 both.2
    rw [path files, path files']
    rcases FileTree.follow_of_lookup_eq here kept with ⟨fault, h, h'⟩ | ⟨place, h, h', alike⟩
    · rw [h, h']
      exact ⟨rfl, fun next reached => by cases reached⟩
    · rw [h, h']
      refine FileTree.follow_congr alike ?_
      intro front s start next reached
      refine at?_congr_of_between stripped same between start ?_
      rw [FileTree.follow_append, ← FileTree.follow_stripped files (stripped d member), h]
      exact reached
  · exact FileTree.lookup_of_not_followable followable files files'

/-- A directory that has a manifest is still one in a tree that has all these directories. -/
theorem lookup_of_directories (stripped : Stripped d)
    (found : files.holds (manifestIn d) = .ok true)
    (directories : ∀ place, files.at? place = some .directory →
      files'.at? place = some .directory) :
    files'.lookup d = files.lookup d := by
  obtain ⟨entry, written⟩ : ∃ entry, files.lookup (manifestIn d) = .ok entry := by
    unfold FileTree.holds at found
    split at found
    · rename_i entry written
      exact ⟨entry, written⟩
    · cases found
    · cases found
  have followable := FileTree.followable_of_lookup written
  have here := followable.of_prefix stripped.ne_nil (isPrefix_manifestIn stripped.ne_nil)
  rw [FileTree.lookup_of_followable files followable, follow_manifestIn files stripped] at written
  rw [FileTree.lookup_of_followable files here, FileTree.lookup_of_followable files' here,
    FileTree.follow_stripped files stripped, FileTree.follow_stripped files' stripped]
  cases ends : files.follow [] (Path.pieces d ++ [Manifest.fileName]) with
  | error fault =>
    rw [ends] at written
    cases written
  | ok last =>
    obtain ⟨place, reached, behind⟩ := FileTree.follow_append_ok ends
    have directory := FileTree.directory_of_follow_cons behind
    rw [FileTree.follow_mono directories reached directory, reached, Except.map, Except.map,
      directory, directories place directory]

/-- Directories whose manifests are the same give the same configuration. -/
theorem nearest_congr
    (same : ∀ a ∈ dirs, files'.lookup (manifestIn a) = files.lookup (manifestIn a)) :
    nearest (σ := σ) files' dirs = nearest files dirs := by
  induction dirs with
  | nil => rfl
  | cons a dirs ih =>
    have here := same a List.mem_cons_self
    have rest := ih fun b member => same b (List.mem_cons_of_mem a member)
    rw [nearest_cons, nearest_cons, rest, FileTree.holds, FileTree.holds, load, load,
      FileTree.read, FileTree.read, here]

/-- What is above a directory that has a manifest, or that cannot be asked for one, is not asked. -/
theorem nearest_decided (decides : files.holds (manifestIn d) ≠ .ok false)
    (near above : List Text) :
    nearest (σ := σ) files (near ++ d :: above) = nearest files (near ++ [d]) := by
  induction near with
  | nil =>
    rw [List.nil_append, List.nil_append, nearest_cons, nearest_cons]
    cases h : files.holds (manifestIn d) with
    | error fault => rfl
    | ok found =>
      cases found with
      | false => exact absurd h decides
      | true => rfl
  | cons a near ih => rw [List.cons_append, List.cons_append, nearest_cons, nearest_cons, ih]

/-! ### The directories above a file -/

/-- The directories of a file are those of the one it lies in. -/
theorem searchPath_cases (absolute : Path.isAbsolute file = true) :
    searchPath file = [] ∧ Path.parent? file = none ∨
      ∃ q, Stripped q ∧ Path.parent? file = some q ∧ searchPath file = Path.ancestors q := by
  rcases Path.parent?_cases absolute with ⟨none, -⟩ | ⟨q, c, some, stripped, -⟩
  · exact .inl ⟨by rw [searchPath, none], none⟩
  · exact .inr ⟨q, stripped, some, by rw [searchPath, some]⟩

theorem searchPath_upward (absolute : Path.isAbsolute file = true) :
    (searchPath file).head? = Path.parent? file ∧
      (searchPath file).IsChain (fun a b => Path.parent? a = some b) ∧
      ∀ last ∈ (searchPath file).getLast?, last = ['/'] := by
  rcases searchPath_cases absolute with ⟨none, parent⟩ | ⟨q, stripped, parent, path⟩
  · rw [none, parent]
    exact ⟨rfl, .nil, by simp⟩
  · obtain ⟨above, first⟩ := Path.exists_ancestors_eq_cons q
    obtain ⟨near, root⟩ := stripped.exists_ancestors_eq
    refine ⟨by rw [path, parent, first]; rfl, path ▸ Path.isChain_ancestors q, ?_⟩
    intro last member
    rw [path, root, List.getLast?_concat] at member
    exact (Option.some.inj member).symm

theorem between_searchPath (absolute : Path.isAbsolute file = true)
    (split : searchPath file = near ++ d :: above) :
    ∀ a ∈ near ++ [d], Stripped a ∧ d <+: a ∧ Between (near ++ [d]) d a := by
  rcases searchPath_cases absolute with ⟨none, -⟩ | ⟨q, stripped, -, path⟩
  · rw [none] at split
    simp at split
  · exact stripped.between_ancestors (path ▸ split)

/-- The manifests up to `d` are the same if only others differ. -/
theorem lookup_manifestIn_congr (absolute : Path.isAbsolute file = true)
    (split : searchPath file = near ++ d :: above)
    (same : SameBesides files files' (near ++ [d])) (kept : files'.lookup d = files.lookup d) :
    ∀ a ∈ near ++ [d], files'.lookup (manifestIn a) = files.lookup (manifestIn a) := by
  have chain := between_searchPath absolute split
  intro a below
  obtain ⟨-, start, between⟩ := chain a below
  exact lookup_congr_of_between (fun b member => (chain b member).1) same (by simp) below start
    between kept

theorem discover_congr (absolute : Path.isAbsolute file = true)
    (split : searchPath file = near ++ d :: above)
    (decides : files.holds (manifestIn d) ≠ .ok false)
    (same : SameBesides files files' (near ++ [d])) (kept : files'.lookup d = files.lookup d) :
    discover (σ := σ) files' file = discover files file := by
  have agree := lookup_manifestIn_congr absolute split same kept
  have decides' : files'.holds (manifestIn d) ≠ .ok false := by
    rw [FileTree.holds, agree d (by simp)]
    exact decides
  rw [discover, discover, split, nearest_decided decides, nearest_decided decides',
    nearest_congr agree]

/-- If no manifest of the chain differs, the last of its directories can stand for `d`: it is the
root, which is there in every tree. -/
theorem discover_congr_all (absolute : Path.isAbsolute file = true)
    (same : SameBesides files files' (searchPath file)) :
    discover (σ := σ) files' file = discover files file := by
  rcases searchPath_cases absolute with ⟨none, -⟩ | ⟨q, stripped, -, path⟩
  · rw [discover, discover, none]
    rfl
  · obtain ⟨near, root⟩ := stripped.exists_ancestors_eq
    rw [← path] at root
    rw [root] at same
    rw [discover, discover, root, nearest_congr (lookup_manifestIn_congr absolute root same rfl)]

/-- The manifest of the nearest directory that has one decides alone. The directories above a file
are asked in turn, from the one it lies in up to the root. The first that has a manifest gives the
configuration, or the reason why there is none; a question that fails before is this reason; and if
none has one all is left open. Other manifests make no difference, whatever becomes of them, as long
as `d` is what it was: a directory on the way to `d` can have the name of a manifest too, and `d` is
gone if a file takes its place. -/
theorem discover_by_nearest (files : FileTree) {file : Text}
    (absolute : Path.isAbsolute file = true) :
    ((searchPath file).head? = Path.parent? file ∧
      (searchPath file).IsChain (fun a b => Path.parent? a = some b) ∧
      ∀ last ∈ (searchPath file).getLast?, last = ['/']) ∧
    (∀ near d above, searchPath file = near ++ d :: above →
      (∀ a ∈ near, files.holds (manifestIn a) = .ok false) →
      (∀ fault, files.holds (manifestIn d) = .error fault →
        discover (σ := σ) files file = .error (.io fault)) ∧
      (files.holds (manifestIn d) = .ok true →
        discover (σ := σ) files file = ofDirectory files d ∧
        (∀ config : FileConfig σ, discover files file = .ok config →
          ∃ text m, files.read (manifestIn d) = .ok text ∧ Manifest.ofYaml? text = some m ∧
            (m.basedir = none → config.basedir = some d) ∧
            ∀ b, m.basedir = some b →
              config.basedir = some (if Path.isAbsolute b then b else Path.join d b)) ∧
        ∀ files', SameBesides files files' (near ++ [d]) →
          (files'.lookup d = files.lookup d →
            discover (σ := σ) files' file = discover files file) ∧
          ((∀ place, files.at? place = some .directory → files'.at? place = some .directory) →
            files'.lookup d = files.lookup d))) ∧
    ((∀ a ∈ searchPath file, files.holds (manifestIn a) = .ok false) →
      discover (σ := σ) files file = .ok {}) ∧
    ∀ files', SameBesides files files' (searchPath file) →
      discover (σ := σ) files' file = discover files file := by
  refine ⟨searchPath_upward absolute, ?_, ?_, fun files' same => discover_congr_all absolute same⟩
  · intro near d above split none
    have reached : discover (σ := σ) files file = nearest files (d :: above) := by
      rw [discover, split, nearest_append none]
    refine ⟨fun fault failed => reached.trans (nearest_cons_error failed), fun found => ?_⟩
    have stripped := (between_searchPath absolute split d (by simp)).1
    have loaded : discover (σ := σ) files file = ofDirectory files d :=
      reached.trans (nearest_cons_true stripped found)
    refine ⟨loaded, fun config made => basedir_of_ofDirectory (loaded.symm.trans made), ?_⟩
    intro files' same
    exact ⟨discover_congr absolute split (by rw [found]; simp) same,
      lookup_of_directories stripped found⟩
  · intro none
    have passed := nearest_append (σ := σ) none []
    rw [List.append_nil] at passed
    exact passed

/-- The manifest of a project, whatever is wrong with one around it; and a project whose manifest is
a link that leads in circles, seen from a directory below it that has none. -/
theorem discover_in_project :
    let files : FileTree := ⟨[(["p".toList], .directory), (["p".toList, "a".toList], .directory),
      (["p".toList, Manifest.fileName], .file "basedir: stages\n".toList)]⟩
    let files' : FileTree := ⟨files.entries ++ [([] ++ [Manifest.fileName], .broken [])]⟩
    let fault : FileFault := .other "Too many levels of symbolic links (os error 40)".toList
    let circular : FileTree := ⟨[(["p".toList], .directory), (["p".toList, "a".toList], .directory),
      (["p".toList, Manifest.fileName], .astray fault)]⟩
    let file := "/p/a/x.html".toList
    Path.isAbsolute file = true ∧
      searchPath file = ["/p/a".toList] ++ "/p".toList :: ["/".toList] ∧
      files.holds (manifestIn "/p/a".toList) = .ok false ∧
      files.holds (manifestIn "/p".toList) = .ok true ∧
      discover (σ := Unit) files file = ofDirectory files "/p".toList ∧
      discover (σ := Unit) files' file = discover files file ∧
      circular.holds (manifestIn "/p/a".toList) = .ok false ∧
      discover (σ := Unit) circular file = .error (.io fault) := by
  intro files files' fault circular file
  have absolute : Path.isAbsolute file = true := rfl
  have path : searchPath file = ["/p/a".toList] ++ "/p".toList :: ["/".toList] := by
    have p : Component.IsPiece (.name ['p']) := ⟨rfl, by decide⟩
    have a : Component.IsPiece (.name ['a']) := ⟨rfl, by decide⟩
    have x : Component.IsPiece (.name "x.html".toList) := ⟨rfl, by decide⟩
    have outer : Stripped "/p".toList := Stripped.root.join p
    have inner : Stripped "/p/a".toList := outer.join a
    have lies : Path.parent? file = some "/p/a".toList := inner.parent?_join x
    have above : Path.parent? "/p/a".toList = some "/p".toList := outer.parent?_join a
    have top : Path.parent? "/p".toList = some "/".toList := Stripped.root.parent?_join p
    have root : Path.parent? "/".toList = none := Path.parent?_root
    simp only [searchPath, lies, Path.ancestors_of_parent? above, Path.ancestors_of_parent? top,
      Path.ancestors_of_none root, List.singleton_append]
  have near : ∀ a ∈ ["/p/a".toList], files.holds (manifestIn a) = .ok false := by
    decide +kernel
  have found : files.holds (manifestIn "/p".toList) = .ok true := by decide +kernel
  obtain ⟨-, decided, -⟩ := discover_by_nearest (σ := Unit) files absolute
  obtain ⟨loaded, -, kept⟩ := (decided _ _ _ path near).2 found
  have spared : SameBesides files files' (["/p/a".toList] ++ ["/p".toList]) :=
    sameBesides_concat _ (by decide +kernel)
  have same := (kept files' spared).1 (by decide +kernel)
  have near' : ∀ a ∈ ["/p/a".toList], circular.holds (manifestIn a) = .ok false := by
    decide +kernel
  obtain ⟨-, decided', -⟩ := discover_by_nearest (σ := Unit) circular absolute
  have failed := (decided' _ _ _ path near').1 fault (by decide +kernel)
  exact ⟨absolute, path, near _ (by simp), found, loaded, same, near' _ (by simp), failed⟩

end LiveMarkup.FileConfig
