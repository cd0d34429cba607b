import LiveMarkup.Config

/-!
Stages: what they are given, what they may answer, and the table in which a project names them.
-/

namespace LiveMarkup

variable {σ : Type}

/-- What a stage is given: a source with the identity of its file and the configuration in force.
Of the context that a stage answers, only the source goes on. -/
structure Context (σ : Type) where
  config : FileConfig σ
  filename : Text
  src : Text
  deriving DecidableEq, Repr

def Context.withSrc (c : Context σ) (src : Text) : Context σ :=
  { c with src := src }

/-- How stages act. A stage has a name and turns a context into another one, or refuses it with a
message; on the way it may change the world `W`. -/
structure StageModel (σ W : Type) where
  name : σ → Text
  run : σ → Context σ → W → Except Text (Context σ) × W

/-- How sources are minified in a world `W`. -/
abbrev Minifier (W : Type) :=
  MinifyOptions → Text → W → Except Text Text × W

/-- Stages by their names, each name once. -/
structure StageTable (σ : Type) where
  entries : List (Text × σ) := []
  deriving Repr

namespace StageTable

def find? (t : StageTable σ) (name : Text) : Option σ :=
  (t.entries.find? (·.1 == name)).map (·.2)

/-- Puts a stage under a name, in the place of one that was there. -/
def register (t : StageTable σ) (name : Text) (stage : σ) : StageTable σ :=
  ⟨(name, stage) :: t.entries.filter (·.1 != name)⟩

def has (t : StageTable σ) (name : Text) : Bool :=
  (t.find? name).isSome

/-- The order of texts by their characters. -/
def textLe (a b : Text) : Bool :=
  ! decide (b < a)

/-- The names of the table in order. -/
def names (t : StageTable σ) : List Text :=
  (t.entries.map (·.1)).mergeSort textLe

/-- Whether a name says where its stage lies. -/
def isPathLike (name : Text) : Bool :=
  (Text.after? ['.', '/'] name).isSome || (Text.after? ['.', '.', '/'] name).isSome ||
    Path.isAbsolute name

/-- The stage that a name stands for in a directory. An exact name goes first; a name that says
where its stage lies is looked up by the identity of that place. -/
def resolve (t : StageTable σ) (root basedir name : Text) : Except Failure σ :=
  match t.find? name with
  | some s => .ok s
  | none =>
    let placed := if isPathLike name then t.find? (Path.identity root (Path.join basedir name))
      else none
    match placed with
    | some s => .ok s
    | none => .error (.stageNotFound name basedir)

def resolveRef (t : StageTable σ) (root basedir : Text) : StageRef σ → Except Failure σ
  | .named name => t.resolve root basedir name
  | .direct s => .ok s

/-- The stages of a list of references, or the failure of the first that stands for none. -/
def resolveAll (t : StageTable σ) (root basedir : Text) :
    List (StageRef σ) → Except Failure (List σ)
  | [] => .ok []
  | r :: rs =>
    match t.resolveRef root basedir r with
    | .error e => .error e
    | .ok s =>
      match t.resolveAll root basedir rs with
      | .error e => .error e
      | .ok ss => .ok (s :: ss)

end StageTable
end LiveMarkup
