import LiveMarkup.Registry

/-!
Handlers: what is found out about a file before its source is known, and the run of a source
through the phases.
-/

namespace LiveMarkup

variable {σ W : Type}

/-- What a file needs to be processed. The configuration has a matcher and an absolute directory. -/
structure Handler (σ : Type) where
  config : FileConfig σ
  filename : Text
  parsers : List σ
  processors : List σ
  deriving DecidableEq, Repr

/-- A computation that may fail and changes the world in either case. -/
abbrev Run (W : Type) := ExceptT Failure (StateM W)

/-- A session: where the project lies, how its stages are named and act, how it minifies, and where
its registry is found in the world. -/
structure Session (σ W : Type) where
  root : Text
  table : StageTable σ
  stages : StageModel σ W
  minifier : Minifier W
  registry : W → Registry σ

namespace Session

def readRegistry (s : Session σ W) : Run W (Registry σ) :=
  fun w => (.ok (s.registry w), w)

/-- Calls a stage; its refusal becomes a failure of the phase. -/
def call (s : Session σ W) (phase : Phase) (stage : σ) (ctx : Context σ) : Run W (Context σ) :=
  fun w =>
    match s.stages.run stage ctx w with
    | (.ok out, w) => (.ok out, w)
    | (.error message, w) => (.error (.stage phase (s.stages.name stage) message), w)

/-- Hands a source from stage to stage. The rest of the context stays as it is. -/
def compose (s : Session σ W) (phase : Phase) : List σ → Context σ → Run W (Context σ)
  | [], ctx => pure ctx
  | stage :: rest, ctx => do
    let out ← s.call phase stage ctx
    s.compose phase rest (ctx.withSrc out.src)

/-- Offers the same context to each parser until one changes the source. -/
def selectParser (s : Session σ W) (initial : Context σ) : List σ → Run W (Context σ)
  | [] => pure initial
  | parser :: rest => do
    let out ← s.call .parse parser initial
    if out.src = initial.src then s.selectParser initial rest
    else pure (initial.withSrc out.src)

/-- Minifies the source if the settings say so. -/
def finalize (s : Session σ W) (ctx : Context σ) : Run W (Context σ) := do
  let registry ← s.readRegistry
  match registry.settings.minify.options? with
  | none => pure ctx
  | some options => fun w =>
    match s.minifier options ctx.src w with
    | (.ok src, w) => (.ok (ctx.withSrc src), w)
    | (.error message, w) => (.error (.stage .finalize "minify".toList message), w)

/-- Runs a source through the phases. The stages around the processors are those that the registry
holds when their phase is reached. -/
def run (s : Session σ W) (h : Handler σ) (src : Text) : Run W (Context σ) := do
  let ctx ← s.selectParser ⟨h.config, h.filename, src⟩ h.parsers
  let before ← s.readRegistry
  let ctx ← s.compose .pre before.pre ctx
  let ctx ← s.compose .perFile h.processors ctx
  let after ← s.readRegistry
  let ctx ← s.compose .post after.post ctx
  s.finalize ctx

end Session
end LiveMarkup
