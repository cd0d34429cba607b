import LiveMarkup.Proofs.Handler.Turns

/-!
What a run has from its calls. A run is put together from calls of stages, a call of the minifier
and looks at the registry, so what holds of these and is kept in sequences holds of it.

* `Session.Inherited`, `Inherited.run`: the one induction over the phases of a run;
* `Apart.run`: a run leaves alone what its calls leave alone;
* `GovernedBy.run`: where calls go by what they are asked with and a part of the world, so does a
  run;
* `lit_run`: a run does not ask whether the project is live.
-/

namespace LiveMarkup.Session

variable {σ W α β : Type} {s : Session σ W}

/-- Calls the minifier; its refusal becomes a failure of the last phase. -/
def shrink (s : Session σ W) (options : MinifyOptions) (ctx : Context σ) : Run W (Context σ) :=
  fun w =>
    match s.minifier options ctx.src w with
    | (.ok src, w) => (.ok (ctx.withSrc src), w)
    | (.error message, w) => (.error (.stage .finalize "minify".toList message), w)

/-- What the calls of a run have and sequences keep. -/
structure Inherited (s : Session σ W) (motive : Run W (Context σ) → Prop) : Prop where
  pure : ∀ ctx, motive (Pure.pure ctx)
  bind : ∀ x f, motive x → (∀ ctx, motive (f ctx)) → motive (x >>= f)
  look : ∀ f : Registry σ → Run W (Context σ), (∀ r, motive (f r)) → motive (s.readRegistry >>= f)
  call : ∀ phase stage ctx, motive (s.call phase stage ctx)
  shrink : ∀ options ctx, motive (s.shrink options ctx)

namespace Inherited

variable {motive : Run W (Context σ) → Prop}

theorem compose (inherited : s.Inherited motive) (phase : Phase) (stages : List σ)
    (ctx : Context σ) : motive (s.compose phase stages ctx) := by
  induction stages generalizing ctx with
  | nil => exact inherited.pure ctx
  | cons stage rest ih =>
    exact inherited.bind _ _ (inherited.call phase stage ctx) fun out => ih (ctx.withSrc out.src)

theorem selectParser (inherited : s.Inherited motive) (initial : Context σ) (parsers : List σ) :
    motive (s.selectParser initial parsers) := by
  induction parsers with
  | nil => exact inherited.pure initial
  | cons parser rest ih =>
    refine inherited.bind _ _ (inherited.call .parse parser initial) fun out => ?_
    split
    · exact ih
    · exact inherited.pure _

theorem finalize (inherited : s.Inherited motive) (ctx : Context σ) : motive (s.finalize ctx) := by
  refine inherited.look _ fun r => ?_
  split
  · exact inherited.pure ctx
  · exact inherited.shrink _ ctx

theorem run (inherited : s.Inherited motive) (h : Handler σ) (src : Text) :
    motive (s.run h src) := by
  refine inherited.bind _ _ (inherited.selectParser _ _) fun parsed => ?_
  refine inherited.look _ fun before => ?_
  refine inherited.bind _ _ (inherited.compose _ _ _) fun prepared => ?_
  refine inherited.bind _ _ (inherited.compose _ _ _) fun processed => ?_
  refine inherited.look _ fun after => ?_
  refine inherited.bind _ _ (inherited.compose _ _ _) fun completed => ?_
  exact inherited.finalize completed

end Inherited

theorem call_eq (phase : Phase) (stage : σ) (ctx : Context σ) (w : W) :
    s.call phase stage ctx w =
      ((s.stages.run stage ctx w).1.mapError (.stage phase (s.stages.name stage)),
        (s.stages.run stage ctx w).2) := by
  unfold call
  split <;> rename_i ran <;> rw [ran] <;> rfl

theorem shrink_eq (options : MinifyOptions) (ctx : Context σ) (w : W) :
    s.shrink options ctx w =
      (((s.minifier options ctx.src w).1.map ctx.withSrc).mapError
        (.stage .finalize "minify".toList), (s.minifier options ctx.src w).2) := by
  unfold shrink
  split <;> rename_i ran <;> rw [ran] <;> rfl

/-! ### What is left alone -/

/-- A part of the world is the same afterwards. -/
def Untouched (part : W → β) (f : W → α × W) : Prop :=
  ∀ w, part (f w).2 = part w

/-- Stages and minifier leave a part of the world alone. -/
structure Apart (s : Session σ W) (part : W → β) : Prop where
  stage : ∀ stage ctx, Untouched part (s.stages.run stage ctx)
  minifier : ∀ options src, Untouched part (s.minifier options src)

theorem Untouched.bind {part : W → β} {x : Run W α} {f : α → Run W (Context σ)}
    (first : Untouched part x) (next : ∀ a, Untouched part (f a)) : Untouched part (x >>= f) := by
  intro w
  have kept := first w
  rw [Run.bind_apply]
  cases ran : x w with | mk result w' =>
  rw [ran] at kept
  cases result with
  | error e => exact kept
  | ok a => exact (next a w').trans kept

theorem Apart.run {part : W → β} (apart : s.Apart part) (h : Handler σ) (src : Text) :
    Untouched part (s.run h src) := by
  have inherited : s.Inherited (Untouched part) :=
    { pure := fun ctx w => rfl
      bind := fun x f first next => first.bind next
      look := fun f next w => next (s.registry w) w
      call := fun phase stage ctx w => by
        rw [call_eq]
        exact apart.stage stage ctx w
      shrink := fun options ctx w => by
        rw [shrink_eq]
        exact apart.minifier options ctx.src w }
  exact inherited.run h src

theorem Apart.of_run {part : W → β} (apart : s.Apart part) {h : Handler σ} {src : Text}
    {result : Except Failure (Context σ)} {w left : W} (ran : s.run h src w = (result, left)) :
    part left = part w := by
  have kept := apart.run h src w
  rwa [ran] at kept

/-! ### What a part of the world decides -/

/-- Where a part of the world is the same, the answer is the same, and so is that part again. -/
def AlignedBy (part : W → β) (f : W → α × W) : Prop :=
  ∀ w w', part w' = part w → (f w').1 = (f w).1 ∧ part (f w').2 = part (f w).2

/-- Stages and minifier go by what they are asked with and by a part of the world, in which the
registry is seen. -/
structure GovernedBy (s : Session σ W) (part : W → β) : Prop where
  registry : ∀ w w', part w' = part w → s.registry w' = s.registry w
  stage : ∀ stage ctx, AlignedBy part (s.stages.run stage ctx)
  minifier : ∀ options src, AlignedBy part (s.minifier options src)

theorem AlignedBy.bind {part : W → β} {x : Run W α} {f : α → Run W (Context σ)}
    (first : AlignedBy part x) (next : ∀ a, AlignedBy part (f a)) : AlignedBy part (x >>= f) := by
  intro w w' same
  obtain ⟨result, left⟩ := first w w' same
  rw [Run.bind_apply, Run.bind_apply, result]
  cases (x w).1 with
  | error e => exact ⟨rfl, left⟩
  | ok a => exact next a _ _ left

/-- A run comes to the same in two worlds with one such part, and leaves one. -/
theorem GovernedBy.run {part : W → β} (governed : s.GovernedBy part) (h : Handler σ)
    (src : Text) : AlignedBy part (s.run h src) := by
  have inherited : s.Inherited (AlignedBy part) :=
    { pure := fun ctx w w' same => ⟨rfl, same⟩
      bind := fun x f first next => first.bind next
      look := fun f next w w' same => by
        have asked (w : W) : s.readRegistry w = (.ok (s.registry w), w) := rfl
        rw [Run.bind_ok (asked w), Run.bind_ok (asked w'), governed.registry w w' same]
        exact next (s.registry w) w w' same
      call := fun phase stage ctx w w' same => by
        obtain ⟨result, left⟩ := governed.stage stage ctx w w' same
        rw [call_eq, call_eq, result]
        exact ⟨rfl, left⟩
      shrink := fun options ctx w w' same => by
        obtain ⟨result, left⟩ := governed.minifier options ctx.src w w' same
        rw [shrink_eq, shrink_eq, result]
        exact ⟨rfl, left⟩ }
  exact inherited.run h src

/-! ### What the registry decides -/

/-- In two worlds with one registry the answer is the same, and the registry is the same again. -/
def Aligned (s : Session σ W) (f : W → α × W) : Prop :=
  ∀ w w', s.registry w' = s.registry w →
    (f w').1 = (f w).1 ∧ s.registry (f w').2 = s.registry (f w).2

/-- Stages and minifier go by what they are asked with and by the registry. -/
structure Governed (s : Session σ W) : Prop where
  stage : ∀ stage ctx, s.Aligned (s.stages.run stage ctx)
  minifier : ∀ options src, s.Aligned (s.minifier options src)

/-- A run comes to the same in two worlds with one registry, and leaves one registry. -/
theorem Governed.run (governed : s.Governed) (h : Handler σ) (src : Text) :
    s.Aligned (s.run h src) := by
  have by_registry : s.GovernedBy s.registry :=
    ⟨fun _ _ same => same, governed.stage, governed.minifier⟩
  exact by_registry.run h src

theorem Governed.of_run (governed : s.Governed) {h : Handler σ} {src : Text}
    {result : Except Failure (Context σ)} {w left v : W} (ran : s.run h src w = (result, left))
    (same : s.registry v = s.registry w) :
    ∃ left', s.run h src v = (result, left') ∧ s.registry left' = s.registry left := by
  obtain ⟨result', registry⟩ := governed.run h src w v same
  rw [ran] at result' registry
  exact ⟨(s.run h src v).2, Prod.ext result' rfl, registry⟩

/-! ### Whether the project is live -/

/-- The session that sees its project as live in every world. -/
def lit (s : Session σ W) : Session σ W :=
  { s with registry := fun w => (s.registry w).enableLive }

theorem lit_compose (phase : Phase) (stages : List σ) (ctx : Context σ) :
    s.lit.compose phase stages ctx = s.compose phase stages ctx := by
  induction stages generalizing ctx with
  | nil => rfl
  | cons stage rest ih =>
    rw [compose, compose]
    simp only [ih]
    rfl

theorem lit_selectParser (initial : Context σ) (parsers : List σ) :
    s.lit.selectParser initial parsers = s.selectParser initial parsers := by
  induction parsers with
  | nil => rfl
  | cons parser rest ih =>
    rw [selectParser, selectParser, ih]
    rfl

/-- No phase asks whether the project is live. -/
theorem lit_run (h : Handler σ) (src : Text) : s.lit.run h src = s.run h src := by
  unfold run
  simp only [lit_selectParser, lit_compose]
  rfl

end LiveMarkup.Session
