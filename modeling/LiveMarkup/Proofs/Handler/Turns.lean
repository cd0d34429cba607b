import LiveMarkup.Handler

/-!
A run as one list of turns. Parsers, stages and the minifier take their turns on one source, and a
run takes the turns that are due: the stages around the processors are those that the registry
holds at two moments of the run, and the minifier is due by the settings at a third.
-/

namespace LiveMarkup

variable {σ W α β : Type}

namespace Run

theorem bind_apply (x : Run W α) (f : α → Run W β) (w : W) :
    (x >>= f) w = ExceptT.bindCont f (x w).1 (x w).2 := rfl

theorem bind_ok {x : Run W α} {f : α → Run W β} {w w' : W} {a : α} (h : x w = (.ok a, w')) :
    (x >>= f) w = f a w' := by
  rw [bind_apply, h]
  rfl

theorem bind_error {x : Run W α} {f : α → Run W β} {w w' : W} {e : Failure}
    (h : x w = (.error e, w')) : (x >>= f) w = (.error e, w') := by
  rw [bind_apply, h]
  rfl

theorem of_bind_ok {x : Run W α} {f : α → Run W β} {w w' : W} {b : β}
    (h : (x >>= f) w = (.ok b, w')) : ∃ a w₁, x w = (.ok a, w₁) ∧ f a w₁ = (.ok b, w') := by
  cases first : x w with | mk result w₁ =>
  cases result with
  | error e =>
    rw [bind_error first] at h
    cases h
  | ok a =>
    rw [bind_ok first] at h
    exact ⟨a, w₁, rfl, h⟩

end Run

/-- How many phases come before one. -/
def Phase.place : Phase → Nat
  | parse => 0
  | pre => 1
  | perFile => 2
  | post => 3
  | finalize => 4

/-- A turn in a run: a stage in its phase, or the minifier. -/
inductive Turn (σ : Type) where
  | stage (phase : Phase) (stage : σ)
  | minifier (options : MinifyOptions)

namespace Turn

def phase : Turn σ → Phase
  | stage p _ => p
  | minifier _ => .finalize

/-- The name under which a turn fails. -/
def name (names : σ → Text) : Turn σ → Text
  | stage _ s => names s
  | minifier _ => "minify".toList

def failure (names : σ → Text) (t : Turn σ) (message : Text) : Failure :=
  .stage t.phase (t.name names) message

end Turn

/-- What the stages of a handler are given with a source. -/
def Handler.context (h : Handler σ) (src : Text) : Context σ :=
  ⟨h.config, h.filename, src⟩

namespace Session

variable (s : Session σ W) (h : Handler σ)

/-- What comes of a source in a turn, or the words in which it is refused. -/
def turn (src : Text) : Turn σ → W → Except Text Text × W
  | .stage _ stage, w =>
    let (answer, w) := s.stages.run stage (h.context src) w
    (answer.map Context.src, w)
  | .minifier options, w => s.minifier options src w

/-- Takes turns, each on the source that came of the one before it. -/
def take : List (Turn σ) → Text → W → Except Failure Text × W
  | [], src, w => (.ok src, w)
  | t :: ts, src, w =>
    match s.turn h src t w with
    | (.ok out, w) => take ts out w
    | (.error message, w) => (.error (t.failure s.stages.name message), w)

/-- The turns of the parsers that a source is offered to: up to the first that changes it or
refuses. -/
def parsing (src : Text) : List σ → W → List (Turn σ)
  | [], _ => []
  | parser :: rest, w =>
    .stage .parse parser :: match s.turn h src (.stage .parse parser) w with
      | (.ok out, w) => if out = src then parsing src rest w else []
      | (.error _, _) => []

/-- The registry once some turns are taken. -/
def registryAfter (ts : List (Turn σ)) (src : Text) (w : W) : Registry σ :=
  s.registry (s.take h ts src w).2

/-- The turns that are due in a run, phase by phase. -/
def due (src : Text) (w : W) : List (Turn σ) :=
  let parsing := s.parsing h src h.parsers w
  let before := (s.registryAfter h parsing src w).pre.map (.stage .pre)
  let own := h.processors.map (.stage .perFile)
  let after := (s.registryAfter h (parsing ++ before ++ own) src w).post.map (.stage .post)
  let settled := parsing ++ before ++ own ++ after
  settled ++ (s.registryAfter h settled src w).settings.minify.options?.toList.map .minifier

variable {s h}

theorem take_cons_ok {t : Turn σ} {src out : Text} {w w' : W}
    (turned : s.turn h src t w = (.ok out, w')) (ts : List (Turn σ)) :
    s.take h (t :: ts) src w = s.take h ts out w' := by
  simp [take, turned]

theorem take_cons_error {t : Turn σ} {src message : Text} {w w' : W}
    (turned : s.turn h src t w = (.error message, w')) (ts : List (Turn σ)) :
    s.take h (t :: ts) src w = (.error (t.failure s.stages.name message), w') := by
  simp [take, turned]

theorem take_append_ok {a : List (Turn σ)} {src out : Text} {w w' : W}
    (taken : s.take h a src w = (.ok out, w')) (b : List (Turn σ)) :
    s.take h (a ++ b) src w = s.take h b out w' := by
  induction a generalizing src w with
  | nil => cases taken; rfl
  | cons t a ih =>
    simp only [take, List.cons_append] at taken ⊢
    split at taken
    · exact ih taken
    · cases taken

theorem take_append_error {a : List (Turn σ)} {src : Text} {e : Failure} {w w' : W}
    (taken : s.take h a src w = (.error e, w')) (b : List (Turn σ)) :
    s.take h (a ++ b) src w = (.error e, w') := by
  induction a generalizing src w with
  | nil => cases taken
  | cons t a ih =>
    simp only [take, List.cons_append] at taken ⊢
    split at taken
    · exact ih taken
    · exact taken

theorem parsing_cons_ok {parser : σ} {src out : Text} {w w' : W}
    (turned : s.turn h src (.stage .parse parser) w = (.ok out, w')) (rest : List σ) :
    s.parsing h src (parser :: rest) w =
      .stage .parse parser :: if out = src then s.parsing h src rest w' else [] := by
  simp only [parsing, turned]

theorem parsing_cons_error {parser : σ} {src message : Text} {w w' : W}
    (turned : s.turn h src (.stage .parse parser) w = (.error message, w')) (rest : List σ) :
    s.parsing h src (parser :: rest) w = [.stage .parse parser] := by
  simp only [parsing, turned]

theorem turn_stage_ok {stage : σ} {src : Text} {out : Context σ} {w w' : W}
    (ran : s.stages.run stage (h.context src) w = (.ok out, w')) (phase : Phase) :
    s.turn h src (.stage phase stage) w = (.ok out.src, w') ∧
      s.call phase stage (h.context src) w = (.ok out, w') := by
  simp [turn, call, ran, Except.map]

theorem turn_stage_error {stage : σ} {src message : Text} {w w' : W}
    (ran : s.stages.run stage (h.context src) w = (.error message, w')) (phase : Phase) :
    s.turn h src (.stage phase stage) w = (.error message, w') ∧
      s.call phase stage (h.context src) w =
        (.error (.stage phase (s.stages.name stage) message), w') := by
  simp [turn, call, ran, Except.map]

/-- What came of a source, as a context of a handler. -/
def inContext (h : Handler σ) (taken : Except Failure Text × W) : Except Failure (Context σ) × W :=
  (taken.1.map h.context, taken.2)

theorem compose_eq_take (phase : Phase) (stages : List σ) (src : Text) (w : W) :
    s.compose phase stages (h.context src) w =
      inContext h (s.take h (stages.map (.stage phase)) src w) := by
  induction stages generalizing src w with
  | nil => rfl
  | cons stage rest ih =>
    rw [compose, List.map_cons]
    cases ran : s.stages.run stage (h.context src) w with | mk answer w' =>
    cases answer with
    | error message =>
      obtain ⟨turned, called⟩ := turn_stage_error ran phase
      rw [Run.bind_error called, take_cons_error turned]
      rfl
    | ok out =>
      obtain ⟨turned, called⟩ := turn_stage_ok ran phase
      rw [Run.bind_ok called, take_cons_ok turned]
      exact ih out.src w'

theorem selectParser_eq_take (parsers : List σ) (src : Text) (w : W) :
    s.selectParser (h.context src) parsers w =
      inContext h (s.take h (s.parsing h src parsers w) src w) := by
  induction parsers generalizing w with
  | nil => rfl
  | cons parser rest ih =>
    rw [selectParser]
    cases ran : s.stages.run parser (h.context src) w with | mk answer w' =>
    cases answer with
    | error message =>
      obtain ⟨turned, called⟩ := turn_stage_error ran .parse
      rw [Run.bind_error called, parsing_cons_error turned, take_cons_error turned]
      rfl
    | ok out =>
      obtain ⟨turned, called⟩ := turn_stage_ok ran .parse
      rw [Run.bind_ok called, parsing_cons_ok turned, take_cons_ok turned]
      by_cases same : out.src = src
      · have unchanged : out.src = (h.context src).src := same
        rw [if_pos unchanged, if_pos same, same]
        exact ih w'
      · have changed : ¬ out.src = (h.context src).src := same
        rw [if_neg changed, if_neg same]
        rfl

theorem finalize_eq_take (src : Text) (w : W) :
    s.finalize (h.context src) w = inContext h
      (s.take h ((s.registry w).settings.minify.options?.toList.map .minifier) src w) := by
  have asked : s.readRegistry w = (.ok (s.registry w), w) := rfl
  rw [finalize, Run.bind_ok asked]
  cases (s.registry w).settings.minify.options? with
  | none => rfl
  | some options =>
    have turned : s.turn h src (.minifier options) w = s.minifier options src w := rfl
    have source : (h.context src).src = src := rfl
    cases ran : s.minifier options src w with | mk answer w' =>
    rw [ran] at turned
    cases answer with
    | error message =>
      simp only [source, ran, Option.toList_some, List.map_cons, take_cons_error turned]
      rfl
    | ok out =>
      simp only [source, ran, Option.toList_some, List.map_cons, take_cons_ok turned]
      rfl

theorem bind_eq_take {x : Run W (Context σ)} {f : Context σ → Run W (Context σ)}
    {a b : List (Turn σ)} {src : Text} {w : W}
    (first : x w = inContext h (s.take h a src w))
    (next : ∀ out w', s.take h a src w = (.ok out, w') →
      f (h.context out) w' = inContext h (s.take h b out w')) :
    (x >>= f) w = inContext h (s.take h (a ++ b) src w) := by
  cases taken : s.take h a src w with | mk result w' =>
  rw [taken] at first
  cases result with
  | error e => rw [Run.bind_error first, take_append_error taken]; rfl
  | ok out => rw [Run.bind_ok first, take_append_ok taken]; exact next out w' taken

theorem registryAfter_eq {ts : List (Turn σ)} {src : Text} {w w' : W}
    {result : Except Failure Text} (taken : s.take h ts src w = (result, w')) :
    s.registryAfter h ts src w = s.registry w' := by
  rw [registryAfter, taken]

theorem mem_of_mem_parsing {src : Text} {parsers : List σ} {w : W} {t : Turn σ}
    (member : t ∈ s.parsing h src parsers w) : ∃ parser ∈ parsers, t = .stage .parse parser := by
  induction parsers generalizing w with
  | nil => cases member
  | cons parser rest ih =>
    cases turned : s.turn h src (.stage .parse parser) w with | mk answer w' =>
    cases answer with
    | error message =>
      rw [parsing_cons_error turned] at member
      exact ⟨parser, List.mem_cons_self, List.mem_singleton.mp member⟩
    | ok out =>
      rw [parsing_cons_ok turned] at member
      rcases List.mem_cons.mp member with rfl | member
      · exact ⟨parser, List.mem_cons_self, rfl⟩
      · by_cases same : out = src
        · rw [if_pos same] at member
          obtain ⟨other, found, rfl⟩ := ih member
          exact ⟨other, List.mem_cons_of_mem parser found, rfl⟩
        · rw [if_neg same] at member
          cases member

/-- A run takes the turns that are due. -/
theorem run_eq_take (src : Text) (w : W) :
    s.run h src w = inContext h (s.take h (s.due h src w) src w) := by
  have asked (w : W) : s.readRegistry w = (.ok (s.registry w), w) := rfl
  simp only [run, due, List.append_assoc]
  apply bind_eq_take (selectParser_eq_take h.parsers src w)
  intro parsed w₁ parsing
  rw [Run.bind_ok (asked w₁)]
  apply bind_eq_take
  · rw [compose_eq_take, registryAfter_eq parsing]
  intro prepared w₂ before
  apply bind_eq_take (compose_eq_take ..)
  intro processed w₃ own
  -- The stages after the processors are read off the world that all turns so far lead to.
  have reached := (take_append_ok parsing _).trans ((take_append_ok before _).trans own)
  rw [Run.bind_ok (asked w₃)]
  apply bind_eq_take
  · rw [compose_eq_take, registryAfter_eq reached]
  intro completed w₄ after
  have settled := (take_append_ok parsing _).trans
    ((take_append_ok before _).trans ((take_append_ok own _).trans after))
  rw [finalize_eq_take, registryAfter_eq settled]

theorem src_of_run (src : Text) (w : W) :
    (s.run h src w).1.map Context.src = (s.take h (s.due h src w) src w).1 := by
  rw [run_eq_take, inContext]
  cases (s.take h (s.due h src w) src w).1 <;> rfl

/-- A run answers in the context of its handler. -/
theorem context_of_run {src : Text} {out : Context σ} {w w' : W}
    (ran : s.run h src w = (.ok out, w')) : out = h.context out.src := by
  rw [run_eq_take] at ran
  cases taken : s.take h (s.due h src w) src w with | mk result next =>
  rw [taken] at ran
  cases result with
  | error e => cases ran
  | ok src' => cases ran; rfl

end Session
end LiveMarkup
