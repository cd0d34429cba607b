import LiveMarkup.Proofs.Handler.Turns

/-!
Runs on record. Stages and the minifier may do anything in a call: ask the registry of their session
for changes, keep something for themselves, answer or refuse. The record of a run tells which calls
were made, with what, and what each of them asked for and answered.
-/

namespace LiveMarkup

variable {σ V : Type}

/-- Who is called, and with what. -/
inductive Asked (σ : Type) where
  | stage (stage : σ) (ctx : Context σ)
  | minifier (options : MinifyOptions) (src : Text)

/-- What a call comes to: its requests to the registry, its answer, and what is kept by those who
are called. -/
structure Deed (σ V α : Type) where
  requests : List (Registry.Request σ) := []
  answer : Except Text α
  kept : V

/-- How the stages and the minifier of a session act. What they do may depend on the registry that
they find and on what was kept. -/
structure Conduct (σ V : Type) where
  root : Text
  table : StageTable σ
  name : σ → Text
  stage : σ → Context σ → Registry σ → V → Deed σ V (Context σ)
  minifier : MinifyOptions → Text → Registry σ → V → Deed σ V Text

/-- A call with the registry that it found, its requests, and the source that it answered. -/
structure Call (σ : Type) where
  asked : Asked σ
  found : Registry σ
  requests : List (Registry.Request σ)
  answer : Except Text Text

/-- A world in which all calls are noted. -/
structure Record (σ V : Type) where
  registry : Registry σ
  kept : V
  calls : List (Call σ) := []

/-- The turns of a run, each with its call. -/
abbrev Trail (σ : Type) := List (Turn σ × Call σ)

namespace Trail

def turns (trail : Trail σ) : List (Turn σ) :=
  trail.map Prod.fst

def calls (trail : Trail σ) : List (Call σ) :=
  trail.map Prod.snd

/-- What belongs to the phases that come before one. -/
def before (trail : Trail σ) (phase : Phase) : Trail σ :=
  trail.filter (·.1.phase.place < phase.place)

theorem before_append (a b : Trail σ) (phase : Phase) :
    (a ++ b : Trail σ).before phase = a.before phase ++ b.before phase :=
  List.filter_append ..

theorem before_eq_self {trail : Trail σ} {phase : Phase}
    (early : ∀ t ∈ trail.turns, t.phase.place < phase.place) : trail.before phase = trail := by
  apply List.filter_eq_self.mpr
  intro t ht
  simpa using early t.1 (List.mem_map_of_mem ht)

theorem before_eq_nil {trail : Trail σ} {phase : Phase}
    (late : ∀ t ∈ trail.turns, phase.place ≤ t.phase.place) : trail.before phase = [] := by
  apply List.filter_eq_nil_iff.mpr
  intro t ht
  simpa using late t.1 (List.mem_map_of_mem ht)

end Trail

/-- What is asked in a turn of a run. -/
def Turn.asked (h : Handler σ) (src : Text) : Turn σ → Asked σ
  | stage _ s => .stage s (h.context src)
  | minifier options => .minifier options src

namespace Conduct

variable (b : Conduct σ V)

/-- What a call comes to, of whose context only the source counts. -/
def deed : Asked σ → Registry σ → V → Deed σ V Text
  | .stage s ctx, r, v =>
    let d := b.stage s ctx r v
    ⟨d.requests, d.answer.map Context.src, d.kept⟩
  | .minifier options src, r, v => b.minifier options src r v

/-- The registry once some requests are served. -/
def serve (r : Registry σ) (requests : List (Registry.Request σ)) : Registry σ :=
  requests.foldl (fun r request => (r.serve b.table b.root request).2) r

/-- The registry once some calls are made. -/
def after (r : Registry σ) (calls : List (Call σ)) : Registry σ :=
  calls.foldl (fun r call => b.serve r call.requests) r

/-- The call in which something is asked. -/
def call (asked : Asked σ) (w : Record σ V) : Call σ :=
  let d := b.deed asked w.registry w.kept
  ⟨asked, w.registry, d.requests, d.answer⟩

/-- Makes a call and notes it. -/
def enter (asked : Asked σ) (w : Record σ V) : Record σ V :=
  let d := b.deed asked w.registry w.kept
  ⟨b.serve w.registry d.requests, d.kept, w.calls ++ [b.call asked w]⟩

/-- The session in which stages and minifier act in this way, on record. -/
def session : Session σ (Record σ V) where
  root := b.root
  table := b.table
  stages := ⟨b.name, fun s ctx w =>
    ((b.stage s ctx w.registry w.kept).answer, b.enter (.stage s ctx) w)⟩
  minifier := fun options src w =>
    ((b.minifier options src w.registry w.kept).answer, b.enter (.minifier options src) w)
  registry := Record.registry

/-- The turns that are taken of some that are due, each with its call. -/
def trail (h : Handler σ) : List (Turn σ) → Text → Record σ V → Trail σ
  | [], _, _ => []
  | t :: ts, src, w =>
    let call := b.call (t.asked h src) w
    (t, call) :: match call.answer with
      | .ok out => trail h ts out (b.enter (t.asked h src) w)
      | .error _ => []

end Conduct

/-- Calls that follow from one another: each turn is asked with the source that the one before it
answered, and a refusal is the last. What comes of it all is the last answer, or the failure of the
turn that refused. -/
inductive Follows (names : σ → Text) (h : Handler σ) :
    Text → Trail σ → Except Failure Text → Prop
  | done (src : Text) : Follows names h src [] (.ok src)
  | refused {src message : Text} {t : Turn σ} {c : Call σ} (asked : c.asked = t.asked h src)
      (answer : c.answer = .error message) :
      Follows names h src [(t, c)] (.error (t.failure names message))
  | next {src out : Text} {t : Turn σ} {c : Call σ} {rest : Trail σ}
      {result : Except Failure Text} (asked : c.asked = t.asked h src)
      (answer : c.answer = .ok out) (more : Follows names h out rest result) :
      Follows names h src ((t, c) :: rest) result

/-- Calls in which parsers, in their order, are asked with one source, up to the first that does not
answer this source again. -/
inductive Offered (h : Handler σ) (src : Text) : List σ → List (Call σ) → Prop
  | none : Offered h src [] []
  | last {parser : σ} {rest : List σ} {c : Call σ}
      (asked : c.asked = .stage parser (h.context src)) (answer : c.answer ≠ .ok src) :
      Offered h src (parser :: rest) [c]
  | next {parser : σ} {rest : List σ} {c : Call σ} {calls : List (Call σ)}
      (asked : c.asked = .stage parser (h.context src)) (answer : c.answer = .ok src)
      (more : Offered h src rest calls) : Offered h src (parser :: rest) (c :: calls)

namespace Conduct

variable {b : Conduct σ V} {h : Handler σ}

theorem turn_session (t : Turn σ) (src : Text) (w : Record σ V) :
    b.session.turn h src t w = ((b.call (t.asked h src) w).answer, b.enter (t.asked h src) w) := by
  cases t <;> rfl

/-- All that a first turn can come to: it answers and the others go on from there, or it refuses and
is the last. -/
theorem turn_cases (t : Turn σ) (src : Text) (w : Record σ V) :
    let c := b.call (t.asked h src) w
    let w' := b.enter (t.asked h src) w
    (∃ out, c.answer = .ok out ∧ ∀ ts,
      b.session.take h (t :: ts) src w = b.session.take h ts out w' ∧
      b.trail h (t :: ts) src w = (t, c) :: b.trail h ts out w') ∨
    (∃ message, c.answer = .error message ∧ ∀ ts,
      b.session.take h (t :: ts) src w = (.error (t.failure b.name message), w') ∧
      b.trail h (t :: ts) src w = [(t, c)]) := by
  intro c w'
  have turned : b.session.turn h src t w = (c.answer, w') := turn_session t src w
  cases answer : c.answer with
  | ok out =>
    rw [answer] at turned
    refine Or.inl ⟨out, rfl, fun ts => ⟨Session.take_cons_ok turned ts, ?_⟩⟩
    rw [trail, answer]
  | error message =>
    rw [answer] at turned
    refine Or.inr ⟨message, rfl, fun ts => ⟨Session.take_cons_error turned ts, ?_⟩⟩
    rw [trail, answer]

theorem take_session (ts : List (Turn σ)) (src : Text) (w : Record σ V) :
    let taken := b.session.take h ts src w
    let trail := b.trail h ts src w
    Follows b.name h src trail taken.1 ∧
      taken.2.calls = w.calls ++ trail.calls ∧
      taken.2.registry = b.after w.registry trail.calls := by
  induction ts generalizing src w with
  | nil => exact ⟨.done src, (List.append_nil w.calls).symm, rfl⟩
  | cons t ts ih =>
    obtain ⟨out, answer, step⟩ | ⟨message, answer, step⟩ := turn_cases t src w
    · rw [(step ts).1, (step ts).2]
      obtain ⟨follows, calls, registry⟩ := ih out (b.enter (t.asked h src) w)
      refine ⟨.next rfl answer follows, ?_, registry⟩
      rw [calls]
      simp only [enter, List.append_assoc]
      rfl
    · rw [(step ts).1, (step ts).2]
      exact ⟨.refused rfl answer, rfl, rfl⟩

/-- The turns of a trail are the first of those that are due; without a failure they are all. -/
theorem turns_trail (ts : List (Turn σ)) (src : Text) (w : Record σ V) :
    (b.trail h ts src w).turns <+: ts ∧
      ∀ out, (b.session.take h ts src w).1 = .ok out → (b.trail h ts src w).turns = ts := by
  induction ts generalizing src w with
  | nil => exact ⟨List.prefix_rfl, fun _ _ => rfl⟩
  | cons t ts ih =>
    obtain ⟨out, -, step⟩ | ⟨message, -, step⟩ := turn_cases t src w
    · rw [(step ts).1, (step ts).2]
      obtain ⟨first, all⟩ := ih out (b.enter (t.asked h src) w)
      exact ⟨(List.prefix_cons_inj t).mpr first, fun last ok => congrArg (t :: ·) (all last ok)⟩
    · rw [(step ts).1, (step ts).2]
      exact ⟨⟨ts, rfl⟩, fun out impossible => by cases impossible⟩

/-- The trail of a longer list goes on where that of its beginning ends. -/
theorem trail_append (first more : List (Turn σ)) (src : Text) (w : Record σ V) :
    b.trail h (first ++ more) src w = b.trail h first src w ++
      match b.session.take h first src w with
      | (.ok out, w) => b.trail h more out w
      | (.error _, _) => [] := by
  induction first generalizing src w with
  | nil => rfl
  | cons t first ih =>
    rw [List.cons_append]
    obtain ⟨out, -, step⟩ | ⟨message, -, step⟩ := turn_cases t src w
    · rw [(step first).1, (step first).2, (step (first ++ more)).2, ih]
      rfl
    · rw [(step first).1, (step first).2, (step (first ++ more)).2]
      rfl

theorem mem_of_mem_turns {ts : List (Turn σ)} {src : Text} {w : Record σ V} {t : Turn σ}
    (member : t ∈ (b.trail h ts src w).turns) : t ∈ ts :=
  (turns_trail ts src w).1.subset member

/-- What was called before a phase is what was called of the turns due before it. -/
theorem before_trail {ts early late : List (Turn σ)} {phase : Phase} (split : ts = early ++ late)
    (hearly : ∀ t ∈ early, t.phase.place < phase.place)
    (hlate : ∀ t ∈ late, phase.place ≤ t.phase.place) (src : Text) (w : Record σ V) :
    (b.trail h ts src w).before phase = b.trail h early src w := by
  have first : (b.trail h early src w).before phase = b.trail h early src w :=
    Trail.before_eq_self fun t ht => hearly t (mem_of_mem_turns ht)
  rw [split, trail_append, Trail.before_append, first]
  cases taken : b.session.take h early src w with | mk result w' =>
  cases result with
  | error e => exact List.append_nil _
  | ok out =>
    have rest : (b.trail h late out w').before phase = [] :=
      Trail.before_eq_nil fun t ht => hlate t (mem_of_mem_turns ht)
    exact (congrArg _ rest).trans (List.append_nil _)

/-- Every call of a trail was made in some world. -/
theorem call_of_mem_trail {ts : List (Turn σ)} {src : Text} {w : Record σ V} {c : Call σ}
    (member : c ∈ (b.trail h ts src w).calls) : ∃ w', c = b.call c.asked w' := by
  induction ts generalizing src w with
  | nil => simp [trail, Trail.calls] at member
  | cons t ts ih =>
    obtain ⟨out, -, step⟩ | ⟨message, -, step⟩ := turn_cases t src w
    · rw [(step ts).2] at member
      rcases List.mem_cons.mp member with rfl | member
      · exact ⟨w, rfl⟩
      · exact ih member
    · rw [(step ts).2] at member
      cases List.mem_singleton.mp member
      exact ⟨w, rfl⟩

/-- Every call finds the registry as the calls before it left it. -/
theorem found_of_mem_trail (ts : List (Turn σ)) (src : Text) (w : Record σ V)
    {before later : List (Call σ)} {call : Call σ}
    (split : (b.trail h ts src w).calls = before ++ call :: later) :
    call.found = b.after w.registry before := by
  induction ts generalizing src w before with
  | nil => simp [trail, Trail.calls] at split
  | cons t ts ih =>
    cases before with
    | nil =>
      simp only [trail, Trail.calls, List.map_cons] at split
      obtain ⟨rfl, -⟩ := List.cons.inj split
      rfl
    | cons c before =>
      obtain ⟨out, -, step⟩ | ⟨message, -, step⟩ := turn_cases t src w
      · rw [(step ts).2] at split
        obtain ⟨rfl, rest⟩ := List.cons.inj split
        exact ih out (b.enter (t.asked h src) w) rest
      · rw [(step ts).2] at split
        simp [Trail.calls] at split

end Conduct
end LiveMarkup
