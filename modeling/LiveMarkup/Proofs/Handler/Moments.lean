import LiveMarkup.Proofs.Handler.Record

/-!
The moments at which a run reads the registry. What the registry holds at a moment follows from the
calls made before it, so a phase goes through the list that was there when the phase began, and
what a stage changes is seen by the phases that follow.
-/

namespace LiveMarkup

variable {σ V : Type}

namespace Conduct

section

variable (b : Conduct σ V) (h : Handler σ)

/-- The registry that a run finds when it reaches a phase. -/
def reached (r : Registry σ) (trail : Trail σ) (phase : Phase) : Registry σ :=
  b.after r (trail.before phase).calls

/-- The turns that are due in a run with a trail: those of the parsers that were tried, and then the
lists that the registry and the handler hold for the later phases. -/
def dueBy (r : Registry σ) (trail : Trail σ) : List (Turn σ) :=
  (trail.before .pre).turns ++ (b.reached r trail .pre).pre.map (.stage .pre) ++
    h.processors.map (.stage .perFile) ++ (b.reached r trail .post).post.map (.stage .post) ++
    (b.reached r trail .finalize).settings.minify.options?.toList.map .minifier

end

variable {b : Conduct σ V} {h : Handler σ}

/-- All parsers that are tried get their turn, and they are offered the source as it came. -/
theorem trail_parsing (parsers : List σ) (src : Text) (w : Record σ V) :
    Offered h src parsers (b.trail h (b.session.parsing h src parsers w) src w).calls ∧
      (b.trail h (b.session.parsing h src parsers w) src w).turns =
        b.session.parsing h src parsers w := by
  induction parsers generalizing w with
  | nil => exact ⟨.none, rfl⟩
  | cons parser rest ih =>
    let turn : Turn σ := .stage .parse parser
    have turned := turn_session (b := b) (h := h) turn src w
    obtain ⟨out, answer, step⟩ | ⟨message, answer, step⟩ := turn_cases (h := h) turn src w
    · rw [answer] at turned
      rw [Session.parsing_cons_ok turned, (step _).2]
      by_cases same : out = src
      · obtain ⟨offered, turns⟩ := ih (b.enter (turn.asked h src) w)
        rw [if_pos same]
        rw [same] at answer ⊢
        exact ⟨.next rfl answer offered, congrArg (turn :: ·) turns⟩
      · rw [if_neg same]
        refine ⟨.last rfl ?_, rfl⟩
        rw [answer]
        exact fun handed => same (Except.ok.inj handed)
    · rw [answer] at turned
      rw [Session.parsing_cons_error turned, (step _).2]
      refine ⟨.last rfl ?_, rfl⟩
      rw [answer]
      exact fun handed => by cases handed

theorem reached_eq {ts early late : List (Turn σ)} {phase : Phase} (split : ts = early ++ late)
    (hearly : ∀ t ∈ early, t.phase.place < phase.place)
    (hlate : ∀ t ∈ late, phase.place ≤ t.phase.place) (src : Text) (w : Record σ V) :
    b.reached w.registry (b.trail h ts src w) phase = b.session.registryAfter h early src w := by
  obtain ⟨-, -, registry⟩ := take_session (b := b) (h := h) early src w
  rw [reached, before_trail split hearly hlate]
  exact registry.symm

/-- Which turns are due can be told from the calls. -/
theorem due_eq_dueBy (src : Text) (w : Record σ V) :
    let due := b.session.due h src w
    let trail := b.trail h due src w
    due = b.dueBy h w.registry trail ∧ Offered h src h.parsers (trail.before .pre).calls := by
  intro due trail
  let parsing := b.session.parsing h src h.parsers w
  let before : List (Turn σ) :=
    (b.session.registryAfter h parsing src w).pre.map (.stage .pre)
  let own : List (Turn σ) := h.processors.map (.stage .perFile)
  let after : List (Turn σ) :=
    (b.session.registryAfter h (parsing ++ before ++ own) src w).post.map (.stage .post)
  let last : List (Turn σ) :=
    (b.session.registryAfter h (parsing ++ before ++ own ++ after) src
      w).settings.minify.options?.toList.map .minifier
  have hparsing : ∀ t ∈ parsing, t.phase = .parse := by
    intro t ht
    obtain ⟨parser, -, rfl⟩ := Session.mem_of_mem_parsing ht
    rfl
  have hbefore : ∀ t ∈ before, t.phase = .pre := by simp [before, Turn.phase]
  have hown : ∀ t ∈ own, t.phase = .perFile := by simp [own, Turn.phase]
  have hafter : ∀ t ∈ after, t.phase = .post := by simp [after, Turn.phase]
  have hlast : ∀ t ∈ last, t.phase = .finalize := by simp [last, Turn.phase]
  have whole : due = parsing ++ before ++ own ++ after ++ last := rfl
  -- The list is split where a phase begins whose turns depend on the registry.
  have atPre : due = parsing ++ (before ++ own ++ after ++ last) := by
    simp only [whole, List.append_assoc]
  have atPost : due = parsing ++ before ++ own ++ (after ++ last) := by
    simp only [whole, List.append_assoc]
  have behindPre : ∀ t ∈ before ++ own ++ after ++ last, Phase.pre.place ≤ t.phase.place := by
    grind [Phase.place]
  have prepared : b.reached w.registry trail .pre = b.session.registryAfter h parsing src w :=
    reached_eq atPre (by grind [Phase.place]) behindPre src w
  have processed : b.reached w.registry trail .post =
      b.session.registryAfter h (parsing ++ before ++ own) src w :=
    reached_eq atPost (by grind [Phase.place]) (by grind [Phase.place]) src w
  have settled : b.reached w.registry trail .finalize =
      b.session.registryAfter h (parsing ++ before ++ own ++ after) src w :=
    reached_eq whole (by grind [Phase.place]) (by grind [Phase.place]) src w
  have tried : trail.before .pre = b.trail h parsing src w :=
    before_trail atPre (by grind [Phase.place]) behindPre src w
  obtain ⟨offered, turns⟩ := trail_parsing (b := b) (h := h) h.parsers src w
  constructor
  · rw [dueBy, prepared, processed, settled, tried, turns]
    rfl
  · rw [tried]
    exact offered

/-- A run in which stages and minifier act in some way is told by its trail. -/
theorem run_session (src : Text) (w : Record σ V) :
    let ran := b.session.run h src w
    let trail := b.trail h (b.session.due h src w) src w
    ran.2.calls = w.calls ++ trail.calls ∧
      ran.2.registry = b.after w.registry trail.calls ∧
      Offered h src h.parsers (trail.before .pre).calls ∧
      Follows b.name h src trail (ran.1.map Context.src) ∧
      trail.turns <+: b.dueBy h w.registry trail ∧
      ∀ ctx, ran.1 = .ok ctx →
        trail.turns = b.dueBy h w.registry trail ∧ ctx = h.context ctx.src := by
  intro ran trail
  obtain ⟨due, offered⟩ := due_eq_dueBy (b := b) (h := h) src w
  obtain ⟨first, all⟩ := turns_trail (b := b) (h := h) (b.session.due h src w) src w
  obtain ⟨follows, calls, registry⟩ :=
    take_session (b := b) (h := h) (b.session.due h src w) src w
  have src_eq := Session.src_of_run (s := b.session) (h := h) src w
  have world : ran.2 = (b.session.take h (b.session.due h src w) src w).2 :=
    congrArg Prod.snd (Session.run_eq_take src w)
  rw [src_eq, world, ← due]
  refine ⟨calls, registry, offered, follows, first, fun ctx done => ⟨all ctx.src ?_, ?_⟩⟩
  · rw [← src_eq]
    exact congrArg (Except.map Context.src) done
  · exact Session.context_of_run (Prod.ext done rfl)

/-- Whatever the registry is asked for in the calls of a run, each phase goes through the list that
was there when the phase was reached, and the run leaves the registry as its calls do. -/
theorem run_registry (b : Conduct σ V) (h : Handler σ) (src : Text) (r : Registry σ) (v : V) :
    let ran := b.session.run h src ⟨r, v, []⟩
    ∃ trail : Trail σ,
      ran.2.calls = trail.calls ∧
      (∀ c ∈ trail.calls, ∃ w, c = b.call c.asked w) ∧
      Offered h src h.parsers (trail.before .pre).calls ∧
      Follows b.name h src trail (ran.1.map Context.src) ∧
      trail.turns <+: b.dueBy h r trail ∧
      (∀ ctx, ran.1 = .ok ctx → trail.turns = b.dueBy h r trail) ∧
      ran.2.registry = b.after r trail.calls ∧
      ∀ before c later, trail.calls = before ++ c :: later → c.found = b.after r before := by
  intro ran
  let w : Record σ V := ⟨r, v, []⟩
  obtain ⟨calls, registry, offered, follows, first, all⟩ := run_session (b := b) (h := h) src w
  refine ⟨b.trail h (b.session.due h src w) src w, calls, fun c => call_of_mem_trail, offered,
    follows, first, fun ctx done => (all ctx done).1, registry, ?_⟩
  intro before c later split
  exact found_of_mem_trail _ src w split

end Conduct
end LiveMarkup
