import LiveMarkup.Proofs.Handler.Moments

/-!
Stages that answer under another name. Of the context that a stage answers only the source goes on,
so two sessions whose stages come to the same sources make the same runs, whatever identity and
configuration they put around them.

* `Conduct.Alike`: stages that cannot be told from one another by requests and sources;
* `Conduct.Twin`, `take_of_twin`: worlds that two such sessions keep in step, turn by turn;
* `Conduct.run_of_alike`: their runs, and what the stages of both are given.
-/

namespace LiveMarkup

variable {σ V V' : Type}

namespace Conduct

/-- Stages that ask for the same, and answer with the same source or the same refusal. The filename
and the configuration that they answer are their own affair, and so is what they keep for
themselves, as long as it makes no difference to this. -/
structure Alike (b : Conduct σ V) (b' : Conduct σ V') (alike : V → V' → Prop) : Prop where
  root : b'.root = b.root
  table : b'.table = b.table
  name : b'.name = b.name
  stage : ∀ s ctx r v v', alike v v' →
    let d := b.stage s ctx r v
    let d' := b'.stage s ctx r v'
    d'.requests = d.requests ∧ d'.answer.map Context.src = d.answer.map Context.src ∧
      alike d.kept d'.kept
  minifier : ∀ options src r v v', alike v v' →
    let d := b.minifier options src r v
    let d' := b'.minifier options src r v'
    d'.requests = d.requests ∧ d'.answer = d.answer ∧ alike d.kept d'.kept

/-- Worlds in which the same calls were made. -/
structure Twin (alike : V → V' → Prop) (w : Record σ V) (w' : Record σ V') : Prop where
  registry : w'.registry = w.registry
  calls : w'.calls = w.calls
  kept : alike w.kept w'.kept

variable {b : Conduct σ V} {b' : Conduct σ V'} {alike : V → V' → Prop} {h : Handler σ}

theorem Alike.deed (same : b.Alike b' alike) (asked : Asked σ) (r : Registry σ) {v : V} {v' : V'}
    (kept : alike v v') :
    (b'.deed asked r v').requests = (b.deed asked r v).requests ∧
      (b'.deed asked r v').answer = (b.deed asked r v).answer ∧
      alike (b.deed asked r v).kept (b'.deed asked r v').kept := by
  cases asked with
  | stage s ctx => exact same.stage s ctx r v v' kept
  | minifier options src => exact same.minifier options src r v v' kept

/-- The same is called in twin worlds, and they stay twins. -/
theorem enter_of_twin (same : b.Alike b' alike) (asked : Asked σ) {w : Record σ V}
    {w' : Record σ V'} (twin : Twin alike w w') :
    b'.call asked w' = b.call asked w ∧ Twin alike (b.enter asked w) (b'.enter asked w') := by
  obtain ⟨requests, answer, kept⟩ := same.deed asked w.registry twin.kept
  have called : b'.call asked w' = b.call asked w := by
    simp only [call, twin.registry, requests, answer]
  refine ⟨called, ⟨?_, ?_, ?_⟩⟩
  · simp only [enter, serve, same.root, same.table, twin.registry, requests]
  · simp only [enter, called, twin.calls]
  · simpa only [enter, twin.registry] using kept

theorem turn_of_twin (same : b.Alike b' alike) (t : Turn σ) (src : Text) {w : Record σ V}
    {w' : Record σ V'} (twin : Twin alike w w') :
    (b'.session.turn h src t w').1 = (b.session.turn h src t w).1 ∧
      Twin alike (b.session.turn h src t w).2 (b'.session.turn h src t w').2 := by
  obtain ⟨called, twin⟩ := enter_of_twin same (t.asked h src) twin
  rw [turn_session, turn_session, called]
  exact ⟨rfl, twin⟩

theorem take_of_twin (same : b.Alike b' alike) (ts : List (Turn σ)) (src : Text)
    {w : Record σ V} {w' : Record σ V'} (twin : Twin alike w w') :
    (b'.session.take h ts src w').1 = (b.session.take h ts src w).1 ∧
      Twin alike (b.session.take h ts src w).2 (b'.session.take h ts src w').2 := by
  induction ts generalizing src w w' with
  | nil => exact ⟨rfl, twin⟩
  | cons t ts ih =>
    obtain ⟨answered, twin⟩ := turn_of_twin (h := h) same t src twin
    cases turned : b.session.turn h src t w with | mk answer left =>
    cases turned' : b'.session.turn h src t w' with | mk answer' left' =>
    rw [turned, turned'] at answered twin
    obtain rfl : answer' = answer := answered
    cases answer' with
    | ok out =>
      rw [Session.take_cons_ok turned, Session.take_cons_ok turned']
      exact ih out twin
    | error message =>
      rw [Session.take_cons_error turned, Session.take_cons_error turned']
      have names : b'.session.stages.name = b.session.stages.name := same.name
      exact ⟨by rw [names], twin⟩

theorem parsing_of_twin (same : b.Alike b' alike) (parsers : List σ) (src : Text)
    {w : Record σ V} {w' : Record σ V'} (twin : Twin alike w w') :
    b'.session.parsing h src parsers w' = b.session.parsing h src parsers w := by
  induction parsers generalizing w w' with
  | nil => rfl
  | cons parser rest ih =>
    obtain ⟨answered, twin⟩ := turn_of_twin (h := h) same (.stage .parse parser) src twin
    cases turned : b.session.turn h src (.stage .parse parser) w with | mk answer left =>
    cases turned' : b'.session.turn h src (.stage .parse parser) w' with | mk answer' left' =>
    rw [turned, turned'] at answered twin
    obtain rfl : answer' = answer := answered
    cases answer' with
    | ok out =>
      rw [Session.parsing_cons_ok turned, Session.parsing_cons_ok turned', ih twin]
    | error message =>
      rw [Session.parsing_cons_error turned, Session.parsing_cons_error turned']

theorem registryAfter_of_twin (same : b.Alike b' alike) (ts : List (Turn σ)) (src : Text)
    {w : Record σ V} {w' : Record σ V'} (twin : Twin alike w w') :
    b'.session.registryAfter h ts src w' = b.session.registryAfter h ts src w :=
  (take_of_twin same ts src twin).2.registry

/-- The same turns are due in twin worlds. -/
theorem due_of_twin (same : b.Alike b' alike) (src : Text) {w : Record σ V}
    {w' : Record σ V'} (twin : Twin alike w w') :
    b'.session.due h src w' = b.session.due h src w := by
  simp only [Session.due, parsing_of_twin same h.parsers src twin,
    registryAfter_of_twin same _ src twin]

/-- In a run every call is made with what is asked in a turn of this handler. -/
theorem asked_of_follows {names : σ → Text} {src : Text} {trail : Trail σ}
    {result : Except Failure Text} (follows : Follows names h src trail result) :
    ∀ c ∈ trail.calls, ∃ (t : Turn σ) (s : Text), c.asked = t.asked h s := by
  induction follows with
  | done => exact fun c member => absurd member List.not_mem_nil
  | refused asked _ =>
    intro c member
    cases List.mem_singleton.mp member
    exact ⟨_, _, asked⟩
  | next asked _ _ ih =>
    intro c member
    obtain rfl | member := List.mem_cons.mp member
    · exact ⟨_, _, asked⟩
    · exact ih c member

/-- Every stage that is called in a run is given the identity and the configuration of its handler,
and the run answers with them. -/
theorem run_in_context (b : Conduct σ V) (h : Handler σ) (src : Text) (r : Registry σ) (v : V) :
    let ran := b.session.run h src ⟨r, v, []⟩
    (∀ c ∈ ran.2.calls, ∀ stage ctx, c.asked = .stage stage ctx →
      ctx.filename = h.filename ∧ ctx.config = h.config) ∧
    ∀ ctx, ran.1 = .ok ctx → ctx.filename = h.filename ∧ ctx.config = h.config := by
  intro ran
  obtain ⟨calls, -, -, follows, -⟩ := run_session (b := b) (h := h) src ⟨r, v, []⟩
  constructor
  · intro c member stage ctx handed
    rw [calls, List.nil_append] at member
    obtain ⟨t, s, asked⟩ := asked_of_follows follows c member
    rw [handed] at asked
    cases t with
    | minifier options => cases asked
    | stage phase stage =>
      cases asked
      exact ⟨rfl, rfl⟩
  · intro ctx done
    rw [Session.context_of_run (Prod.ext done rfl : b.session.run h src ⟨r, v, []⟩ = (_, ran.2))]
    exact ⟨rfl, rfl⟩

/-- Stages have no say in identity and configuration. If the stages of another session come to the
same sources and refusals, under whatever filenames and configurations, then its run of a handler
ends in the same way and leaves the same registry, and it makes the same calls with the same
contexts; in these, and in what the run answers, identity and configuration are those of the
handler. -/
theorem run_of_alike (same : b.Alike b' alike) (h : Handler σ) (src : Text) (r : Registry σ)
    (v : V) (v' : V') (kept : alike v v') :
    let ran := b.session.run h src ⟨r, v, []⟩
    let ran' := b'.session.run h src ⟨r, v', []⟩
    ran'.1 = ran.1 ∧ ran'.2.calls = ran.2.calls ∧ ran'.2.registry = ran.2.registry ∧
      alike ran.2.kept ran'.2.kept ∧
      (∀ c ∈ ran.2.calls, ∀ stage ctx, c.asked = .stage stage ctx →
        ctx.filename = h.filename ∧ ctx.config = h.config) ∧
      (∀ c ∈ ran'.2.calls, ∀ stage ctx, c.asked = .stage stage ctx →
        ctx.filename = h.filename ∧ ctx.config = h.config) ∧
      ∀ ctx, ran.1 = .ok ctx ∨ ran'.1 = .ok ctx →
        ctx.filename = h.filename ∧ ctx.config = h.config := by
  intro ran ran'
  have twin : Twin alike (⟨r, v, []⟩ : Record σ V) ⟨r, v', []⟩ := ⟨rfl, rfl, kept⟩
  obtain ⟨result, twins⟩ := take_of_twin (h := h) same (b.session.due h src ⟨r, v, []⟩) src twin
  have first := Session.run_eq_take (s := b.session) (h := h) src ⟨r, v, []⟩
  have second := Session.run_eq_take (s := b'.session) (h := h) src ⟨r, v', []⟩
  rw [due_of_twin same src twin] at second
  obtain ⟨given, answered⟩ := run_in_context b h src r v
  obtain ⟨given', answered'⟩ := run_in_context b' h src r v'
  have ends : ran'.1 = ran.1 := by
    simp only [ran, ran', first, second, Session.inContext, result]
  have worlds : Twin alike ran.2 ran'.2 := by
    simp only [ran, ran', first, second, Session.inContext]
    exact twins
  refine ⟨ends, worlds.calls, worlds.registry, worlds.kept, given, given', fun ctx done => ?_⟩
  obtain done | done := done
  · exact answered ctx done
  · exact answered' ctx done

/-- The parser, the stages around the processors and the processor all answer in the name of another
file; what comes of a source is the same as if they kept to their context. -/
theorem run_of_alike_disguised :
    let mark (src : Text) : Except Text Text :=
      if src = "b".toList then .error "no".toList else .ok (src ++ ['!'])
    let acting (disguise : Context Nat → Context Nat) : Conduct Nat Unit :=
      { root := "/p".toList
        table := {}
        name := fun _ => "stage".toList
        stage := fun _ ctx _ v => ⟨[], (mark ctx.src).map fun src => disguise (ctx.withSrc src), v⟩
        minifier := fun _ src _ v => ⟨[], .ok src, v⟩ }
    let h : Handler Nat := ⟨{ live := some "s".toList }, "a.html".toList, [0], [1]⟩
    let r : Registry Nat := { pre := [2], post := [3] }
    let ran (disguise : Context Nat → Context Nat) (src : Text) :=
      (acting disguise).session.run h src ⟨r, (), []⟩
    let other (ctx : Context Nat) : Context Nat := ⟨{}, "b.html".toList, ctx.src⟩
    (∀ src, (ran other src).1 = (ran id src).1 ∧ (ran other src).2.calls = (ran id src).2.calls) ∧
      (ran other "a".toList).1 = .ok (h.context "a!!!!".toList) ∧
      (ran other "b".toList).1 = .error (.stage .parse "stage".toList "no".toList) := by
  intro mark acting h r ran other
  have same : (acting id).Alike (acting other) fun _ _ => True := by
    refine ⟨rfl, rfl, rfl, fun s ctx r v v' _ => ⟨rfl, ?_, trivial⟩, fun options src r v v' _ =>
      ⟨rfl, rfl, trivial⟩⟩
    change ((mark ctx.src).map _).map Context.src = ((mark ctx.src).map _).map Context.src
    cases mark ctx.src <;> rfl
  have runs (src : Text) := run_of_alike same h src r () () trivial
  refine ⟨fun src => ⟨(runs src).1, (runs src).2.1⟩, ?_, ?_⟩
  · exact (runs _).1.trans rfl
  · exact (runs _).1.trans rfl

end Conduct
end LiveMarkup
