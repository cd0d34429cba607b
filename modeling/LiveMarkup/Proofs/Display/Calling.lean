import LiveMarkup.Proofs.Display.Numbers

/-!
What tasks tell.

* `Scene.Quiet`, `Scene.quiet_act`: a step tells nobody by itself, and brings scripts along;
* `Scene.Known`, `Play.Known`, `Run.known`: every listener that can be called has a script;
* `Play.Turn`, `Run.turn`: what the turn of a task comes to. A listener that is called notes what it
  is told, a sink shows it, a module takes it, and nobody else is told of anything.
-/

namespace LiveMarkup.Display

/-- Who was told of what. -/
def Note.told? : Note → Option (Text × Text)
  | told id text => some (id, text)
  | did .. => none

namespace Scene

/-- All that listeners have been told, in order. -/
def heard (sc : Scene) : List (Text × Text) :=
  sc.notes.filterMap Note.told?

/-- Whoever listens for itself, to a module or under a key, has a script. -/
structure Known (sc : Scene) : Prop where
  listeners : ∀ md ∈ sc.modules, ∀ l ∈ md.listeners, ∀ i, l.target = .script i →
    i < sc.scripts.length
  bindings : ∀ b ∈ sc.client.bindings, ∀ i, b.receiver = .script i → i < sc.scripts.length

/-- A scene with tasks that it has led to: whoever they call has a script. -/
structure Leads (sc : Scene) (result : Scene × List Task) : Prop where
  known : result.1.Known
  scripts : sc.scripts.length ≤ result.1.scripts.length
  calls : ∀ t ∈ result.2, ∀ i text, t.call? = some (i, text) → i < result.1.scripts.length

/-- No script is lost, nothing is noted, and whoever begins to listen for itself has a script. -/
structure Quiet (sc next : Scene) : Prop where
  scripts : sc.scripts.length ≤ next.scripts.length
  notes : next.notes = sc.notes
  listeners : ∀ md ∈ next.modules, ∀ l ∈ md.listeners,
    (∃ md' ∈ sc.modules, l ∈ md'.listeners) ∨
      ∀ i, l.target = .script i → i < next.scripts.length
  bindings : ∀ b ∈ next.client.bindings, b ∈ sc.client.bindings ∨
    ∀ i, b.receiver = .script i → i < next.scripts.length

variable {sc next last : Scene}

theorem Known.mono (known : sc.Known) (modules : next.modules = sc.modules)
    (client : next.client = sc.client) (scripts : sc.scripts.length ≤ next.scripts.length) :
    next.Known := by
  refine ⟨?_, ?_⟩
  · rw [modules]
    exact fun md made l listens i target =>
      Nat.lt_of_lt_of_le (known.listeners md made l listens i target) scripts
  · rw [client]
    exact fun b bound i receiver =>
      Nat.lt_of_lt_of_le (known.bindings b bound i receiver) scripts

theorem Known.of_quiet (known : sc.Known) (quiet : sc.Quiet next) : next.Known := by
  refine ⟨fun md made l listens i target => ?_, fun b bound i receiver => ?_⟩
  · obtain ⟨md', before, old⟩ | new := quiet.listeners md made l listens
    · exact Nat.lt_of_lt_of_le (known.listeners md' before l old i target) quiet.scripts
    · exact new i target
  · obtain old | new := quiet.bindings b bound
    · exact Nat.lt_of_lt_of_le (known.bindings b old i receiver) quiet.scripts
    · exact new i receiver

namespace Quiet

theorem of_eq (modules : next.modules = sc.modules) (client : next.client = sc.client)
    (scripts : sc.scripts.length ≤ next.scripts.length) (notes : next.notes = sc.notes) :
    sc.Quiet next := by
  refine ⟨scripts, notes, ?_, ?_⟩
  · rw [modules]
    exact fun md made l listens => Or.inl ⟨md, made, listens⟩
  · rw [client]
    exact fun b => Or.inl

theorem refl (sc : Scene) : sc.Quiet sc :=
  .of_eq rfl rfl (Nat.le_refl _) rfl

theorem trans (first : sc.Quiet next) (second : next.Quiet last) : sc.Quiet last := by
  refine ⟨Nat.le_trans first.scripts second.scripts, second.notes.trans first.notes, ?_, ?_⟩
  · intro md made l listens
    obtain ⟨md', before, old⟩ | new := second.listeners md made l listens
    · refine (first.listeners md' before l old).imp_right fun script i target => ?_
      exact Nat.lt_of_lt_of_le (script i target) second.scripts
    · exact Or.inr new
  · intro b bound
    obtain old | new := second.bindings b bound
    · refine (first.bindings b old).imp_right fun script i receiver => ?_
      exact Nat.lt_of_lt_of_le (script i receiver) second.scripts
    · exact Or.inr new

theorem modify (sc : Scene) (n : Nat) {f : Module → Module}
    (comes : ∀ md, ∀ l ∈ (f md).listeners, l ∈ md.listeners ∨
      ∀ i, l.target = .script i → i < sc.scripts.length) : sc.Quiet (sc.modifyModule n f) := by
  refine ⟨Nat.le_refl _, rfl, ?_, fun b => Or.inl⟩
  intro md' member l listens
  obtain ⟨j, found⟩ := List.mem_iff_getElem?.mp member
  simp only [modifyModule, List.getElem?_modify] at found
  obtain ⟨md, before, rfl⟩ := Option.map_eq_some_iff.mp found
  have made : md ∈ sc.modules := List.mem_of_getElem? before
  split at listens
  · exact (comes md l listens).imp_left fun old => ⟨md, made, old⟩
  · exact Or.inl ⟨md, made, listens⟩

theorem attach (sc : Scene) (n : Nat) (md : Module) (id : Text) {target : Target}
    (script : ∀ i, target = .script i → i < sc.scripts.length) :
    sc.Quiet (sc.attach n md id target) := by
  have attached : sc.Quiet (sc.modifyModule n (·.attach target)) := by
    refine .modify sc n ?_
    intro md l listens
    obtain old | new := List.mem_append.mp listens
    · exact Or.inl old
    · rw [List.mem_singleton.mp new]
      exact Or.inr script
  exact attached.trans (.of_eq rfl rfl (Nat.le_refl _) rfl)

theorem detach (sc : Scene) (n id : Nat) : sc.Quiet (sc.modifyModule n (·.detach id)) :=
  .modify sc n fun _ _ listens => Or.inl (List.mem_filter.mp listens).1

theorem bind (sc : Scene) (key id : Text) {receiver : Receiver}
    (script : ∀ i, receiver = .script i → i < sc.scripts.length) :
    sc.Quiet (sc.bind key id receiver) := by
  refine ⟨Nat.le_refl _, rfl, fun md made l listens => Or.inl ⟨md, made, listens⟩, ?_⟩
  intro b bound
  obtain old | new := List.mem_append.mp bound
  · exact Or.inl old
  · rw [List.mem_singleton.mp new]
    exact Or.inr script

theorem filter (sc : Scene) (keep : Binding → Bool) :
    sc.Quiet { sc with client :=
      { sc.client with bindings := sc.client.bindings.filter keep } } :=
  ⟨Nat.le_refl _, rfl, fun md made _ listens => Or.inl ⟨md, made, listens⟩,
    fun _ bound => Or.inl (List.mem_filter.mp bound).1⟩

theorem addScript (sc : Scene) (s : Script) : sc.Quiet (sc.addScript s) := by
  refine .of_eq rfl rfl ?_ rfl
  simp [Scene.addScript]

theorem fill (sc : Scene) (k : Nat) (content : Text) : sc.Quiet (sc.fill k content) := by
  rw [fill_eq]
  exact .of_eq rfl rfl (Nat.le_refl _) rfl

theorem remove (sc : Scene) (h : Handle) : sc.Quiet (sc.remove h) := by
  unfold Scene.remove
  split
  · exact (Quiet.detach sc h.module h.id).trans (.fill _ h.sink [])
  · exact .fill sc h.sink []

theorem addModule (sc : Scene) (m src : Text) : sc.Quiet (sc.addModule m src) := by
  refine ⟨Nat.le_refl _, rfl, ?_, fun b => Or.inl⟩
  intro md member l listens
  obtain old | new := List.mem_append.mp member
  · exact Or.inl ⟨md, old, listens⟩
  · rw [List.mem_singleton.mp new] at listens
    exact absurd listens List.not_mem_nil

end Quiet

/-- A step that tells no listener is quiet. -/
theorem quiet_act (sc : Scene) (step : Step) : sc.Quiet (sc.act step).2 := by
  have added (script : Script) (i : Nat) (target : sc.scripts.length = i) :
      i < (sc.addScript script).scripts.length := by
    simp [addScript, ← target]
  cases step with
  | module m src => exact .addModule sc m src
  | onChange m id actions runs =>
    simp only [act]
    split
    · rename_i n md _
      refine (Quiet.addScript sc ⟨id, actions, runs⟩).trans (.attach _ n md id ?_)
      exact fun i target => added _ i (Target.script.inj target)
    · exact .refl sc
  | on key id actions runs =>
    refine (Quiet.addScript sc ⟨id, actions, runs⟩).trans (.bind _ key id ?_)
    exact fun i receiver => added _ i (Receiver.script.inj receiver)
  | bind uid m id =>
    simp only [act]
    split
    · refine .bind sc (Change.keyOf uid) id ?_
      rintro i ⟨⟩
    · exact .refl sc
  | off key id =>
    simp only [act]
    split
    · exact .filter sc _
    · exact .refl sc
  | offChange m id =>
    simp only [act]
    split
    · exact .detach sc _ _
    · exact .refl sc
  | insert m s h =>
    simp only [act]
    split
    · rename_i n md k content _ _
      refine ((Quiet.fill sc k md.src).trans (.attach _ n md h ?_)).trans
        (.of_eq rfl rfl (Nat.le_refl _) rfl)
      rintro i ⟨⟩
    · exact .refl sc
  | remove h =>
    simp only [act]
    split
    · rename_i handle _
      have forgot : sc.Quiet { sc with handles := sc.handles.forget h } :=
        .of_eq rfl rfl (Nat.le_refl _) rfl
      exact forgot.trans (.remove _ handle)
    · exact .refl sc
  | render s content =>
    simp only [act]
    split
    · exact .fill sc _ content
    · exact .refl sc
  | _ =>
    simp only [act]
    first
      | exact .of_eq rfl rfl (Nat.le_refl _) rfl
      | split <;> exact .of_eq rfl rfl (Nat.le_refl _) rfl

/-- Whom an update tells has listened to its module before. -/
theorem leads_beginUpdate (known : sc.Known) (n : Nat) (src : Text) :
    sc.Leads (sc.beginUpdate n src) := by
  have updated : (sc.beginUpdate n src).1.Known := by
    have held : Known { sc with held := n :: sc.held } := known.mono rfl rfl (Nat.le_refl _)
    exact held.of_quiet (.modify _ n fun _ _ listens => Or.inl (List.mem_filter.mp listens).1)
  have tasks : (sc.beginUpdate n src).2 =
      (((sc.beginUpdate n src).1.modules[n]?.map (·.targets)).getD []).map (.tell n · src) ++
        [.release n] := rfl
  refine ⟨updated, Nat.le_refl _, ?_⟩
  intro t member i text calls
  rw [tasks] at member
  obtain told | ends := List.mem_append.mp member
  · obtain ⟨target, listens, rfl⟩ := List.mem_map.mp told
    cases target with
    | sink k => cases calls
    | script j =>
      cases calls
      cases found : (sc.beginUpdate n src).1.modules[n]? with
      | none =>
        rw [found] at listens
        exact absurd listens List.not_mem_nil
      | some md =>
        rw [found] at listens
        obtain ⟨l, listens, target⟩ := List.mem_map.mp listens
        exact updated.listeners md (List.mem_of_getElem? found) l listens i target
  · rw [List.mem_singleton.mp ends] at calls
    cases calls

/-- Whom an event tells was bound to its key before. -/
theorem leads_beginEvent (known : sc.Known) (key payload : Text) :
    sc.Leads (sc.beginEvent key payload) := by
  refine ⟨known.of_quiet (.filter sc _), Nat.le_refl _, ?_⟩
  intro t member i text calls
  obtain ⟨receiver, told, rfl⟩ := List.mem_map.mp member
  obtain ⟨b, bound, rfl⟩ := List.mem_map.mp told
  have before : b ∈ sc.client.bindings := (List.mem_filter.mp (List.mem_filter.mp bound).1).1
  cases receiver : b.receiver with
  | module n =>
    rw [receiver] at calls
    cases calls
  | script j =>
    rw [receiver] at calls
    cases calls
    exact known.bindings b before i receiver

/-- Tasks that call nobody. -/
theorem Leads.of_uncalled {ts : List Task} (known : next.Known)
    (scripts : sc.scripts.length ≤ next.scripts.length) (uncalled : ∀ t ∈ ts, t.call? = none) :
    sc.Leads (next, ts) := by
  refine ⟨known, scripts, ?_⟩
  intro t member i text calls
  rw [uncalled t member] at calls
  cases calls

theorem uncalled_perform (caller : Option Text) (steps : List Step) :
    ∀ t ∈ steps.map (Task.perform caller), t.call? = none := by
  intro t member
  obtain ⟨step, -, rfl⟩ := List.mem_map.mp member
  rfl

theorem leads_of_act (known : sc.Known) {caller : Option Text} {step : Step}
    (acts : sc.begin caller step = ((sc.act step).2, [.report caller step.word (sc.act step).1])) :
    sc.Leads (sc.begin caller step) := by
  rw [acts]
  have quiet := quiet_act sc step
  exact .of_uncalled (known.of_quiet quiet) quiet.scripts (by simp [Task.call?])

theorem leads_begin (known : sc.Known) (caller : Option Text) (step : Step) :
    sc.Leads (sc.begin caller step) := by
  cases step with
  | update m src =>
    simp only [begin]
    split
    · rename_i n _
      obtain ⟨updated, scripts, calls⟩ := leads_beginUpdate known n src
      refine ⟨updated, scripts, ?_⟩
      intro t member i text called
      obtain told | report := List.mem_append.mp member
      · exact calls t told i text called
      · rw [List.mem_singleton.mp report] at called
        cases called
    · exact .of_uncalled known (Nat.le_refl _) (by simp [Task.call?])
  | emit | receive =>
    exact .of_uncalled known (Nat.le_refl _) (by simp [Task.call?])
  | listen changes =>
    refine .of_uncalled known (Nat.le_refl _) ?_
    intro t member
    obtain emitted | report := List.mem_append.mp member
    · obtain ⟨c, -, rfl⟩ := List.mem_map.mp emitted
      rfl
    · rw [List.mem_singleton.mp report]
      rfl
  | _ => exact leads_of_act known rfl

theorem leads_tell (known : sc.Known) (target : Target) (text : Text) :
    sc.Leads (sc.tell target text) := by
  cases target with
  | sink k =>
    have quiet := Quiet.fill sc k text
    exact .of_uncalled (known.of_quiet quiet) quiet.scripts (by simp)
  | script i =>
    simp only [tell]
    split
    · exact .of_uncalled known (Nat.le_refl _) (by simp)
    · rename_i s _
      split
      · exact .of_uncalled (known.mono rfl rfl (Nat.le_refl _)) (Nat.le_refl _) (by simp)
      · rename_i left _
        have same : sc.scripts.length ≤ (sc.scripts.set i { s with left }).length := by simp
        exact .of_uncalled (known.mono rfl rfl same) same (uncalled_perform _ _)

theorem leads_deliver (known : sc.Known) (receiver : Receiver) (payload : Text) :
    sc.Leads (sc.deliver receiver payload) := by
  cases receiver with
  | script i => exact leads_tell known (.script i) payload
  | module n =>
    simp only [deliver]
    split
    · exact leads_beginUpdate known n payload
    · exact .of_uncalled known (Nat.le_refl _) (by simp)

end Scene

namespace Play

/-- Whoever can be called has a script, now and when the tasks have their turn. -/
structure Known (p : Play) : Prop where
  scene : p.scene.Known
  agenda : ∀ t ∈ p.agenda, ∀ i text, t.call? = some (i, text) → i < p.scene.scripts.length

variable {p q : Play} {t : Task} {rest : List Task}

theorem Known.goOn (known : p.Known) (front : p.agenda = t :: rest) {result : Scene × List Task}
    (leads : p.scene.Leads result) : Known (p.goOn rest result) := by
  refine ⟨leads.known, ?_⟩
  intro t' member i text calls
  obtain new | old := List.mem_append.mp member
  · exact leads.calls t' new i text calls
  · have left : t' ∈ p.agenda := front ▸ List.mem_cons_of_mem t old
    exact Nat.lt_of_lt_of_le (known.agenda t' left i text calls) leads.scripts

theorem Known.next (known : p.Known) (h : p.Next q) : q.Known := by
  cases h with
  | called caller steps front calls found =>
    have noted (n : Note) : (p.scene.note n).Known := known.scene.mono rfl rfl (Nat.le_refl _)
    exact known.goOn front (.of_uncalled (noted _) (Nat.le_refl _)
      (Scene.uncalled_perform caller steps))
  | own =>
    obtain ⟨sc, agenda, answer⟩ := p
    cases agenda with
    | nil => exact known
    | cons t rest =>
      -- a report only notes what an action came to, or answers
      have reported (caller : Option Text) (word : Text) (reply : Answer) :
          Known (report caller word reply ⟨sc, rest, answer⟩) := by
        cases caller <;>
          exact ⟨known.scene.mono rfl rfl (Nat.le_refl _), fun t' left =>
            known.agenda t' (List.mem_cons_of_mem t left)⟩
      cases t with
      | perform caller step => exact known.goOn rfl (Scene.leads_begin known.scene caller step)
      | emit key payload => exact known.goOn rfl (Scene.leads_beginEvent known.scene key payload)
      | deliver receiver payload =>
        exact known.goOn rfl (Scene.leads_deliver known.scene receiver payload)
      | tell n target text => exact known.goOn rfl (Scene.leads_tell known.scene target text)
      | release n =>
        exact known.goOn rfl (.of_uncalled (known.scene.mono rfl rfl (Nat.le_refl _))
          (Nat.le_refl _) (by simp))
      | report caller word reply => exact reported caller word reply
      | reportSrc caller word n => exact reported caller word _

theorem known_program (steps : List Step) : (program steps).Known := by
  refine ⟨⟨?_, ?_⟩, ?_⟩
  · exact fun md made => absurd made List.not_mem_nil
  · exact fun b bound => absurd bound List.not_mem_nil
  · intro t member i text calls
    rw [Scene.uncalled_perform none steps t member] at calls
    cases calls

/-- What the turn of a task comes to: what is there after it, and what it puts in front of the tasks
that are left. A listener that is called notes what it is told, and sets going what it wants. A
text is shown in a sink, and taken by a module, as long as they live. Nothing else tells a listener
of anything. -/
structure Turn (t : Task) (p q : Play) (new : List Task) : Prop where
  called : ∀ i text, t.call? = some (i, text) → ∃ s, p.scene.scripts[i]? = some s ∧
    q.scene.notes = p.scene.notes ++ [.told s.id text] ∧
    q.scene.modules = p.scene.modules ∧ q.scene.sinks = p.scene.sinks ∧
    q.scene.client = p.scene.client ∧
    ∃ (caller : Option Text) (steps : List Step), new = steps.map (.perform caller)
  shown : ∀ n k text, t = .tell n (.sink k) text → new = [] ∧
    q.scene = { p.scene with
      sinks := if p.scene.sinkLives k then p.scene.sinks.set k text else p.scene.sinks }
  taken : ∀ n text, t = .deliver (.module n) text →
    (q.scene, new) = if p.scene.moduleLives n then p.scene.beginUpdate n text else (p.scene, [])
  silent : t.call? = none → q.scene.heard = p.scene.heard

theorem heard_of_notes {sc next : Scene} (notes : next.notes = sc.notes) :
    next.heard = sc.heard := by
  rw [Scene.heard, Scene.heard, notes]

/-- The turn of a task that tells nobody of anything. -/
theorem Turn.of_silent {new : List Task} (uncalled : t.call? = none)
    (untold : ∀ n target text, t ≠ .tell n target text)
    (undelivered : ∀ receiver text, t ≠ .deliver receiver text)
    (heard : q.scene.heard = p.scene.heard) : Turn t p q new := by
  refine ⟨?_, ?_, ?_, fun _ => heard⟩
  · intro i text calls
    rw [uncalled] at calls
    cases calls
  · exact fun n k text same => absurd same (untold n (.sink k) text)
  · exact fun n text same => absurd same (undelivered (.module n) text)

theorem Turn.of_call {i : Nat} {text : Text} {s : Script} {caller : Option Text}
    {steps : List Step} (calls : t.call? = some (i, text)) (found : p.scene.scripts[i]? = some s)
    (notes : q.scene.notes = p.scene.notes ++ [.told s.id text])
    (modules : q.scene.modules = p.scene.modules) (sinks : q.scene.sinks = p.scene.sinks)
    (client : q.scene.client = p.scene.client) :
    Turn t p q (steps.map (.perform caller)) := by
  refine ⟨?_, ?_, ?_, ?_⟩
  · intro j text' same
    rw [calls] at same
    cases same
    exact ⟨s, found, notes, modules, sinks, client, caller, steps, rfl⟩
  · rintro n k text' rfl
    cases calls
  · rintro n text' rfl
    cases calls
  · intro uncalled
    rw [uncalled] at calls
    cases calls

/-- A listener that follows its script notes what it is told. -/
theorem turn_of_tell_script {i : Nat} {text : Text} (calls : t.call? = some (i, text))
    (known : i < p.scene.scripts.length)
    (scene : q.scene = (p.scene.tell (.script i) text).1) :
    Turn t p q (p.scene.tell (.script i) text).2 := by
  have found : p.scene.scripts[i]? = some p.scene.scripts[i] := List.getElem?_eq_getElem known
  generalize p.scene.scripts[i] = s at found
  obtain ⟨id, actions, left⟩ := s
  simp only [Scene.tell, found] at scene ⊢
  cases left with
  | zero =>
    have none : ([] : List Task) = ([] : List Step).map (.perform none) := rfl
    simp only at scene ⊢
    rw [none]
    exact .of_call calls found (by rw [scene]; rfl) (by rw [scene]; rfl) (by rw [scene]; rfl)
      (by rw [scene]; rfl)
  | succ left =>
    simp only at scene ⊢
    exact .of_call calls found (by rw [scene]; rfl) (by rw [scene]; rfl) (by rw [scene]; rfl)
      (by rw [scene]; rfl)

theorem notes_begin (caller : Option Text) (step : Step) (sc : Scene) :
    (sc.begin caller step).1.notes = sc.notes := by
  have of_act {step : Step} (acts : (sc.begin caller step).1 = (sc.act step).2) :
      (sc.begin caller step).1.notes = sc.notes := by
    rw [acts]
    exact (Scene.quiet_act sc step).notes
  cases step with
  | update m src =>
    simp only [Scene.begin]
    split <;> rfl
  | emit | receive | listen => rfl
  | _ => exact of_act rfl

/-- Whatever is done, tasks are only put in front of what is left, and listeners, sinks and modules
are told what the task says. -/
theorem turn_of_next (known : p.Known) (h : p.Next q) (front : p.agenda = t :: rest) :
    ∃ new, q.agenda = new ++ rest ∧ Turn t p q new := by
  cases h with
  | called caller steps first calls found =>
    rw [front] at first
    cases first
    exact ⟨_, rfl, .of_call calls found rfl rfl rfl rfl⟩
  | own =>
    obtain ⟨sc, agenda, answer⟩ := p
    cases front
    have script (i : Nat) (text : Text) (calls : t.call? = some (i, text)) :
        i < sc.scripts.length := known.agenda t List.mem_cons_self i text calls
    cases t with
    | perform caller step =>
      exact ⟨_, rfl,
        .of_silent rfl (by simp) (by simp) (heard_of_notes (notes_begin caller step sc))⟩
    | emit key payload =>
      exact ⟨_, rfl, .of_silent rfl (by simp) (by simp) rfl⟩
    | tell n target text =>
      cases target with
      | script i => exact ⟨_, rfl, turn_of_tell_script rfl (script i text rfl) rfl⟩
      | sink k =>
        have shown : (sc.fill k text).heard = sc.heard := heard_of_notes (by rw [Scene.fill_eq])
        refine ⟨_, rfl, ⟨by simp [Task.call?], ?_, by simp, fun _ => shown⟩⟩
        rintro n' k' text' ⟨⟩
        exact ⟨rfl, Scene.fill_eq k text sc⟩
    | deliver receiver payload =>
      cases receiver with
      | script i => exact ⟨_, rfl, turn_of_tell_script rfl (script i payload rfl) rfl⟩
      | module n =>
        refine ⟨_, rfl, ⟨by simp [Task.call?], by simp, ?_, ?_⟩⟩
        · rintro n' text ⟨⟩
          rfl
        · intro _
          simp only [next, goOn, Scene.deliver]
          split <;> rfl
    | release n => exact ⟨[], rfl, .of_silent rfl (by simp) (by simp) rfl⟩
    | report caller | reportSrc caller =>
      cases caller with
      | none => exact ⟨[], rfl, .of_silent rfl (by simp) (by simp) rfl⟩
      | some id =>
        refine ⟨[], rfl, .of_silent rfl (by simp) (by simp) ?_⟩
        simp [next, report, Scene.note, Scene.heard, Note.told?]

end Play

namespace Run

theorem known (run : Run) (i : Nat) : (run.play i).Known := by
  induction i with
  | zero =>
    obtain ⟨steps, starts⟩ := run.starts
    rw [starts]
    exact Play.known_program steps
  | succ i ih => exact ih.next (run.next i)

theorem turn (run : Run) {i : Nat} {t : Task} {rest : List Task}
    (front : (run.play i).agenda = t :: rest) :
    ∃ new, (run.play (i + 1)).agenda = new ++ rest ∧
      Play.Turn t (run.play i) (run.play (i + 1)) new :=
  Play.turn_of_next (run.known i) (run.next i) front

end Run
end LiveMarkup.Display
