import LiveMarkup.Display.Play

/-!
What one task of a play can do.

* `Play.Next`: what may come after a play, where listeners are free to do any steps;
* `Play.Move`, `move_of_next`: the four kinds of what happens to modules, sinks and the agenda, from
  which all invariants of runs are derived.
-/

namespace LiveMarkup

namespace Naming

variable {α : Type} {names : Naming α}

theorem mem_values_of_get? {name : Text} {a : α} (found : names.get? name = some a) :
    a ∈ names.values := by
  unfold get? at found
  obtain ⟨entry, first, rfl⟩ := Option.map_eq_some_iff.mp found
  exact List.mem_map_of_mem (List.mem_of_find?_eq_some first)

theorem mem_values_of_forget {name : Text} {a : α} (member : a ∈ (names.forget name).values) :
    a ∈ names.values := by
  unfold values forget at member
  obtain ⟨entry, kept, rfl⟩ := List.mem_map.mp member
  exact List.mem_map_of_mem (List.mem_filter.mp kept).1

theorem mem_values_of_give {name : Text} {a b : α} (member : b ∈ (names.give name a).values) :
    b = a ∨ b ∈ names.values := by
  obtain same | member := List.mem_cons.mp member
  · exact Or.inl same
  · exact Or.inr (mem_values_of_forget member)

end Naming

namespace Display

/-- Who puts a content in a sink: a step that renders it, one that takes the sink out of its module,
one that puts it in a module, or an update of a module that it is in. -/
inductive Writer where
  | render
  | remove
  | insert (module : Nat)
  | update (module : Nat)
  deriving DecidableEq, Repr

/-- The module whose source is written. -/
def Writer.module? : Writer → Option Nat
  | insert n => some n
  | update n => some n
  | _ => none

/-- The listener that a task calls, by the number of its script, and what it is told. -/
def Task.call? : Task → Option (Nat × Text)
  | tell _ (.script i) text => some (i, text)
  | deliver (.script i) text => some (i, text)
  | _ => none

/-- Whether a task neither shows a source in a sink nor ends an update. -/
def Task.isPlain : Task → Bool
  | tell _ (.sink _) _ => false
  | release _ => false
  | _ => true

namespace Scene

/-- The sink that a step writes to, and in which way. -/
def written? (sc : Scene) : Step → Option (Nat × Writer)
  | .render s _ => (sc.sink? s).map fun (k, _) => (k, .render)
  | .insert m s _ =>
    match sc.module? m, sc.sink? s with
    | some (n, _), some (k, _) => some (k, .insert n)
    | _, _ => none
  | .remove h => (sc.handles.get? h).map fun handle => (handle.sink, .remove)
  | _ => none

/-- Modules, sinks and updates in progress are the same, and nothing has a name that had none. -/
structure Keeps (sc next : Scene) : Prop where
  modules : next.modules = sc.modules
  sinks : next.sinks = sc.sinks
  held : next.held = sc.held
  names : ∀ n ∈ next.names.values, n ∈ sc.names.values
  sinkNames : ∀ k ∈ next.sinkNames.values, k ∈ sc.sinkNames.values
  handles : ∀ h ∈ next.handles.values, h ∈ sc.handles.values

theorem Keeps.of_eq {sc next : Scene} (modules : next.modules = sc.modules)
    (sinks : next.sinks = sc.sinks) (held : next.held = sc.held) (names : next.names = sc.names)
    (sinkNames : next.sinkNames = sc.sinkNames) (handles : next.handles = sc.handles) :
    sc.Keeps next := by
  refine ⟨modules, sinks, held, ?_, ?_, ?_⟩
  · rw [names]
    exact fun _ => id
  · rw [sinkNames]
    exact fun _ => id
  · rw [handles]
    exact fun _ => id

theorem Keeps.refl (sc : Scene) : sc.Keeps sc :=
  .of_eq rfl rfl rfl rfl rfl rfl

/-- What a step that tells no listener can do, and what it writes. -/
inductive Acted (sc : Scene) : Option (Nat × Writer) → Scene → Prop where
  | keep {next : Scene} (keeps : sc.Keeps next) : Acted sc none next
  | module (m src : Text) : Acted sc none (sc.addModule m src)
  | sink (s : Text) : Acted sc none (sc.addSink s)
  | listen (n number : Nat) (md : Module) (id : Text) (script : Script) :
      Acted sc none ((sc.attach n md id (.script number)).addScript script)
  | detach (n id : Nat) : Acted sc none (sc.modifyModule n (·.detach id))
  | render {s : Text} {k : Nat} (content : Text) (named : sc.sinkNames.get? s = some k) :
      Acted sc (some (k, .render)) (sc.fill k content)
  | insert {m s : Text} {n k : Nat} {md : Module} (h : Text) (made : sc.names.get? m = some n)
      (found : sc.modules[n]? = some md) (named : sc.sinkNames.get? s = some k) :
      Acted sc (some (k, .insert n)) (sc.insert n md k h)
  | remove {h : Text} {handle : Handle} (named : sc.handles.get? h = some handle) :
      Acted sc (some (handle.sink, .remove))
        ({ sc with handles := sc.handles.forget h }.remove handle)

theorem module?_eq_some {sc : Scene} {m : Text} {n : Nat} {md : Module} :
    sc.module? m = some (n, md) ↔ sc.names.get? m = some n ∧ sc.modules[n]? = some md := by
  simp only [module?, Option.bind_eq_bind, Option.bind_eq_some_iff, Option.some.injEq,
    Prod.mk.injEq]
  constructor
  · rintro ⟨n', named, md', found, rfl, rfl⟩
    exact ⟨named, found⟩
  · rintro ⟨named, found⟩
    exact ⟨n, named, md, found, rfl, rfl⟩

theorem sink?_eq_some {sc : Scene} {s : Text} {k : Nat} {content : Text} :
    sc.sink? s = some (k, content) ↔
      sc.sinkNames.get? s = some k ∧ sc.sinks[k]? = some content := by
  simp only [sink?, Option.bind_eq_bind, Option.bind_eq_some_iff, Option.some.injEq,
    Prod.mk.injEq]
  constructor
  · rintro ⟨k', named, content', found, rfl, rfl⟩
    exact ⟨named, found⟩
  · rintro ⟨named, found⟩
    exact ⟨k, named, content, found, rfl, rfl⟩

theorem acted_act (sc : Scene) (step : Step) :
    sc.Acted (sc.written? step) (sc.act step).2 := by
  cases step with
  | module m src => exact .module m src
  | sink s => exact .sink s
  | cloneModule m clone =>
    simp only [act]
    split
    · rename_i n named
      refine .keep ⟨rfl, rfl, rfl, ?_, fun _ => id, fun _ => id⟩
      intro n' member
      obtain rfl | member := Naming.mem_values_of_give member
      · exact Naming.mem_values_of_get? named
      · exact member
    · exact .keep (.refl sc)
  | dropModule m =>
    exact .keep ⟨rfl, rfl, rfl, fun _ => Naming.mem_values_of_forget, fun _ => id, fun _ => id⟩
  | dropSink s =>
    exact .keep ⟨rfl, rfl, rfl, fun _ => id, fun _ => Naming.mem_values_of_forget, fun _ => id⟩
  | dropHandle h =>
    exact .keep ⟨rfl, rfl, rfl, fun _ => id, fun _ => id, fun _ => Naming.mem_values_of_forget⟩
  | onChange m id actions runs =>
    simp only [act]
    split
    · exact .listen ..
    · exact .keep (.refl sc)
  | offChange m id =>
    simp only [act]
    split
    · exact .detach ..
    · exact .keep (.refl sc)
  | render s content =>
    simp only [act, written?]
    split
    · rename_i k old found
      simp only [found, Option.map_some]
      exact .render content (sink?_eq_some.mp found).1
    · rename_i found
      simp only [found, Option.map_none]
      exact .keep (.refl sc)
  | insert m s h =>
    cases made : sc.module? m with
    | none =>
      simp only [act, written?, made]
      exact .keep (.refl sc)
    | some module =>
      cases found : sc.sink? s with
      | none =>
        simp only [act, written?, made, found]
        exact .keep (.refl sc)
      | some sink =>
        simp only [act, written?, made, found]
        exact .insert h (module?_eq_some.mp made).1 (module?_eq_some.mp made).2
          (sink?_eq_some.mp found).1
  | remove h =>
    simp only [act, written?]
    split
    · rename_i handle named
      simp only [named, Option.map_some]
      exact .remove named
    · rename_i named
      simp only [named, Option.map_none]
      exact .keep (.refl sc)
  | on => exact .keep (.of_eq rfl rfl rfl rfl rfl rfl)
  | off | bind =>
    simp only [act]
    split
    · exact .keep (.of_eq rfl rfl rfl rfl rfl rfl)
    · exact .keep (.refl sc)
  | weak | src | display | debug | count | content =>
    simp only [act]
    split <;> exact .keep (.refl sc)
  | listeners | shared | update | emit | receive | listen | other => exact .keep (.refl sc)

end Scene

namespace Play

/-- The sink that the next task writes to, and in which way. -/
def written? (p : Play) : Option (Nat × Writer) :=
  match p.agenda with
  | .perform _ step :: _ => p.scene.written? step
  | .tell n (.sink k) _ :: _ => some (k, .update n)
  | _ => none

/-- The module that the next task begins to update. -/
def updated? (p : Play) : Option Nat :=
  match p.agenda with
  | .perform _ (.update m _) :: _ => p.scene.names.get? m
  | .deliver (.module n) _ :: _ => if p.scene.moduleLives n then some n else none
  | _ => none

/-- What may come after a play. A listener that is called notes what it is told, and then it may do
any steps, whatever its script says. -/
inductive Next (p : Play) : Play → Prop where
  | own : p.Next p.next
  | called {t : Task} {rest : List Task} {i : Nat} {text : Text} {s : Script}
      (caller : Option Text) (steps : List Step) (front : p.agenda = t :: rest)
      (calls : t.call? = some (i, text)) (known : p.scene.scripts[i]? = some s) :
      p.Next { p with
        scene := p.scene.note (.told s.id text)
        agenda := steps.map (.perform caller) ++ rest }

/-- Plain tasks are taken from the agenda or put in front of it. -/
def Passes (p next : Play) : Prop :=
  ∃ done front rest, p.agenda = done ++ rest ∧ next.agenda = front ++ rest ∧
    (∀ t ∈ done, t.isPlain = true) ∧ ∀ t ∈ front, t.isPlain = true

/-- What happens between a play and the next one. -/
inductive Move (p next : Play) : Prop where
  | act (passes : p.Passes next) (still : p.updated? = none)
      (acted : p.scene.Acted p.written? next.scene)
  | update {n : Nat} (src : Text) {t : Task} (back : List Task) {rest : List Task}
      (begun : p.updated? = some n) (still : p.written? = none)
      (lives : p.scene.moduleLives n = true)
      (front : p.agenda = t :: rest) (plain : t.isPlain = true)
      (scene : next.scene = (p.scene.beginUpdate n src).1)
      (agenda : next.agenda = (p.scene.beginUpdate n src).2 ++ (back ++ rest))
      (after : ∀ t ∈ back, t.isPlain = true)
  | fill {n k : Nat} {text : Text} (agenda : p.agenda = .tell n (.sink k) text :: next.agenda)
      (scene : next.scene = p.scene.fill k text)
  | release {n : Nat} (agenda : p.agenda = .release n :: next.agenda)
      (scene : next.scene = { p.scene with held := p.scene.held.erase n })

theorem Passes.of_front {p next : Play} {t : Task} {front rest : List Task}
    (before : p.agenda = t :: rest) (after : next.agenda = front ++ rest) (plain : t.isPlain = true)
    (plains : ∀ t ∈ front, t.isPlain = true) : p.Passes next := by
  refine ⟨[t], front, rest, before, after, ?_, plains⟩
  intro t' member
  rw [List.mem_singleton.mp member]
  exact plain

theorem isPlain_of_call? {t : Task} {call : Nat × Text} (calls : t.call? = some call) :
    t.isPlain = true := by
  cases t with
  | tell n target text =>
    cases target with
    | script => rfl
    | sink => cases calls
  | deliver receiver payload => rfl
  | _ => cases calls

theorem isPlain_of_mem_perform {caller : Option Text} {steps : List Step} {t : Task}
    (member : t ∈ steps.map (Task.perform caller)) : t.isPlain = true := by
  obtain ⟨step, -, rfl⟩ := List.mem_map.mp member
  rfl

theorem still_of_call? {p : Play} {t : Task} {rest : List Task} {call : Nat × Text}
    (front : p.agenda = t :: rest) (calls : t.call? = some call) :
    p.updated? = none ∧ p.written? = none := by
  unfold updated? written?
  rw [front]
  cases t with
  | tell n target text =>
    cases target with
    | script => exact ⟨rfl, rfl⟩
    | sink => cases calls
  | deliver receiver payload =>
    cases receiver with
    | script => exact ⟨rfl, rfl⟩
    | module => cases calls
  | _ => cases calls

/-- A call of a listener changes neither modules nor sinks. -/
theorem move_of_call {p next : Play} {t : Task} {front rest : List Task} {call : Nat × Text}
    (before : p.agenda = t :: rest) (after : next.agenda = front ++ rest)
    (calls : t.call? = some call) (plains : ∀ t ∈ front, t.isPlain = true)
    (keeps : p.scene.Keeps next.scene) : Move p next := by
  obtain ⟨still, unwritten⟩ := still_of_call? before calls
  refine .act (.of_front before after (isPlain_of_call? calls) plains) still ?_
  rw [unwritten]
  exact .keep keeps

theorem tell_script (number : Nat) (text : Text) (sc : Scene) :
    sc.Keeps (sc.tell (.script number) text).1 ∧
      ∀ t ∈ (sc.tell (.script number) text).2, t.isPlain = true := by
  unfold Scene.tell
  simp only
  split
  · exact ⟨.refl sc, fun t member => absurd member List.not_mem_nil⟩
  · split
    · exact ⟨.of_eq rfl rfl rfl rfl rfl rfl, fun t member => absurd member List.not_mem_nil⟩
    · exact ⟨.of_eq rfl rfl rfl rfl rfl rfl, fun t => isPlain_of_mem_perform⟩

theorem isPlain_of_mem_singleton {t t' : Task} (plain : t.isPlain = true) (member : t' ∈ [t]) :
    t'.isPlain = true := by
  rw [List.mem_singleton.mp member]
  exact plain

/-- A step that leaves modules and sinks alone. -/
theorem move_of_idle {caller : Option Text} {step : Step} {sc : Scene} {rest : List Task}
    {answer : Answer} (front : List Task) (unwritten : sc.written? step = none)
    (still : updated? ⟨sc, .perform caller step :: rest, answer⟩ = none)
    (plains : ∀ t ∈ front, t.isPlain = true) :
    Move ⟨sc, .perform caller step :: rest, answer⟩ ⟨sc, front ++ rest, answer⟩ := by
  refine .act (.of_front rfl rfl rfl plains) still ?_
  have same : written? ⟨sc, .perform caller step :: rest, answer⟩ = none := unwritten
  rw [same]
  exact .keep (.refl sc)

/-- A step that tells no listener. -/
theorem move_of_act {caller : Option Text} {step : Step} {sc : Scene} {rest : List Task}
    {answer : Answer}
    (acts : sc.begin caller step = ((sc.act step).2, [.report caller step.word (sc.act step).1]))
    (still : updated? ⟨sc, .perform caller step :: rest, answer⟩ = none) :
    Move ⟨sc, .perform caller step :: rest, answer⟩
      (next ⟨sc, .perform caller step :: rest, answer⟩) := by
  have done : next ⟨sc, .perform caller step :: rest, answer⟩ =
      ⟨(sc.act step).2, [.report caller step.word (sc.act step).1] ++ rest, answer⟩ := by
    simp only [next, goOn, acts]
  rw [done]
  exact .act (.of_front rfl rfl rfl fun t => isPlain_of_mem_singleton rfl) still
    (Scene.acted_act sc step)

theorem move_of_perform (caller : Option Text) (step : Step) (sc : Scene) (rest : List Task)
    (answer : Answer) :
    Move ⟨sc, .perform caller step :: rest, answer⟩
      (next ⟨sc, .perform caller step :: rest, answer⟩) := by
  cases step with
  | update m src =>
    cases named : sc.names.get? m with
    | none =>
      have idle : next ⟨sc, .perform caller (.update m src) :: rest, answer⟩ =
          ⟨sc, [.report caller (Step.update m src).word .unknown] ++ rest, answer⟩ := by
        simp only [next, goOn, Scene.begin, named]
      rw [idle]
      exact move_of_idle _ rfl named fun t => isPlain_of_mem_singleton rfl
    | some n =>
      refine .update src [.reportSrc caller (Step.update m src).word n] named rfl ?_ rfl rfl ?_ ?_
        fun t => isPlain_of_mem_singleton rfl
      · have lives := Naming.mem_values_of_get? named
        simp [Scene.moduleLives, lives]
      · simp only [next, goOn, Scene.begin, named]
      · simp only [next, goOn, Scene.begin, named, List.append_assoc]
  | emit key payload =>
    refine move_of_idle [.emit key payload, .report caller (Step.emit key payload).word .nothing]
      rfl rfl ?_
    simp [Task.isPlain]
  | receive c =>
    refine move_of_idle [.emit c.key c.src, .report caller (Step.receive c).word .nothing]
      rfl rfl ?_
    simp [Task.isPlain]
  | listen changes =>
    have idle : next ⟨sc, .perform caller (.listen changes) :: rest, answer⟩ =
        ⟨sc, (changes.map (fun c => .emit c.key c.src) ++
          [.report caller (Step.listen changes).word .nothing]) ++ rest, answer⟩ := rfl
    rw [idle]
    refine move_of_idle _ rfl rfl ?_
    intro t member
    obtain emitted | reported := List.mem_append.mp member
    · obtain ⟨c, -, rfl⟩ := List.mem_map.mp emitted
      rfl
    · exact isPlain_of_mem_singleton rfl reported
  | _ => exact move_of_act rfl rfl

/-- Whatever comes after a play, it is one of four kinds of moves. -/
theorem move_of_next {p q : Play} (h : p.Next q) : Move p q := by
  cases h with
  | called caller steps front calls known =>
    exact move_of_call front rfl calls (fun t => isPlain_of_mem_perform)
      (.of_eq rfl rfl rfl rfl rfl rfl)
  | own =>
    obtain ⟨sc, agenda, answer⟩ := p
    have nothing : ∀ t ∈ ([] : List Task), t.isPlain = true := fun t member =>
      absurd member List.not_mem_nil
    cases agenda with
    | nil =>
      exact .act ⟨[], [], [], rfl, rfl, nothing, nothing⟩ rfl (.keep (.refl sc))
    | cons t rest =>
      cases t with
      | perform caller step => exact move_of_perform caller step sc rest answer
      | emit key payload =>
        refine .act (.of_front rfl rfl rfl ?_) rfl (.keep (.of_eq rfl rfl rfl rfl rfl rfl))
        intro t member
        obtain ⟨receiver, -, rfl⟩ := List.mem_map.mp member
        rfl
      | deliver receiver payload =>
        cases receiver with
        | script number =>
          obtain ⟨keeps, plains⟩ := tell_script number payload sc
          exact move_of_call rfl rfl rfl plains keeps
        | module n =>
          by_cases lives : sc.moduleLives n = true
          · refine .update payload [] ?_ rfl lives rfl rfl ?_ ?_ nothing
            · simp only [updated?, lives, if_true]
            · simp only [next, goOn, Scene.deliver, lives, if_true]
            · simp only [next, goOn, Scene.deliver, lives, if_true, List.nil_append]
          · have still : updated? ⟨sc, .deliver (.module n) payload :: rest, answer⟩ = none := by
              simp only [updated?, lives]
              rfl
            have idle : next ⟨sc, .deliver (.module n) payload :: rest, answer⟩ =
                ⟨sc, [] ++ rest, answer⟩ := by
              simp only [next, goOn, Scene.deliver, lives]
              rfl
            rw [idle]
            exact .act (.of_front rfl rfl rfl nothing) still (.keep (.refl sc))
      | tell n target text =>
        cases target with
        | script number =>
          obtain ⟨keeps, plains⟩ := tell_script number text sc
          exact move_of_call rfl rfl rfl plains keeps
        | sink k => exact .fill rfl rfl
      | release n => exact .release rfl rfl
      | report caller word reply =>
        cases caller <;>
          exact .act (.of_front rfl rfl rfl nothing) rfl (.keep (.of_eq rfl rfl rfl rfl rfl rfl))
      | reportSrc caller word n =>
        cases caller <;>
          exact .act (.of_front rfl rfl rfl nothing) rfl (.keep (.of_eq rfl rfl rfl rfl rfl rfl))

end Play
end Display
end LiveMarkup
