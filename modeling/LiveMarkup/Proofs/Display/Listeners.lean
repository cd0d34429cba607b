import LiveMarkup.Proofs.Display.Nesting
import LiveMarkup.Proofs.Display.Upkeep

/-!
The listeners of a module as they come of its history.

* `Play.Deed`, `deed_of_next`: what can happen between a play and the next one that concerns a list;
* `Play.upkeep?`: what the next task does to the listeners of a module;
* `Scene.Tended`, `tended_of_next`: what comes of it, whoever does it;
* `Run.listeners_by_history`: who is left of those who were attached, and whom a number takes away.
-/

namespace LiveMarkup.Display

namespace Scene

/-- What a step that updates nothing does to the listeners of a module. -/
def upkeep? (sc : Scene) : Step → Option (Upkeep Nat Target)
  | .onChange m _ _ _ => (sc.module? m).map fun (n, _) => .enter n (.script sc.scripts.length)
  | .insert m s _ =>
    match sc.module? m, sc.sink? s with
    | some (n, _), some (k, _) => some (.enter n (.sink k))
    | _, _ => none
  | .offChange m id =>
    match sc.module? m, sc.ids.get? id with
    | some (n, _), some i => some (.leave n i)
    | _, _ => none
  | .remove h => (sc.handles.get? h).map fun handle => .leave handle.module handle.id
  | _ => none

/-- What comes of it. A handle does nothing to a module that is gone. -/
inductive Tended (sc : Scene) : Option (Upkeep Nat Target) → Scene → Prop where
  | still {next : Scene} (modules : next.modules = sc.modules) : Tended sc none next
  | make {next : Scene} (src : Text) (modules : next.modules = sc.modules ++ [{ src := src }]) :
      Tended sc none next
  | enter {next : Scene} {n : Nat} {target : Target} (made : n < sc.modules.length)
      (modules : next.modules = sc.modules.modify n (·.attach target)) :
      Tended sc (some (.enter n target)) next
  | leave {next : Scene} {n id : Nat} (modules : next.modules = sc.modules.modify n (·.detach id)) :
      Tended sc (some (.leave n id)) next
  | late {next : Scene} {n id : Nat} (gone : sc.moduleLives n = false)
      (modules : next.modules = sc.modules) : Tended sc (some (.leave n id)) next
  | prune {next : Scene} {n : Nat} (src : Text)
      (modules : next.modules = sc.modules.modify n (·.update sc.sinkLives src)) :
      Tended sc (some (.prune n)) next

theorem modules_fill (n : Nat) (content : Text) (sc : Scene) :
    (sc.fill n content).modules = sc.modules := by
  rw [fill_eq]

theorem client_fill (n : Nat) (content : Text) (sc : Scene) :
    (sc.fill n content).client = sc.client := by
  rw [fill_eq]

theorem tended_remove (sc : Scene) (h : Handle) :
    sc.Tended (some (.leave h.module h.id)) (sc.remove h) := by
  cases lives : sc.moduleLives h.module with
  | true => exact .leave (by rw [remove_eq, lives]; rfl)
  | false => exact .late lives (by rw [remove_eq, lives]; rfl)

theorem tended_act (sc : Scene) (step : Step) :
    sc.Tended (sc.upkeep? step) (sc.act step).2 := by
  cases step with
  | module m src => exact .make src rfl
  | onChange m id actions runs =>
    cases made : sc.module? m with
    | none =>
      simp only [act, upkeep?, made]
      exact .still rfl
    | some found =>
      obtain ⟨n, md⟩ := found
      obtain ⟨within, -⟩ := List.getElem?_eq_some_iff.mp (module?_eq_some.mp made).2
      simp only [act, upkeep?, made]
      exact .enter within rfl
  | insert m s h =>
    cases made : sc.module? m with
    | none =>
      simp only [act, upkeep?, made]
      exact .still rfl
    | some found =>
      obtain ⟨n, md⟩ := found
      obtain ⟨within, -⟩ := List.getElem?_eq_some_iff.mp (module?_eq_some.mp made).2
      cases there : sc.sink? s with
      | none =>
        simp only [act, upkeep?, made, there]
        exact .still rfl
      | some sink =>
        simp only [act, upkeep?, made, there]
        refine .enter within ?_
        unfold Scene.insert
        rw [fill_eq]
        rfl
  | offChange m id =>
    simp only [act, upkeep?]
    cases sc.module? m with
    | none => exact .still rfl
    | some found =>
      cases sc.ids.get? id with
      | none => exact .still rfl
      | some i => exact .leave rfl
  | remove h =>
    cases named : sc.handles.get? h with
    | none =>
      simp only [act, upkeep?, named]
      exact .still rfl
    | some handle =>
      simp only [act, upkeep?, named]
      have tended := tended_remove { sc with handles := sc.handles.forget h } handle
      generalize remove handle _ = next at tended ⊢
      cases tended with
      | leave modules => exact .leave modules
      | late gone modules => exact .late gone modules
  | render s content =>
    simp only [act, upkeep?]
    cases sc.sink? s with
    | none => exact .still rfl
    | some sink => exact .still (modules_fill ..)
  | _ =>
    simp only [act, upkeep?]
    first
      | exact .still rfl
      | split <;> exact .still rfl

/-- A module, or one that nobody listens to where none was made. -/
def moduleAt (n : Nat) (sc : Scene) : Module :=
  sc.modules[n]?.getD { src := [] }

theorem moduleAt_congr {sc next : Scene} (modules : next.modules = sc.modules) (n : Nat) :
    next.moduleAt n = sc.moduleAt n := by
  rw [moduleAt, moduleAt, modules]

theorem moduleAt_of_le {sc : Scene} {n : Nat} (unmade : sc.modules.length ≤ n) :
    sc.moduleAt n = { src := [] } := by
  rw [moduleAt, List.getElem?_eq_none unmade]
  rfl

theorem moduleAt_modify {sc next : Scene} {i n : Nat} {f : Module → Module}
    (made : n < sc.modules.length) (modules : next.modules = sc.modules.modify i f) :
    next.moduleAt n = if i = n then f (sc.moduleAt n) else sc.moduleAt n := by
  rw [moduleAt, moduleAt, modules, List.getElem?_modify, List.getElem?_eq_getElem made]
  rfl

end Scene

/-- The listeners of a module by their numbers. -/
def Module.entries (md : Module) : List (Nat × Target) :=
  md.listeners.map fun l => (l.id, l.target)

/-- One module is as it was before something was done at its place: those whom that dismisses are
gone, and who enters is there with the next number. -/
structure Module.Follows (n : Nat) (sinkLives : Nat → Bool) (u : Option (Upkeep Nat Target))
    (md md' : Module) : Prop where
  entries : md'.entries = md.entries.filter
      (fun e => !Upkeep.dismisses (·.isLive sinkLives) n e.1 e.2 u) ++
    (Upkeep.entrant? n u).toList.map (md.nextId, ·)
  nextId : md'.nextId = md.nextId + (Upkeep.entrant? n u).toList.length

namespace Module

variable {n : Nat} {sinkLives : Nat → Bool}

/-- Nothing is done at the place, or there is nobody whom it could concern. -/
theorem Follows.of_still {u : Option (Upkeep Nat Target)} {md md' : Module}
    (nobody : Upkeep.entrant? n u = none)
    (stay : ∀ e ∈ md.entries, Upkeep.dismisses (·.isLive sinkLives) n e.1 e.2 u = false)
    (entries : md'.entries = md.entries) (nextId : md'.nextId = md.nextId) :
    Follows n sinkLives u md md' := by
  refine ⟨?_, by rw [nobody, nextId]; rfl⟩
  rw [nobody, entries, Option.toList_none, List.map_nil, List.append_nil, List.filter_eq_self.mpr]
  intro e member
  rw [stay e member]
  rfl

theorem Follows.attach (n : Nat) (sinkLives : Nat → Bool) (target : Target) (md : Module) :
    Follows n sinkLives (some (.enter n target)) md (md.attach target) := by
  refine ⟨?_, by simp [Module.attach, Upkeep.entrant?]⟩
  have all : md.entries.filter (fun _ => true) = md.entries := List.filter_true _
  simp only [Upkeep.dismisses, Bool.not_false, all]
  simp [Module.entries, Module.attach, Upkeep.entrant?]

theorem Follows.detach (n : Nat) (sinkLives : Nat → Bool) (id : Nat) (md : Module) :
    Follows n sinkLives (some (.leave n id)) md (md.detach id) := by
  refine ⟨?_, rfl⟩
  simp only [Module.entries, Module.detach, Upkeep.entrant?, Upkeep.dismisses, Option.toList_none,
    List.map_nil, List.append_nil, List.filter_map, beq_self_eq_true, Bool.true_and]
  rfl

theorem Follows.update (n : Nat) (sinkLives : Nat → Bool) (src : Text) (md : Module) :
    Follows n sinkLives (some (.prune n)) md (md.update sinkLives src) := by
  refine ⟨?_, rfl⟩
  simp only [Module.entries, Module.update, Upkeep.entrant?, Upkeep.dismisses, Option.toList_none,
    List.map_nil, List.append_nil, List.filter_map, beq_self_eq_true, Bool.true_and, Bool.not_not]
  rfl

end Module

namespace Scene

/-- What is done at a place changes the module there as it says, unless the module is gone, and no
other module. -/
theorem Tended.follows {sc next : Scene} {u : Option (Upkeep Nat Target)}
    (tended : sc.Tended u next) {n : Nat}
    (lives : n < sc.modules.length → sc.moduleLives n = true) :
    Module.Follows n sc.sinkLives u (sc.moduleAt n) (next.moduleAt n) := by
  obtain made | unmade := Nat.lt_or_ge n sc.modules.length
  · -- what is done at another place does not count here
    have apart {i : Nat} {f : Module → Module} (other : i ≠ n)
        (modules : next.modules = sc.modules.modify i f) :
        next.moduleAt n = sc.moduleAt n := by
      rw [moduleAt_modify made modules, if_neg other]
    have here {f : Module → Module} (modules : next.modules = sc.modules.modify n f) :
        next.moduleAt n = f (sc.moduleAt n) := by
      rw [moduleAt_modify made modules, if_pos rfl]
    cases tended with
    | still modules =>
      rw [moduleAt_congr modules]
      exact .of_still rfl (fun _ _ => rfl) rfl rfl
    | make src modules =>
      have same : next.moduleAt n = sc.moduleAt n := by
        rw [moduleAt, moduleAt, modules, List.getElem?_append_left made]
      rw [same]
      exact .of_still rfl (fun _ _ => rfl) rfl rfl
    | @enter _ i target _ modules =>
      by_cases same : i = n
      · subst same
        rw [here modules]
        exact .attach i sc.sinkLives target _
      · rw [apart same modules]
        exact .of_still (if_neg same) (fun _ _ => rfl) rfl rfl
    | @leave _ i id modules =>
      by_cases same : i = n
      · subst same
        rw [here modules]
        exact .detach i sc.sinkLives id _
      · rw [apart same modules]
        exact .of_still rfl (fun _ _ => Upkeep.dismisses_of_ne same) rfl rfl
    | @late _ i id gone modules =>
      have same : i ≠ n := by
        rintro rfl
        rw [lives made] at gone
        cases gone
      rw [moduleAt_congr modules]
      exact .of_still rfl (fun _ _ => Upkeep.dismisses_of_ne same) rfl rfl
    | @prune _ i src modules =>
      by_cases same : i = n
      · subst same
        rw [here modules]
        exact .update i sc.sinkLives src _
      · rw [apart same modules]
        exact .of_still rfl (fun _ _ => Upkeep.dismisses_of_ne same) rfl rfl
  · have none : sc.moduleAt n = { src := [] } := moduleAt_of_le unmade
    have nobody : ∀ e ∈ (sc.moduleAt n).entries,
        Upkeep.dismisses (·.isLive sc.sinkLives) n e.1 e.2 u = false := by
      rw [none]
      exact fun e member => absurd member List.not_mem_nil
    have beyond {f : Module → Module} {i : Nat} (modules : next.modules = sc.modules.modify i f) :
        next.moduleAt n = sc.moduleAt n := by
      rw [none, moduleAt_of_le]
      rw [modules, List.length_modify]
      exact unmade
    cases tended with
    | still modules =>
      rw [moduleAt_congr modules]
      exact .of_still rfl nobody rfl rfl
    | make src modules =>
      have fresh : (next.moduleAt n).entries = [] ∧ (next.moduleAt n).nextId = 0 := by
        rw [moduleAt, modules, List.getElem?_append_right unmade]
        cases n - sc.modules.length <;> exact ⟨rfl, rfl⟩
      exact .of_still rfl nobody (by rw [fresh.1, none]; rfl) (by rw [fresh.2, none])
    | @enter _ i target made modules =>
      have other : i ≠ n := by omega
      rw [beyond modules]
      exact .of_still (if_neg other) nobody rfl rfl
    | leave modules | prune src modules =>
      rw [beyond modules]
      exact .of_still rfl nobody rfl rfl
    | late gone modules =>
      rw [moduleAt_congr modules]
      exact .of_still rfl nobody rfl rfl

end Scene

/-- Whether a task performs a step or begins an event. -/
def Task.isDeed : Task → Bool
  | perform .. | emit .. => true
  | _ => false

namespace Play

/-- What happens between a play and the next one that can concern a list: a step is performed, or an
update or an event begins. Otherwise modules and client stay the same. -/
inductive Deed (p q : Play) : Prop where
  | step {caller : Option Text} {step : Step} {rest : List Task}
      (front : p.agenda = .perform caller step :: rest) (still : p.updated? = none)
      (scene : q.scene = (p.scene.act step).2)
  | update {n : Nat} (src : Text) (begun : p.updated? = some n)
      (scene : q.scene = (p.scene.beginUpdate n src).1)
  | event {key payload : Text} {rest : List Task} (front : p.agenda = .emit key payload :: rest)
      (scene : q.scene = (p.scene.beginEvent key payload).1)
  | idle (quiet : p.agenda.head?.any Task.isDeed = false) (still : p.updated? = none)
      (modules : q.scene.modules = p.scene.modules) (client : q.scene.client = p.scene.client)

theorem deed_of_perform (caller : Option Text) (step : Step) (sc : Scene) (rest : List Task)
    (answer : Answer) :
    Deed ⟨sc, .perform caller step :: rest, answer⟩
      (next ⟨sc, .perform caller step :: rest, answer⟩) := by
  cases step with
  | update m src =>
    cases named : sc.names.get? m with
    | none =>
      refine .step rfl named ?_
      simp only [next, goOn, Scene.begin, named]
      rfl
    | some n =>
      refine .update src named ?_
      simp only [next, goOn, Scene.begin, named]
  | _ => exact .step rfl rfl rfl

theorem deed_of_tell {p q : Play} {target : Target} {text : Text}
    (quiet : p.agenda.head?.any Task.isDeed = false) (still : p.updated? = none)
    (scene : q.scene = (p.scene.tell target text).1) : Deed p q := by
  have same : (p.scene.tell target text).1.modules = p.scene.modules ∧
      (p.scene.tell target text).1.client = p.scene.client := by
    cases target with
    | sink k => exact ⟨Scene.modules_fill k text p.scene, Scene.client_fill k text p.scene⟩
    | script n =>
      unfold Scene.tell
      simp only
      split
      · exact ⟨rfl, rfl⟩
      · split <;> exact ⟨rfl, rfl⟩
  rw [← scene] at same
  exact .idle quiet still same.1 same.2

/-- Whatever comes after a play, one of these has happened. -/
theorem deed_of_next {p q : Play} (h : p.Next q) : Deed p q := by
  cases h with
  | @called t rest i text s caller steps front calls known =>
    refine .idle ?_ (still_of_call? front calls).1 rfl rfl
    rw [front]
    cases t with
    | tell | deliver => rfl
    | _ => cases calls
  | own =>
    obtain ⟨sc, agenda, answer⟩ := p
    cases agenda with
    | nil => exact .idle rfl rfl rfl rfl
    | cons t rest =>
      cases t with
      | perform caller step => exact deed_of_perform caller step sc rest answer
      | emit key payload => exact .event rfl rfl
      | tell n target text => exact deed_of_tell rfl rfl rfl
      | release n => exact .idle rfl rfl rfl rfl
      | report caller | reportSrc caller => cases caller <;> exact .idle rfl rfl rfl rfl
      | deliver receiver payload =>
        cases receiver with
        | script n => exact deed_of_tell rfl rfl rfl
        | module n =>
          by_cases lives : sc.moduleLives n = true
          · have begun : updated? ⟨sc, .deliver (.module n) payload :: rest, answer⟩ = some n :=
              if_pos lives
            refine .update payload begun ?_
            simp only [next, goOn, Scene.deliver, if_pos lives]
          · refine .idle rfl (if_neg lives) ?_ ?_
            · simp only [next, goOn, Scene.deliver, if_neg lives]
            · simp only [next, goOn, Scene.deliver, if_neg lives]

/-- What the next task does to the listeners of a module: a step of a program or of a listener, or
an update that begins. -/
def upkeep? (p : Play) : Option (Upkeep Nat Target) :=
  match p.updated?, p.agenda with
  | some n, _ => some (.prune n)
  | none, .perform _ step :: _ => p.scene.upkeep? step
  | none, _ => none

/-- Whatever comes after a play, its modules are tended to as the next task says. -/
theorem tended_of_next {p q : Play} (h : p.Next q) : p.scene.Tended p.upkeep? q.scene := by
  cases deed_of_next h with
  | step front still scene =>
    rw [upkeep?, still, front, scene]
    exact p.scene.tended_act _
  | update src begun scene =>
    rw [upkeep?, begun, scene]
    exact .prune src rfl
  | event front scene =>
    have still : p.updated? = none := by rw [updated?, front]
    rw [upkeep?, still, front, scene]
    exact .still rfl
  | idle quiet still modules =>
    have none : p.upkeep? = none := by
      unfold upkeep?
      rw [still]
      split
      · rename_i updates
        cases updates
      · rename_i front
        rw [front] at quiet
        cases quiet
      · rfl
    rw [none]
    exact .still modules

end Play

namespace Run

variable {run : Run} {n i : Nat}

/-- Who is attached to a module at a moment. -/
def attaches (run : Run) (n i : Nat) : Option Target :=
  Upkeep.entrant? n (run.play i).upkeep?

/-- Whether a moment takes a listener from a module: its number is given up or its handle removed,
or an update begins when it is a sink that is gone. -/
def detaches (run : Run) (n i id : Nat) (target : Target) : Bool :=
  Upkeep.dismisses (·.isLive (run.play i).scene.sinkLives) n id target (run.play i).upkeep?

/-- A module that was made and lives later has lived all the time. -/
theorem moduleLives_of_later (run : Run) {i j n : Nat} (later : i ≤ j)
    (made : n < (run.play i).scene.modules.length)
    (lives : (run.play j).scene.moduleLives n = true) :
    (run.play i).scene.moduleLives n = true := by
  induction later with
  | refl => exact lives
  | step later ih =>
    refine ih ((run.move _).onward.moduleLives ?_ lives)
    exact Nat.lt_of_lt_of_le made (run.length_modules_le later)

theorem moduleAt_zero (run : Run) (n : Nat) :
    ((run.play 0).scene.moduleAt n).entries = [] ∧ ((run.play 0).scene.moduleAt n).nextId = 0 := by
  obtain ⟨steps, starts⟩ := run.starts
  rw [starts]
  exact ⟨rfl, rfl⟩

/-- The listeners of a module that lives are those who stay of those who were attached. -/
theorem entries_eq_staying (lives : (run.play i).scene.moduleLives n = true) :
    ((run.play i).scene.moduleAt n).entries = staying (run.attaches n) (run.detaches n) i ∧
      ((run.play i).scene.moduleAt n).nextId = (entered (run.attaches n) i).length := by
  have follows : ∀ j < i, Module.Follows n (run.play j).scene.sinkLives (run.play j).upkeep?
      ((run.play j).scene.moduleAt n) ((run.play (j + 1)).scene.moduleAt n) :=
    fun j before => (Play.tended_of_next (run.next j)).follows fun made =>
      run.moduleLives_of_later (Nat.le_of_lt before) made lives
  obtain ⟨empty, zero⟩ := run.moduleAt_zero n
  let list (j : Nat) := ((run.play j).scene.moduleAt n).entries
  let next (j : Nat) := ((run.play j).scene.moduleAt n).nextId
  have kept : list i = staying (run.attaches n) (run.detaches n) i ∧
      next i = (entered (run.attaches n) i).length :=
    eq_staying empty zero (fun j before => (follows j before).entries) fun j before =>
      (follows j before).nextId
  exact kept

end Run

namespace Scene

/-- A number takes away the one listener that has it. -/
theorem act_offChange {sc : Scene} {m name : Text} {n id : Nat} {md : Module}
    (named : sc.names.get? m = some n) (found : sc.modules[n]? = some md)
    (known : sc.ids.get? name = some id) (numbered : md.listeners.Pairwise (·.id < ·.id)) :
    let (answer, next) := sc.act (.offChange m name)
    (∀ target, ⟨id, target⟩ ∈ md.listeners → answer = .flag true ∧
      next.modules[n]? = some { md with listeners := md.listeners.erase ⟨id, target⟩ }) ∧
    ((∀ target, ⟨id, target⟩ ∉ md.listeners) → answer = .flag false ∧
      next.modules[n]? = some md) := by
  have acts : sc.act (.offChange m name) =
      (.flag (md.has id), sc.modifyModule n (·.detach id)) := by
    simp only [act, module?_eq_some.mpr ⟨named, found⟩, known]
  have after : (sc.modifyModule n (·.detach id)).modules[n]? = some (md.detach id) := by
    simp only [modifyModule, List.getElem?_modify_eq, found]
    rfl
  have others (absent : ∀ target, ⟨id, target⟩ ∉ md.listeners) :
      ∀ l ∈ md.listeners, l.id ≠ id := by
    rintro l there rfl
    exact absent l.target there
  simp only [acts]
  refine ⟨fun target member => ⟨?_, ?_⟩, fun absent => ⟨?_, ?_⟩⟩
  · have there : md.has id = true := List.any_eq_true.mpr ⟨_, member, beq_self_eq_true id⟩
    rw [there]
  · have alone := filter_eq_erase numbered member
    rw [after, Module.detach, alone]
  · rw [Module.has, (any_filter_of_absent (others absent)).1]
  · rw [after, Module.detach, (any_filter_of_absent (others absent)).2]

end Scene

namespace Run

variable {run : Run} {n i : Nat}

/-- The listeners of a module that lives are those who were attached to it, in order, each with the
number that tells how many were attached before, without those whom something has taken away since:
a number that was given up, wherever it came from, the removal of a handle, or for a sink that is
gone the beginning of an update. A script goes by its number alone. A number that is given up takes
away the one listener that has it, if it is still there. -/
theorem listeners_by_history (run : Run) (lives : (run.play i).scene.moduleLives n = true) :
    let sc := (run.play i).scene
    ∃ md, sc.modules[n]? = some md ∧ md.nextId = (entered (run.attaches n) i).length ∧
      md.listeners = (staying (run.attaches n) (run.detaches n) i).map
        (fun (id, target) => ⟨id, target⟩) ∧
      md.listeners.Pairwise (·.id < ·.id) ∧ (∀ l ∈ md.listeners, l.id < md.nextId) ∧
      (∀ l id number, (entered (run.attaches n) i)[id]? = some (l, .script number) →
        (∀ j < i, l < j → (run.play j).upkeep? ≠ some (.leave n id)) →
        ⟨id, .script number⟩ ∈ md.listeners) ∧
      ∀ m name id, sc.names.get? m = some n → sc.ids.get? name = some id →
        let (answer, next) := sc.act (.offChange m name)
        (∀ target, ⟨id, target⟩ ∈ md.listeners → answer = .flag true ∧
          next.modules[n]? = some { md with listeners := md.listeners.erase ⟨id, target⟩ }) ∧
        ((∀ target, ⟨id, target⟩ ∉ md.listeners) → answer = .flag false ∧
          next.modules[n]? = some md) := by
  intro sc
  have made : n < sc.modules.length := (run.sound i).numbered.lt_of_lives lives
  have found : sc.modules[n]? = some (sc.moduleAt n) := by
    rw [Scene.moduleAt, List.getElem?_eq_getElem made, Option.getD_some]
  obtain ⟨entries, count⟩ := run.entries_eq_staying lives
  have listeners : (sc.moduleAt n).listeners =
      (staying (run.attaches n) (run.detaches n) i).map (fun (id, target) => ⟨id, target⟩) := by
    rw [← entries, Module.entries, List.map_map]
    exact (List.map_id _).symm
  have numbered : (sc.moduleAt n).listeners.Pairwise (·.id < ·.id) := by
    rw [listeners]
    exact List.pairwise_map.mpr (pairwise_staying _ _ i)
  refine ⟨_, found, count, listeners, numbered, ?_, ?_, ?_⟩
  · intro l member
    rw [listeners] at member
    obtain ⟨e, stays, rfl⟩ := List.mem_map.mp member
    rw [count]
    exact lt_of_mem_staying stays
  · intro l id number attached kept
    rw [listeners]
    refine List.mem_map.mpr ⟨(id, .script number), mem_staying.mpr ⟨l, attached, ?_⟩, rfl⟩
    intro j before after
    have other := kept j before after
    unfold detaches Upkeep.dismisses
    split
    · rename_i p i' leaves
      rw [leaves] at other
      rw [Bool.and_eq_false_iff, beq_eq_false_iff_ne, beq_eq_false_iff_ne]
      by_cases here : p = n
      · exact Or.inr fun same => other (by rw [here, same])
      · exact Or.inl (Ne.symm here)
    · simp [Target.isLive]
    · rfl
  · intro m name id named known
    exact Scene.act_offChange named found known numbered

/-- A listener that drops one of two sinks, removes the other, attaches one more listener and
updates the module once more. -/
def tended : Run :=
  ofProgram [.module ['m'] ['a'], .sink ['s'], .sink ['t'],
    .onChange ['m'] ['l'] [.dropSink ['s'], .remove ['g'], .onChange ['m'] ['x'] [] 9,
      .update ['m'] ['c']] 1,
    .insert ['m'] ['s'] ['h'], .onChange ['m'] ['k'] [] 9, .insert ['m'] ['t'] ['g'],
    .update ['m'] ['b'], .offChange ['m'] ['k']]

/-- Of five who were attached, the listener itself and the one that it attached are left. -/
theorem tended_listeners :
    (tended.play 35).scene.moduleLives 0 = true ∧
      ∃ md, (tended.play 35).scene.modules[0]? = some md ∧ md.nextId = 5 ∧
        md.listeners = [⟨0, .script 0⟩, ⟨4, .script 2⟩] := by
  have lives : (tended.play 35).scene.moduleLives 0 = true := by decide +kernel
  have count : (entered (tended.attaches 0) 35).length = 5 := by decide +kernel
  have stay : staying (tended.attaches 0) (tended.detaches 0) 35 =
      [(0, .script 0), (4, .script 2)] := by decide +kernel
  obtain ⟨md, found, next, listeners, -⟩ := tended.listeners_by_history lives
  rw [count] at next
  rw [stay] at listeners
  exact ⟨lives, md, found, next, listeners⟩

end Run
end LiveMarkup.Display
