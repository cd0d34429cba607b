import LiveMarkup.Display.Scene

/-!
Playing steps in a scene. An update or an event tells the listeners that were there when it began,
one after the other, and what a listener does is done before the next one is told. What is still to
be done is kept as a list of tasks, the next one first; new tasks go in front of it, so a pass runs
completely between two tellings of the pass around it.
-/

namespace LiveMarkup.Display

/-- Something that is still to be done. `caller` names the listener whose action it is, and `module`
the module whose update is told of or ends. -/
inductive Task where
  | perform (caller : Option Text) (step : Step)
  | emit (key payload : Text)
  | deliver (receiver : Receiver) (payload : Text)
  | tell (module : Nat) (target : Target) (text : Text)
  | release (module : Nat)
  | report (caller : Option Text) (word : Text) (answer : Answer)
  | reportSrc (caller : Option Text) (word : Text) (module : Nat)

/-- A scene with what is still to be done in it, and the answer to the step that set it going. -/
structure Play where
  scene : Scene
  agenda : List Task
  answer : Answer := .nothing

namespace Scene

/-- Begins an update of a module: it is held, and whom it tells is settled. -/
def beginUpdate (n : Nat) (src : Text) (sc : Scene) : Scene × List Task :=
  let sc := { sc with held := n :: sc.held }
  let sc := sc.modifyModule n (·.update sc.sinkLives src)
  let targets := (sc.modules[n]?.map (·.targets)).getD []
  (sc, targets.map (Task.tell n · src) ++ [.release n])

/-- Begins an event: whom it tells is settled. -/
def beginEvent (key payload : Text) (sc : Scene) : Scene × List Task :=
  let sc := { sc with client := sc.client.prune sc.moduleLives key }
  (sc, (sc.client.receivers key).map (Task.deliver · payload))

/-- Begins a step. Its report comes last. -/
def begin (caller : Option Text) (step : Step) (sc : Scene) : Scene × List Task :=
  match step with
  | .update m src =>
    match sc.names.get? m with
    | some n =>
      let (sc, tasks) := sc.beginUpdate n src
      (sc, tasks ++ [.reportSrc caller step.word n])
    | none => (sc, [.report caller step.word .unknown])
  | .emit key payload => (sc, [.emit key payload, .report caller step.word .nothing])
  | .receive c => (sc, [.emit c.key c.src, .report caller step.word .nothing])
  | .listen changes =>
    (sc, changes.map (fun c => .emit c.key c.src) ++ [.report caller step.word .nothing])
  | step =>
    let (answer, sc) := sc.act step
    (sc, [.report caller step.word answer])

/-- Tells a target of a new source. A script notes that, and as long as it has runs left it does
its actions. -/
def tell (target : Target) (text : Text) (sc : Scene) : Scene × List Task :=
  match target with
  | .sink k => (sc.fill k text, [])
  | .script n =>
    match sc.scripts[n]? with
    | none => (sc, [])
    | some s =>
      let sc := sc.note (.told s.id text)
      match s.left with
      | 0 => (sc, [])
      | left + 1 =>
        ({ sc with scripts := sc.scripts.set n { s with left } },
          s.actions.map (Task.perform (some s.id)))

/-- Tells a receiver of an event; a module that lives is updated. -/
def deliver (receiver : Receiver) (payload : Text) (sc : Scene) : Scene × List Task :=
  match receiver with
  | .script n => sc.tell (.script n) payload
  | .module n => if sc.moduleLives n then sc.beginUpdate n payload else (sc, [])

end Scene

namespace Play

/-- Notes what an action of a listener came to. -/
def report (caller : Option Text) (word : Text) (answer : Answer) (p : Play) : Play :=
  match caller with
  | some id => { p with scene := p.scene.note (.did id word answer) }
  | none => { p with answer }

/-- Goes on with a scene, and with tasks in front of those that are left. -/
def goOn (rest : List Task) (p : Play) (next : Scene × List Task) : Play :=
  { p with scene := next.1, agenda := next.2 ++ rest }

/-- Does the next task. -/
def next (p : Play) : Play :=
  match p.agenda with
  | [] => p
  | .perform caller step :: rest => p.goOn rest (p.scene.begin caller step)
  | .emit key payload :: rest => p.goOn rest (p.scene.beginEvent key payload)
  | .deliver receiver payload :: rest => p.goOn rest (p.scene.deliver receiver payload)
  | .tell _ target text :: rest => p.goOn rest (p.scene.tell target text)
  | .release n :: rest =>
    p.goOn rest ({ p.scene with held := p.scene.held.erase n }, [])
  | .report caller word answer :: rest => { p with agenda := rest }.report caller word answer
  | .reportSrc caller word n :: rest =>
    { p with agenda := rest }.report caller word (.text (p.scene.srcOf n))

end Play

/-! ### Plays end -/

/-- The sum of some weights. -/
def total (weights : List Nat) : Nat :=
  weights.foldr (· + ·) 0

@[simp] theorem total_nil : total [] = 0 := rfl

@[simp] theorem total_cons (n : Nat) (ns : List Nat) : total (n :: ns) = n + total ns := rfl

@[simp] theorem total_append (a b : List Nat) : total (a ++ b) = total a + total b := by
  induction a with
  | nil => simp
  | cons n a ih => simp only [List.cons_append, total_cons, ih, Nat.add_assoc]

def Script.weight (s : Script) : Nat :=
  s.left * (1 + Step.weightOfAll s.actions)

def Scene.weight (sc : Scene) : Nat :=
  total (sc.scripts.map Script.weight)

/-- How much a task can set going; events of their own count, tellings do not. -/
def Task.weight : Task → Nat
  | perform _ step => step.weight
  | emit .. => 1
  | _ => 0

def Task.isDelivery : Task → Bool
  | deliver .. => true
  | _ => false

def tasksWeight (ts : List Task) : Nat :=
  total (ts.map Task.weight)

namespace Play

def weight (p : Play) : Nat :=
  p.scene.weight + tasksWeight p.agenda

def deliveries (p : Play) : Nat :=
  p.agenda.countP Task.isDelivery

end Play

theorem tasksWeight_append (a b : List Task) :
    tasksWeight (a ++ b) = tasksWeight a + tasksWeight b := by
  simp [tasksWeight]

theorem tasksWeight_perform (caller : Option Text) (steps : List Step) :
    tasksWeight (steps.map (Task.perform caller)) = Step.weightOfAll steps := by
  induction steps with
  | nil => rfl
  | cons s ss ih =>
    simp only [tasksWeight, List.map_cons, total_cons, Step.weightOfAll] at *
    simp only [ih, Task.weight]

theorem tasksWeight_eq_zero {ts : List Task} (h : ∀ t ∈ ts, t.weight = 0) :
    tasksWeight ts = 0 := by
  induction ts with
  | nil => rfl
  | cons t ts ih =>
    simp only [List.mem_cons, forall_eq_or_imp] at h
    have hts := ih h.2
    simp only [tasksWeight, List.map_cons, total_cons] at *
    omega

namespace Scene

theorem scripts_fill (n : Nat) (content : Text) (sc : Scene) :
    (sc.fill n content).scripts = sc.scripts := by
  unfold fill; split <;> rfl

theorem scripts_remove (h : Handle) (sc : Scene) : (sc.remove h).scripts = sc.scripts := by
  unfold remove
  simp only [scripts_fill]
  split <;> rfl

theorem weight_congr {a b : Scene} (h : a.scripts = b.scripts) : a.weight = b.weight := by
  simp [weight, h]

theorem weight_addScript (s : Script) (sc : Scene) :
    (sc.addScript s).weight = sc.weight + s.weight := by
  simp [weight, addScript]

/-- A step that attaches a listener pays for all its runs, and every step pays for itself. -/
theorem weight_act_lt (sc : Scene) (step : Step) :
    (sc.act step).2.weight < sc.weight + step.weight := by
  have same : ∀ {b : Scene} {n : Nat}, b.scripts = sc.scripts → 0 < n →
      b.weight < sc.weight + n := fun h hn => by rw [weight_congr h]; omega
  cases step with
  | onChange m id actions runs =>
    simp only [act]
    split
    · simp only [weight_addScript, Step.weight, Script.weight]
      rw [weight_congr (a := sc.attach _ _ _ _) (b := sc) rfl]
      omega
    · exact same rfl (by simp only [Step.weight]; omega)
  | on key id actions runs =>
    simp only [act, weight_addScript, Step.weight, Script.weight]
    rw [weight_congr (a := sc.bind _ _ _) (b := sc) rfl]
    omega
  | insert =>
    simp only [act]
    split
    · exact same (scripts_fill ..) (by simp only [Step.weight]; omega)
    · exact same rfl (by simp only [Step.weight]; omega)
  | remove =>
    simp only [act]
    split
    · exact same (scripts_remove ..) (by simp only [Step.weight]; omega)
    · exact same rfl (by simp only [Step.weight]; omega)
  | render =>
    simp only [act]
    split
    · exact same (scripts_fill ..) (by simp only [Step.weight]; omega)
    · exact same rfl (by simp only [Step.weight]; omega)
  | _ =>
    simp only [act]
    first
      | exact same rfl (by simp only [Step.weight]; omega)
      | split <;> exact same rfl (by simp only [Step.weight]; omega)

theorem weight_beginUpdate (n : Nat) (src : Text) (sc : Scene) :
    (sc.beginUpdate n src).1.weight = sc.weight :=
  weight_congr rfl

theorem tasksWeight_beginUpdate (n : Nat) (src : Text) (sc : Scene) :
    tasksWeight (sc.beginUpdate n src).2 = 0 := by
  apply tasksWeight_eq_zero
  intro t ht
  simp only [beginUpdate, List.mem_append, List.mem_map, List.mem_singleton] at ht
  rcases ht with ⟨_, _, rfl⟩ | rfl <;> rfl

theorem deliveries_beginUpdate (n : Nat) (src : Text) (sc : Scene) :
    (sc.beginUpdate n src).2.countP Task.isDelivery = 0 := by
  rw [List.countP_eq_zero]
  intro t ht
  simp only [beginUpdate, List.mem_append, List.mem_map, List.mem_singleton] at ht
  rcases ht with ⟨_, _, rfl⟩ | rfl <;> simp [Task.isDelivery]

theorem tasksWeight_emit (changes : List Change) :
    tasksWeight (changes.map fun c => .emit c.key c.src) = changes.length := by
  induction changes with
  | nil => rfl
  | cons c cs ih =>
    simp only [tasksWeight, List.map_cons, total_cons, List.length_cons] at *
    simp only [ih, Task.weight]
    omega

theorem weight_begin_lt (caller : Option Text) (step : Step) (sc : Scene) :
    (sc.begin caller step).1.weight + tasksWeight (sc.begin caller step).2 <
      sc.weight + step.weight := by
  have plain : ∀ s : Step, 0 < s.weight := by
    intro s; cases s <;> simp only [Step.weight] <;> omega
  cases step with
  | update m src =>
    simp only [begin]
    split
    · simp only [tasksWeight_append, tasksWeight_beginUpdate, weight_beginUpdate]
      simp [tasksWeight, Task.weight, Step.weight]
    · simp [tasksWeight, Task.weight, Step.weight]
  | emit => simp [begin, tasksWeight, Task.weight, Step.weight]
  | receive => simp [begin, tasksWeight, Task.weight, Step.weight]
  | listen changes =>
    simp only [begin, tasksWeight_append, tasksWeight_emit, Step.weight]
    simp [tasksWeight, Task.weight]
  | _ =>
    simp only [begin]
    refine Nat.lt_of_le_of_lt (Nat.le_of_eq ?_) (weight_act_lt sc _)
    simp [tasksWeight, Task.weight]

theorem sum_weight_set {scripts : List Script} {n : Nat} {s : Script} (h : scripts[n]? = some s)
    (t : Script) :
    total ((scripts.set n t).map Script.weight) + s.weight =
      total (scripts.map Script.weight) + t.weight := by
  induction scripts generalizing n with
  | nil => simp at h
  | cons a scripts ih =>
    cases n with
    | zero =>
      simp only [List.getElem?_cons_zero, Option.some.injEq] at h
      subst h
      simp only [List.set_cons_zero, List.map_cons, total_cons]
      omega
    | succ n =>
      simp only [List.getElem?_cons_succ] at h
      have := ih h
      simp only [List.set_cons_succ, List.map_cons, total_cons]
      omega

/-- Telling a target sets nothing going, or uses up a run of a script. -/
theorem tell_weight (target : Target) (text : Text) (sc : Scene) :
    (sc.tell target text).1.weight + tasksWeight (sc.tell target text).2 < sc.weight ∨
      (sc.tell target text).1.weight = sc.weight ∧ (sc.tell target text).2 = [] := by
  unfold tell
  split
  · exact .inr ⟨weight_congr (scripts_fill ..), rfl⟩
  · split
    · exact .inr ⟨rfl, rfl⟩
    · rename_i n s hs
      split
      · exact .inr ⟨weight_congr rfl, rfl⟩
      · rename_i left hleft
        refine .inl ?_
        have h := sum_weight_set hs { s with left }
        simp only [Script.weight, hleft, Nat.succ_mul] at h
        simp only [weight, note, tasksWeight_perform]
        omega

theorem deliveries_tell (target : Target) (text : Text) (sc : Scene) :
    (sc.tell target text).2.countP Task.isDelivery = 0 := by
  rw [List.countP_eq_zero]
  intro t ht
  unfold tell at ht
  split at ht
  · simp at ht
  · split at ht
    · simp at ht
    · split at ht
      · simp at ht
      · simp only [List.mem_map] at ht
        obtain ⟨_, _, rfl⟩ := ht
        simp [Task.isDelivery]

theorem deliver_weight (receiver : Receiver) (payload : Text) (sc : Scene) :
    (sc.deliver receiver payload).1.weight + tasksWeight (sc.deliver receiver payload).2 ≤
      sc.weight := by
  unfold deliver
  split
  · rename_i n
    rcases tell_weight (.script n) payload sc with h | ⟨h, h'⟩
    · omega
    · rw [h, h']; simp [tasksWeight]
  · split
    · simp [weight_beginUpdate, tasksWeight_beginUpdate]
    · simp [tasksWeight]

theorem deliveries_deliver (receiver : Receiver) (payload : Text) (sc : Scene) :
    (sc.deliver receiver payload).2.countP Task.isDelivery = 0 := by
  unfold deliver
  split
  · exact deliveries_tell ..
  · split
    · exact deliveries_beginUpdate ..
    · rfl

theorem beginEvent_weight (key payload : Text) (sc : Scene) :
    (sc.beginEvent key payload).1.weight + tasksWeight (sc.beginEvent key payload).2 =
      sc.weight := by
  have h : tasksWeight (sc.beginEvent key payload).2 = 0 := by
    apply tasksWeight_eq_zero
    intro t ht
    simp only [beginEvent, List.mem_map] at ht
    obtain ⟨_, _, rfl⟩ := ht
    rfl
  rw [h]
  exact weight_congr rfl

end Scene

namespace Play

theorem scene_report (caller : Option Text) (word : Text) (answer : Answer) (p : Play) :
    (p.report caller word answer).scene.weight = p.scene.weight ∧
      (p.report caller word answer).agenda = p.agenda := by
  unfold report
  split <;> exact ⟨Scene.weight_congr rfl, rfl⟩

/-- Whether the first of two plays has less to do. -/
def Smaller (a b : Play) : Prop :=
  a.weight < b.weight ∨ a.weight = b.weight ∧
    (a.deliveries < b.deliveries ∨ a.deliveries = b.deliveries ∧
      a.agenda.length < b.agenda.length)

/-- Each task that is done leaves less to do. -/
theorem next_smaller (p : Play) (h : p.agenda ≠ []) : Smaller p.next p := by
  obtain ⟨sc, agenda, answer⟩ := p
  cases agenda with
  | nil => exact absurd rfl h
  | cons t rest =>
    cases t with
    | perform caller step =>
      refine .inl ?_
      have := Scene.weight_begin_lt caller step sc
      simp only [next, goOn, weight, tasksWeight_append]
      simp only [tasksWeight, List.map_cons, total_cons, Task.weight] at *
      omega
    | emit key payload =>
      refine .inl ?_
      have := Scene.beginEvent_weight key payload sc
      simp only [next, goOn, weight, tasksWeight_append]
      simp only [tasksWeight, List.map_cons, total_cons, Task.weight] at *
      omega
    | deliver receiver payload =>
      have hw := Scene.deliver_weight receiver payload sc
      have hd := Scene.deliveries_deliver receiver payload sc
      simp only [Smaller, next, goOn, weight, deliveries, tasksWeight_append, List.countP_append]
      simp only [tasksWeight, List.map_cons, total_cons, Task.weight, List.countP_cons,
        Task.isDelivery, if_true, hd] at *
      omega
    | tell _ target text =>
      have hd := Scene.deliveries_tell target text sc
      simp only [Smaller, next, goOn, weight, deliveries, tasksWeight_append, List.countP_append]
      rcases Scene.tell_weight target text sc with hw | ⟨hw, ht⟩
      · refine .inl ?_
        simp only [tasksWeight, List.map_cons, total_cons, Task.weight] at *
        omega
      · refine .inr ?_
        simp only [hw, ht, tasksWeight, List.map_cons, total_cons, Task.weight,
          List.countP_cons, Task.isDelivery]
        simp
    | release n =>
      refine .inr ?_
      simp [next, goOn, weight, deliveries, tasksWeight, Task.weight, Task.isDelivery,
        Scene.weight]
    | report caller word answer' =>
      have := scene_report caller word answer' ⟨sc, rest, answer⟩
      refine .inr ?_
      simp only [next, weight, deliveries, this]
      simp [tasksWeight, Task.weight, Task.isDelivery]
    | reportSrc caller word n =>
      have := scene_report caller word (.text (sc.srcOf n)) ⟨sc, rest, answer⟩
      refine .inr ?_
      simp only [next, weight, deliveries, this]
      simp [tasksWeight, Task.weight, Task.isDelivery]

/-- Does all tasks. -/
def run (p : Play) : Play :=
  if _h : p.agenda = [] then p else run p.next
  termination_by (p.weight, p.deliveries, p.agenda.length)
  decreasing_by
    have := next_smaller p ‹_›
    simp only [Smaller] at this
    rcases this with h | ⟨h, h' | ⟨h', h''⟩⟩
    · exact Prod.Lex.left _ _ h
    · rw [h]; exact Prod.Lex.right _ (Prod.Lex.left _ _ h')
    · rw [h, h']; exact Prod.Lex.right _ (Prod.Lex.right _ h'')

theorem agenda_run (p : Play) : p.run.agenda = [] := by
  fun_induction run p with
  | case1 p h => exact h
  | case2 p _ ih => exact ih

end Play

/-- Does a step and all that it sets going. -/
def Scene.perform (step : Step) (sc : Scene) : Answer × Scene :=
  let p := Play.run { scene := sc, agenda := [.perform none step] }
  (p.answer, p.scene)

/-- Does the steps of a program, one after the other. -/
def Scene.performAll (steps : List Step) (sc : Scene) : Scene :=
  steps.foldl (fun sc step => (sc.perform step).2) sc

/-- Takes the notes that were made since they were last taken. -/
def Scene.takeNotes (sc : Scene) : List Note × Scene :=
  (sc.notes, { sc with notes := [] })

end LiveMarkup.Display
