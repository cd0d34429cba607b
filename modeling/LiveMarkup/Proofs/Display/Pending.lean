import LiveMarkup.Proofs.Display.Numbers

/-!
What updates in progress still have to show.

* `Play.pending`: the texts that are still to be shown in a sink, with the modules they come from;
  `Move.pending_cases` says how a move changes them;
* `Play.Sound`, `Run.sound`: every update in progress has its end on the agenda, behind all that it
  still has to show.
-/

namespace LiveMarkup.Display

/-- The text that a task shows in a sink, with the module it comes from. -/
def Task.shows? (k : Nat) : Task → Option (Nat × Text)
  | tell n (.sink j) text => if j = k then some (n, text) else none
  | _ => none

/-- The module whose update a task ends. -/
def Task.released? : Task → Option Nat
  | release n => some n
  | _ => none

/-- What is still to be shown in a sink, the next first. -/
def Play.pending (k : Nat) (p : Play) : List (Nat × Text) :=
  p.agenda.filterMap (Task.shows? k)

/-- What updates of one module still have to show in a sink. -/
def Play.due (n k : Nat) (p : Play) : List Text :=
  ((p.pending k).filter (·.1 == n)).map (·.2)

/-- Whatever is to be shown is shown before the update that it belongs to ends. -/
def Enclosed : List Task → Prop
  | [] => True
  | .tell n (.sink _) _ :: rest => .release n ∈ rest ∧ Enclosed rest
  | _ :: rest => Enclosed rest

/-- The updates in progress are those whose ends are on the agenda, the latest first. -/
structure Play.Sound (p : Play) : Prop where
  numbered : p.scene.Numbered
  held : p.scene.held = p.agenda.filterMap Task.released?
  enclosed : Enclosed p.agenda

namespace Task

theorem shows?_of_isPlain {t : Task} (plain : t.isPlain = true) (k : Nat) :
    t.shows? k = none := by
  cases t with
  | tell n target text =>
    cases target with
    | script => rfl
    | sink => cases plain
  | _ => rfl

theorem released?_of_isPlain {t : Task} (plain : t.isPlain = true) : t.released? = none := by
  cases t with
  | release => cases plain
  | _ => rfl

theorem filterMap_shows?_of_plain {ts : List Task} (plains : ∀ t ∈ ts, t.isPlain = true) (k : Nat) :
    ts.filterMap (shows? k) = [] :=
  List.filterMap_eq_nil_iff.mpr fun t member => shows?_of_isPlain (plains t member) k

theorem filterMap_released?_of_plain {ts : List Task} (plains : ∀ t ∈ ts, t.isPlain = true) :
    ts.filterMap released? = [] :=
  List.filterMap_eq_nil_iff.mpr fun t member => released?_of_isPlain (plains t member)

/-- An update shows its text in a sink once for each time that the sink is in the module. -/
theorem filterMap_shows?_tell (n k : Nat) (text : Text) (targets : List Target) :
    (targets.map (tell n · text)).filterMap (shows? k) =
      List.replicate (targets.count (.sink k)) (n, text) := by
  induction targets with
  | nil => rfl
  | cons target targets ih =>
    rw [List.map_cons, List.count_cons]
    by_cases same : target = .sink k
    · subst same
      have shown : (tell n (.sink k) text).shows? k = some (n, text) := if_pos rfl
      rw [List.filterMap_cons_some shown, ih, if_pos (beq_self_eq_true _), List.replicate_succ]
    · have hidden : (tell n target text).shows? k = none := by
        cases target with
        | script => rfl
        | sink j => exact if_neg fun equal => same (congrArg Target.sink equal)
      rw [List.filterMap_cons_none hidden, ih, if_neg (by simpa using same), Nat.add_zero]

theorem filterMap_released?_tell (n : Nat) (text : Text) (targets : List Target) :
    (targets.map (tell n · text)).filterMap released? = [] := by
  rw [List.filterMap_eq_nil_iff]
  intro t member
  obtain ⟨target, -, rfl⟩ := List.mem_map.mp member
  rfl

end Task

theorem enclosed_cons_of_plain {t : Task} (plain : t.isPlain = true) (rest : List Task) :
    Enclosed (t :: rest) ↔ Enclosed rest := by
  cases t with
  | tell n target text =>
    cases target with
    | script => exact Iff.rfl
    | sink => cases plain
  | _ => exact Iff.rfl

theorem enclosed_append_of_plain {front : List Task} (plains : ∀ t ∈ front, t.isPlain = true)
    (rest : List Task) : Enclosed (front ++ rest) ↔ Enclosed rest := by
  induction front with
  | nil => exact Iff.rfl
  | cons t front ih =>
    rw [List.cons_append, enclosed_cons_of_plain (plains t List.mem_cons_self)]
    exact ih fun t' member => plains t' (List.mem_cons_of_mem t member)

theorem enclosed_tells {n : Nat} {text : Text} {rest : List Task} (targets : List Target)
    (ends : .release n ∈ rest) (enclosed : Enclosed rest) :
    Enclosed (targets.map (.tell n · text) ++ rest) := by
  induction targets with
  | nil => exact enclosed
  | cons target targets ih =>
    cases target with
    | script => exact ih
    | sink => exact ⟨List.mem_append_right _ ends, ih⟩

theorem release_mem_of_shows {ts : List Task} (enclosed : Enclosed ts) {n k : Nat} {text : Text}
    (member : (n, text) ∈ ts.filterMap (Task.shows? k)) : .release n ∈ ts := by
  induction ts with
  | nil => cases member
  | cons t ts ih =>
    by_cases plain : t.isPlain = true
    · rw [List.filterMap_cons_none (Task.shows?_of_isPlain plain k)] at member
      rw [enclosed_cons_of_plain plain] at enclosed
      exact List.mem_cons_of_mem t (ih enclosed member)
    · cases t with
      | release => exact List.mem_cons_of_mem _ (ih enclosed member)
      | tell m target shown =>
        cases target with
        | script => exact absurd rfl plain
        | sink j =>
          obtain ⟨ends, enclosed⟩ := enclosed
          rw [List.filterMap_cons] at member
          by_cases same : j = k
          · simp only [Task.shows?, if_pos same, List.mem_cons, Prod.mk.injEq] at member
            obtain ⟨rfl, -⟩ | member := member
            · exact List.mem_cons_of_mem _ ends
            · exact List.mem_cons_of_mem _ (ih enclosed member)
          · simp only [Task.shows?, if_neg same] at member
            exact List.mem_cons_of_mem _ (ih enclosed member)
      | _ => exact absurd rfl plain

namespace Scene

/-- Once an update has begun the module holds the new source. -/
theorem beginUpdate_spec {sc : Scene} {n : Nat} (made : n < sc.modules.length) (src : Text) :
    ∃ md, (sc.beginUpdate n src).1.modules[n]? = some md ∧ md.src = src ∧
      (sc.beginUpdate n src).2 = md.targets.map (.tell n · src) ++ [.release n] := by
  have found : (sc.beginUpdate n src).1.modules[n]? =
      some ((sc.modules[n]).update sc.sinkLives src) := by
    simp only [beginUpdate, modifyModule, List.getElem?_modify_eq, List.getElem?_eq_getElem made]
    rfl
  refine ⟨_, found, rfl, ?_⟩
  have tasks : (sc.beginUpdate n src).2 =
      (((sc.beginUpdate n src).1.modules[n]?.map (·.targets)).getD []).map (.tell n · src) ++
        [.release n] := rfl
  rw [tasks, found]
  rfl

theorem Acted.held {sc next : Scene} {w : Option (Nat × Writer)} (acted : sc.Acted w next) :
    next.held = sc.held := by
  cases acted with
  | keep keeps => exact keeps.held
  | render content named => rw [fill_eq]
  | insert h made found named =>
    unfold Scene.insert
    rw [fill_eq]
    rfl
  | remove named => rw [remove_eq]
  | _ => rfl

theorem Acted.not_update {sc next : Scene} {w : Option (Nat × Writer)} (acted : sc.Acted w next)
    (k n : Nat) : w ≠ some (k, .update n) := by
  cases acted <;> simp

end Scene

namespace Play

theorem pending_of_passes {p next : Play} (passes : p.Passes next) (k : Nat) :
    next.pending k = p.pending k := by
  obtain ⟨done, front, rest, before, after, plain, plains⟩ := passes
  unfold pending
  rw [before, after, List.filterMap_append, List.filterMap_append,
    Task.filterMap_shows?_of_plain plain, Task.filterMap_shows?_of_plain plains]

/-- A move puts the text of an update in front of what is to be shown, once for each time that the
sink is in the module, or shows the text that comes first, or leaves all as it is. -/
theorem Move.pending_cases {p next : Play} (move : Move p next) (sound : p.Sound) (k : Nat) :
    (∃ n md, p.updated? = some n ∧ next.scene.modules[n]? = some md ∧
      next.pending k = List.replicate (md.targets.count (.sink k)) (n, md.src) ++ p.pending k) ∨
    (∃ n text, p.updated? = none ∧ p.written? = some (k, .update n) ∧
      p.pending k = (n, text) :: next.pending k ∧ next.scene = p.scene.fill k text) ∨
    (p.updated? = none ∧ (∀ n, p.written? ≠ some (k, .update n)) ∧
      next.pending k = p.pending k) := by
  cases move with
  | act passes still acted =>
    exact Or.inr (Or.inr ⟨still, acted.not_update k, pending_of_passes passes k⟩)
  | @update n src t back rest begun still lives front plain scene agenda plains =>
    obtain ⟨md, found, rfl, tasks⟩ := Scene.beginUpdate_spec (sound.numbered.lt_of_lives lives) src
    refine Or.inl ⟨n, md, begun, by rw [scene, found], ?_⟩
    unfold pending
    rw [agenda, tasks, front, List.filterMap_cons_none (Task.shows?_of_isPlain plain k)]
    simp only [List.filterMap_append, Task.filterMap_shows?_tell,
      Task.filterMap_shows?_of_plain plains, List.append_assoc, List.nil_append]
    rfl
  | @fill n j text agenda scene =>
    have still : p.updated? = none := by rw [updated?, agenda]
    have writes : p.written? = some (j, .update n) := by rw [written?, agenda]
    by_cases same : j = k
    · subst same
      refine Or.inr (Or.inl ⟨n, text, still, writes, ?_, scene⟩)
      have shown : (Task.tell n (.sink j) text).shows? j = some (n, text) := if_pos rfl
      unfold pending
      rw [agenda, List.filterMap_cons_some shown]
    · have hidden : (Task.tell n (.sink j) text).shows? k = none := if_neg same
      refine Or.inr (Or.inr ⟨still, ?_, ?_⟩)
      · intro m shown
        rw [writes] at shown
        exact same (congrArg Prod.fst (Option.some.inj shown))
      · unfold pending
        rw [agenda, List.filterMap_cons_none hidden]
  | release agenda scene =>
    refine Or.inr (Or.inr ⟨by rw [updated?, agenda], ?_, ?_⟩)
    · intro m shown
      rw [written?, agenda] at shown
      cases shown
    · unfold pending
      rw [agenda]
      rfl

theorem Sound.next {p q : Play} (sound : p.Sound) (move : Move p q) : q.Sound := by
  have held := sound.held
  have enclosed := sound.enclosed
  refine ⟨sound.numbered.onward move.onward, ?_, ?_⟩
  · cases move with
    | act passes still acted =>
      obtain ⟨done, front, rest, before, after, plain, plains⟩ := passes
      rw [acted.held, held, before, after, List.filterMap_append, List.filterMap_append,
        Task.filterMap_released?_of_plain plain, Task.filterMap_released?_of_plain plains]
    | @update n src t back rest begun still lives front plain scene agenda plains =>
      obtain ⟨md, -, -, tasks⟩ := Scene.beginUpdate_spec (sound.numbered.lt_of_lives lives) src
      have longer : q.scene.held = n :: p.scene.held := by rw [scene]; rfl
      rw [longer, held, front, agenda, tasks,
        List.filterMap_cons_none (Task.released?_of_isPlain plain)]
      simp only [List.filterMap_append, Task.filterMap_released?_tell,
        Task.filterMap_released?_of_plain plains, List.nil_append]
      rfl
    | fill agenda scene =>
      rw [agenda] at held
      rw [scene, Scene.fill_eq]
      exact held
    | @release n agenda scene =>
      have first : p.scene.held = n :: q.agenda.filterMap Task.released? := by
        rw [held, agenda]
        rfl
      rw [scene, first, List.erase_cons_head]
  · cases move with
    | act passes still acted =>
      obtain ⟨done, front, rest, before, after, plain, plains⟩ := passes
      rw [before, enclosed_append_of_plain plain] at enclosed
      rw [after, enclosed_append_of_plain plains]
      exact enclosed
    | @update n src t back rest begun still lives front plain scene agenda plains =>
      obtain ⟨md, -, -, tasks⟩ := Scene.beginUpdate_spec (sound.numbered.lt_of_lives lives) src
      rw [front, enclosed_cons_of_plain plain] at enclosed
      rw [agenda, tasks, List.append_assoc]
      refine enclosed_tells md.targets List.mem_cons_self ?_
      exact (enclosed_append_of_plain plains rest).mpr enclosed
    | fill agenda scene =>
      rw [agenda] at enclosed
      exact enclosed.2
    | release agenda scene =>
      rw [agenda] at enclosed
      exact enclosed

theorem sound_program (steps : List Step) : (program steps).Sound := by
  have plains : ∀ t ∈ (program steps).agenda, t.isPlain = true := fun t => isPlain_of_mem_perform
  refine ⟨⟨?_, ?_, ?_, ?_⟩, ?_, ?_⟩
  · exact fun n named => absurd named List.not_mem_nil
  · exact fun n busy => absurd busy List.not_mem_nil
  · exact fun k named => absurd named List.not_mem_nil
  · exact fun h named => absurd named List.not_mem_nil
  · exact (Task.filterMap_released?_of_plain plains).symm
  · have all := enclosed_append_of_plain plains []
    rw [List.append_nil] at all
    exact all.mpr trivial

/-- What is still to be shown comes from updates in progress. -/
theorem Sound.mem_held {p : Play} (sound : p.Sound) {n k : Nat} {text : Text}
    (member : (n, text) ∈ p.pending k) : n ∈ p.scene.held := by
  rw [sound.held]
  exact List.mem_filterMap.mpr ⟨_, release_mem_of_shows sound.enclosed member, rfl⟩

theorem mem_due {p : Play} {n k : Nat} {text : Text} :
    text ∈ p.due n k ↔ (n, text) ∈ p.pending k := by
  simp only [due, List.mem_map, List.mem_filter, beq_iff_eq]
  constructor
  · rintro ⟨⟨m, text'⟩, ⟨member, rfl⟩, rfl⟩
    exact member
  · intro member
    exact ⟨(n, text), ⟨member, rfl⟩, rfl⟩

/-- Nothing is to be shown once no update is in progress. -/
theorem Sound.due_eq_nil {p : Play} (sound : p.Sound) (quiet : p.scene.held = []) (n k : Nat) :
    p.due n k = [] := by
  rw [List.eq_nil_iff_forall_not_mem]
  intro text member
  have busy := sound.mem_held (mem_due.mp member)
  rw [quiet] at busy
  cases busy

end Play

namespace Run

theorem move (run : Run) (i : Nat) : (run.play i).Move (run.play (i + 1)) :=
  Play.move_of_next (run.next i)

theorem sound (run : Run) (i : Nat) : (run.play i).Sound := by
  induction i with
  | zero =>
    obtain ⟨steps, starts⟩ := run.starts
    rw [starts]
    exact Play.sound_program steps
  | succ i ih => exact ih.next (run.move i)

theorem length_modules_le (run : Run) {i j : Nat} (later : i ≤ j) :
    (run.play i).scene.modules.length ≤ (run.play j).scene.modules.length := by
  induction later with
  | refl => exact Nat.le_refl _
  | step _ ih => exact Nat.le_trans ih (run.move _).onward.modules

theorem length_sinks_le (run : Run) {i j : Nat} (later : i ≤ j) :
    (run.play i).scene.sinks.length ≤ (run.play j).scene.sinks.length := by
  induction later with
  | refl => exact Nat.le_refl _
  | step _ ih => exact Nat.le_trans ih (run.move _).onward.sinks

/-- A sink that was made and lives later has lived all the time. -/
theorem sinkLives_of_later (run : Run) {i j k : Nat} (later : i ≤ j)
    (made : k < (run.play i).scene.sinks.length)
    (lives : (run.play j).scene.sinkLives k = true) : (run.play i).scene.sinkLives k = true := by
  induction later with
  | refl => exact lives
  | step later ih =>
    refine ih ((run.move _).onward.sinkLives ?_ lives)
    exact Nat.lt_of_lt_of_le made (run.length_sinks_le later)

end Run
end LiveMarkup.Display
