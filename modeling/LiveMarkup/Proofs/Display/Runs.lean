import LiveMarkup.Proofs.Display.Moves

/-!
Programs as they go on, task by task.

* `Run`: the plays of a program, whatever its listeners do when they are called;
* `Run.ofProgram`, `scene_ofProgram`: the run in which they follow their scripts, which comes to
  what performing the steps of the program one after the other comes to.
-/

namespace LiveMarkup.Display

namespace Play

/-- The play of a program before anything is done. -/
def program (steps : List Step) : Play where
  scene := {}
  agenda := steps.map (.perform none)

/-- A play with more to do behind its agenda. -/
def extend (more : List Task) (answer : Answer) (p : Play) : Play :=
  ⟨p.scene, p.agenda ++ more, answer⟩

/-- The next task does not depend on what comes behind it, nor on the answer so far. -/
theorem next_extend {p : Play} (busy : p.agenda ≠ []) (more : List Task) (answer : Answer) :
    ∃ answer', (p.extend more answer).next = p.next.extend more answer' := by
  obtain ⟨sc, agenda, old⟩ := p
  cases agenda with
  | nil => exact absurd rfl busy
  | cons t rest =>
    cases t with
    | report caller word reply => cases caller <;> exact ⟨_, rfl⟩
    | reportSrc caller word n => cases caller <;> exact ⟨_, rfl⟩
    | _ =>
      refine ⟨answer, ?_⟩
      simp only [extend, next, goOn, List.cons_append, List.append_assoc]

theorem run_of_busy {p : Play} (busy : p.agenda ≠ []) : p.run = p.next.run := by
  rw [run, dif_neg busy]

theorem run_of_done {p : Play} (done : p.agenda = []) : p.run = p := by
  rw [run, dif_pos done]

theorem scene_run_answer (p : Play) (answer : Answer) :
    (p.extend [] answer).run.scene = p.run.scene := by
  induction p using run.induct generalizing answer with
  | case1 p done =>
    have still : (p.extend [] answer).agenda = [] := by rw [extend, done, List.append_nil]
    rw [run_of_done done, run_of_done still, extend]
  | case2 p busy ih =>
    have still : (p.extend [] answer).agenda ≠ [] := by rwa [extend, List.append_nil]
    obtain ⟨answer', step⟩ := next_extend busy [] answer
    rw [run_of_busy busy, run_of_busy still, step]
    exact ih answer'

/-- A play that has more to do goes on where it would have ended. -/
theorem scene_run_extend (p : Play) (more : List Task) (answer answer' : Answer) :
    (p.extend more answer).run.scene = (Play.mk p.run.scene more answer').run.scene := by
  induction p using run.induct generalizing answer with
  | case1 p done =>
    have same : p.extend more answer = (Play.mk p.scene more answer').extend [] answer := by
      rw [extend, extend, done, List.nil_append, List.append_nil]
    rw [run_of_done done, same]
    exact scene_run_answer _ answer
  | case2 p busy ih =>
    have still : (p.extend more answer).agenda ≠ [] := by
      rw [extend]
      exact List.append_ne_nil_of_left_ne_nil busy more
    obtain ⟨answer'', step⟩ := next_extend busy more answer
    rw [run_of_busy busy, run_of_busy still, step]
    exact ih answer''

/-- A program that is played as a whole comes to what its steps come to one after the other. -/
theorem scene_run_steps (steps : List Step) (sc : Scene) (answer : Answer) :
    (Play.mk sc (steps.map (.perform none)) answer).run.scene = sc.performAll steps := by
  induction steps generalizing sc answer with
  | nil => rw [run_of_done rfl]; rfl
  | cons step steps ih =>
    have front : Play.mk sc ((step :: steps).map (.perform none)) answer =
        extend (steps.map (.perform none)) answer { scene := sc, agenda := [.perform none step] } :=
      rfl
    rw [front, scene_run_extend _ _ answer .nothing, ih]
    rfl

/-- A play is at its end after some number of tasks. -/
theorem exists_repeat_eq_run (p : Play) : ∃ i : Nat, i.repeat next p = p.run := by
  induction p using run.induct with
  | case1 p done => exact ⟨0, (run_of_done done).symm⟩
  | case2 p busy ih =>
    obtain ⟨i, ends⟩ := ih
    refine ⟨i + 1, ?_⟩
    have shift : ∀ i : Nat, (i + 1).repeat next p = i.repeat next p.next := by
      intro i
      induction i with
      | zero => rfl
      | succ i ih => exact congrArg next ih
    rw [shift, ends, run_of_busy busy]

end Play

/-- What holds from one moment on as long as it is kept up to another holds at the other. -/
@[elab_as_elim]
theorem holds_of_kept {motive : Nat → Prop} {i j : Nat} (later : i < j) (first : motive (i + 1))
    (kept : ∀ l < j, i < l → motive l → motive (l + 1)) : motive j := by
  have upto : ∀ l, i + 1 ≤ l → l ≤ j → motive l := by
    intro l after
    induction after with
    | refl => exact fun _ => first
    | @step l after ih => exact fun before => kept l before after (ih (Nat.le_of_lt before))
  exact upto j later (Nat.le_refl j)

/-- A program as it goes on, task by task; what its listeners do when they are called is open. -/
structure Run where
  play : Nat → Play
  starts : ∃ steps, play 0 = .program steps
  next : ∀ i, (play i).Next (play (i + 1))

namespace Run

/-- A program whose listeners follow their scripts. -/
def ofProgram (steps : List Step) : Run where
  play i := i.repeat Play.next (.program steps)
  starts := ⟨steps, rfl⟩
  next _ := .own

/-- It ends, with what its steps come to one after the other. -/
theorem scene_ofProgram (steps : List Step) :
    ∃ i, ((ofProgram steps).play i).agenda = [] ∧
      ((ofProgram steps).play i).scene = Scene.performAll steps {} := by
  obtain ⟨i, ends⟩ := Play.exists_repeat_eq_run (.program steps)
  have last : (ofProgram steps).play i = (Play.program steps).run := ends
  refine ⟨i, ?_, ?_⟩
  · rw [last]
    exact Play.agenda_run _
  · rw [last]
    exact Play.scene_run_steps steps {} .nothing

end Run
end LiveMarkup.Display
