import LiveMarkup.Proofs.Handler.Turns

/-!
Runs whose stages go by their context alone and leave the registry as it is. Such a run comes to the
same in all worlds that have the same registry.
-/

namespace LiveMarkup

variable {σ W α : Type}

namespace Session

/-- The answer does not depend on the world, and the registry stays as it is. -/
def Plain (s : Session σ W) (f : W → α × W) : Prop :=
  ∀ w, s.registry (f w).2 = s.registry w ∧ ∀ w', (f w').1 = (f w).1

/-- All that a run with some registry can call is plain. -/
structure Steady (s : Session σ W) (h : Handler σ) (r : Registry σ) : Prop where
  stage : ∀ stage ∈ h.parsers ++ r.pre ++ h.processors ++ r.post, ∀ ctx,
    s.Plain (s.stages.run stage ctx)
  minifier : ∀ options src, s.Plain (s.minifier options src)

variable {s : Session σ W} {h : Handler σ} {r : Registry σ}

/-- In two worlds a plain answer is the same, and only what becomes of the worlds can differ. -/
theorem Plain.eq {f : W → α × W} (plain : s.Plain f) (w w' : W) : f w' = ((f w).1, (f w').2) :=
  Prod.ext ((plain w).2 w') rfl

theorem Plain.turn {stage : σ} (plain : ∀ ctx, s.Plain (s.stages.run stage ctx)) (phase : Phase)
    (src : Text) : s.Plain (s.turn h src (.stage phase stage)) := by
  intro w
  obtain ⟨kept, same⟩ := plain (h.context src) w
  exact ⟨kept, fun w' => congrArg (Except.map Context.src) (same w')⟩

theorem Plain.take {ts : List (Turn σ)} (plain : ∀ t ∈ ts, ∀ src, s.Plain (s.turn h src t))
    (src : Text) : s.Plain (s.take h ts src) := by
  induction ts generalizing src with
  | nil => exact fun w => ⟨rfl, fun w' => rfl⟩
  | cons t ts ih =>
    intro w
    have first := plain t List.mem_cons_self src
    have rest := ih fun t' member => plain t' (List.mem_cons_of_mem t member)
    have turned := first.eq w
    cases answer : (s.turn h src t w).1 with
    | error message =>
      rw [answer] at turned
      refine ⟨?_, fun w' => ?_⟩
      · rw [take_cons_error (turned w)]
        exact (first w).1
      · rw [take_cons_error (turned w), take_cons_error (turned w')]
    | ok out =>
      rw [answer] at turned
      refine ⟨?_, fun w' => ?_⟩
      · rw [take_cons_ok (turned w)]
        exact (rest out _).1.trans (first w).1
      · rw [take_cons_ok (turned w), take_cons_ok (turned w')]
        exact (rest out _).2 _

theorem parsing_eq_of_plain {parsers : List σ}
    (plain : ∀ parser ∈ parsers, ∀ ctx, s.Plain (s.stages.run parser ctx)) (src : Text)
    (w w' : W) : s.parsing h src parsers w' = s.parsing h src parsers w := by
  induction parsers generalizing w w' with
  | nil => rfl
  | cons parser rest ih =>
    have offered : s.Plain (s.turn h src (.stage .parse parser)) :=
      Plain.turn (plain parser List.mem_cons_self) .parse src
    have further := ih fun p member => plain p (List.mem_cons_of_mem parser member)
    have turned := offered.eq w
    cases answer : (s.turn h src (.stage .parse parser) w).1 with
    | error message =>
      rw [answer] at turned
      rw [parsing_cons_error (turned w), parsing_cons_error (turned w')]
    | ok out =>
      rw [answer] at turned
      rw [parsing_cons_ok (turned w), parsing_cons_ok (turned w'), further (s.turn ..).2]

/-- The turns that are due when the registry stays as it is. -/
def dueAt (s : Session σ W) (h : Handler σ) (r : Registry σ) (src : Text) (w : W) :
    List (Turn σ) :=
  s.parsing h src h.parsers w ++ r.pre.map (.stage .pre) ++ h.processors.map (.stage .perFile) ++
    r.post.map (.stage .post) ++ r.settings.minify.options?.toList.map .minifier

theorem Steady.turn (steady : s.Steady h r) {src : Text} {w : W} {t : Turn σ}
    (member : t ∈ s.dueAt h r src w) (src' : Text) : s.Plain (s.turn h src' t) := by
  simp only [dueAt, List.mem_append, List.mem_map] at member
  rcases member with
    (((parser | ⟨stage, own, rfl⟩) | ⟨stage, own, rfl⟩) | ⟨stage, own, rfl⟩) | ⟨options, -, rfl⟩
  · obtain ⟨stage, own, rfl⟩ := mem_of_mem_parsing parser
    exact Plain.turn (steady.stage stage (by simp [own])) _ _
  · exact Plain.turn (steady.stage stage (by simp [own])) _ _
  · exact Plain.turn (steady.stage stage (by simp [own])) _ _
  · exact Plain.turn (steady.stage stage (by simp [own])) _ _
  · exact steady.minifier options src'

theorem Steady.due_eq {w : W} (steady : s.Steady h (s.registry w)) (src : Text) :
    s.due h src w = s.dueAt h (s.registry w) src w := by
  have unchanged {ts : List (Turn σ)} (due : ts <+: s.dueAt h (s.registry w) src w) :
      s.registryAfter h ts src w = s.registry w :=
    (Plain.take (fun _ member => steady.turn (due.subset member)) src w).1
  have prepared : s.registryAfter h (s.parsing h src h.parsers w) src w = s.registry w := by
    apply unchanged
    simp only [dueAt, List.append_assoc]
    exact List.prefix_append ..
  have processed : s.registryAfter h (s.parsing h src h.parsers w ++
      (s.registry w).pre.map (.stage .pre) ++ h.processors.map (.stage .perFile)) src w =
      s.registry w :=
    unchanged ((List.prefix_append ..).trans (List.prefix_append ..))
  have settled : s.registryAfter h (s.parsing h src h.parsers w ++
      (s.registry w).pre.map (.stage .pre) ++ h.processors.map (.stage .perFile) ++
      (s.registry w).post.map (.stage .post)) src w = s.registry w :=
    unchanged (List.prefix_append ..)
  simp only [due, prepared, processed, settled]
  rfl

/-- A steady run leaves the registry as it is, and comes to the same in another world in which the
registry is the same. -/
theorem Steady.run {w : W} (steady : s.Steady h (s.registry w)) (src : Text) :
    s.registry (s.run h src w).2 = s.registry w ∧
      ∀ w', s.registry w' = s.registry w → (s.run h src w').1 = (s.run h src w).1 := by
  have each : ∀ t ∈ s.dueAt h (s.registry w) src w, ∀ src', s.Plain (s.turn h src' t) :=
    fun _ member => steady.turn member
  have plain := Plain.take each src w
  rw [run_eq_take, steady.due_eq]
  refine ⟨plain.1, fun w' same => ?_⟩
  have steady' : s.Steady h (s.registry w') := same ▸ steady
  have parsers : ∀ parser ∈ h.parsers, ∀ ctx, s.Plain (s.stages.run parser ctx) :=
    fun parser member => steady.stage parser (by simp [member])
  have due : s.dueAt h (s.registry w') src w' = s.dueAt h (s.registry w) src w := by
    rw [dueAt, parsing_eq_of_plain parsers src w w', same]
    rfl
  rw [run_eq_take, steady'.due_eq, due]
  exact congrArg (Except.map h.context) (plain.2 w')

end Session
end LiveMarkup
