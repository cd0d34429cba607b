import LiveMarkup.Proofs.Display.Contents

/-!
What a sink in a module shows once no update is in progress.

A listener that updates the module it listens to has the new source shown before the update around
it has shown its own, which then comes last. So a sink shows the source of its module if all was
shown when the module was last updated; otherwise it shows the last of what was still to be shown
then, however old.

* `Play.Settles`, `Move.settles_of_refreshes`, `Settles.next`: the text that a sink comes to show;
* `Run.sink_shows_last_due`: the content of a sink that only its module has written to.
-/

namespace LiveMarkup.Display

namespace Play

/-- Whether the next task gives a module a new source, or puts a sink in it. -/
def Refreshes (n k : Nat) (p : Play) : Prop :=
  p.updated? = some n ∨ p.written? = some (k, .insert n)

/-- What updates of a module show last in a sink; if they have nothing to show, the source. -/
def lastDue (n k : Nat) (src : Text) (p : Play) : Text :=
  (p.due n k).getLast?.getD src

/-- A sink comes to show a text: updates of its module show it last, or it is shown already. -/
structure Settles (n k : Nat) (text : Text) (p : Play) : Prop where
  last : p.due n k ≠ [] → (p.due n k).getLast? = some text
  shown : p.due n k = [] → (∃ id, (n, id) ∈ p.scene.attachments k) → p.scene.sinks[k]? = some text

/-- What a move does to what updates of one module still have to show. -/
theorem Move.due_cases {p next : Play} (move : Move p next) (sound : p.Sound) (n k : Nat) :
    (∃ md, p.updated? = some n ∧ next.scene.modules[n]? = some md ∧
      next.due n k = List.replicate (md.targets.count (.sink k)) md.src ++ p.due n k) ∨
    (∃ text, p.written? = some (k, .update n) ∧ p.due n k = text :: next.due n k ∧
      next.scene = p.scene.fill k text) ∨
    (p.updated? ≠ some n ∧ p.written? ≠ some (k, .update n) ∧ next.due n k = p.due n k) := by
  obtain ⟨m, md, begun, found, pending⟩ | ⟨m, text, still, writes, pending, scene⟩ |
    ⟨still, unwritten, pending⟩ := move.pending_cases sound k
  · by_cases same : m = n
    · subst same
      refine Or.inl ⟨md, begun, found, ?_⟩
      simp [due, pending]
    · refine Or.inr (Or.inr ⟨?_, ?_, ?_⟩)
      · rw [begun]
        exact fun equal => same (Option.some.inj equal)
      · rw [(move.update_of_updated begun).1]
        exact (Option.some_ne_none _).symm
      · simp [due, pending, same]
  · by_cases same : m = n
    · subst same
      refine Or.inr (Or.inl ⟨text, writes, ?_, scene⟩)
      simp [due, pending]
    · refine Or.inr (Or.inr ⟨?_, ?_, ?_⟩)
      · rw [still]
        exact (Option.some_ne_none _).symm
      · rw [writes]
        simpa using same
      · simp [due, pending, same]
  · refine Or.inr (Or.inr ⟨?_, unwritten n, ?_⟩)
    · rw [still]
      exact (Option.some_ne_none _).symm
    · rw [due, due, pending]

theorem settles_of_due_eq {p next : Play} {n k : Nat} {src : Text} (due : next.due n k = p.due n k)
    (shown : p.due n k = [] → (∃ id, (n, id) ∈ next.scene.attachments k) →
      next.scene.sinks[k]? = some src) : next.Settles n k (p.lastDue n k src) := by
  refine ⟨?_, ?_⟩
  · intro busy
    rw [due] at busy ⊢
    rw [lastDue, List.getLast?_eq_some_getLast busy]
    rfl
  · intro quiet attached
    rw [due] at quiet
    rw [lastDue, quiet]
    exact shown quiet attached

/-- From a refreshment on it is settled what a sink comes to show. -/
theorem Move.settles_of_refreshes {p next : Play} (move : Move p next) (sound : p.Sound) {n k : Nat}
    (refreshes : p.Refreshes n k) : next.Settles n k (p.lastDue n k (next.scene.srcOf n)) := by
  obtain ⟨md, begun, found, due⟩ | ⟨text, writes, -, -⟩ | ⟨still, unwritten, due⟩ :=
    move.due_cases sound n k
  · have src : next.scene.srcOf n = md.src := by
      rw [Scene.srcOf, found]
      rfl
    by_cases told : Target.sink k ∈ md.targets
    · have times : md.targets.count (.sink k) ≠ 0 := Nat.ne_of_gt (List.count_pos_iff.mpr told)
      have last : (next.due n k).getLast? = some (p.lastDue n k (next.scene.srcOf n)) := by
        rw [due, List.getLast?_append, List.getLast?_replicate, if_neg times, src, lastDue]
        cases (p.due n k).getLast? <;> rfl
      refine ⟨fun _ => last, ?_⟩
      intro quiet
      rw [quiet] at last
      cases last
    · rw [List.count_eq_zero.mpr told, List.replicate_zero, List.nil_append] at due
      -- a sink that the module does not tell is not attached to it
      exact settles_of_due_eq due fun _ attached =>
        absurd ((Scene.sink_mem_targets found).mpr attached) told
  · obtain begun | put := refreshes
    · rw [(move.update_of_updated begun).1] at writes
      cases writes
    · rw [put] at writes
      cases writes
  · obtain begun | put := refreshes
    · exact absurd begun still
    · exact settles_of_due_eq due fun _ _ => move.sink_of_insert sound put

/-- It stays settled as long as only updates of the module write to the sink. -/
theorem Settles.next {p q : Play} {n k : Nat} {text : Text} (settles : p.Settles n k text)
    (move : Move p q) (sound : p.Sound) (made : k < p.scene.sinks.length)
    (lives : p.scene.sinkLives k = true) (still : ¬ p.Refreshes n k)
    (own : ∀ w ∈ p.written?, w.1 = k → w.2.module? = some n) : q.Settles n k text := by
  obtain ⟨md, begun, -, -⟩ | ⟨first, -, due, scene⟩ | ⟨-, unwritten, due⟩ :=
    move.due_cases sound n k
  · exact absurd (Or.inl begun) still
  · have last : (first :: q.due n k).getLast? = some text := by
      rw [← due]
      exact settles.last (by rw [due]; exact List.cons_ne_nil first _)
    refine ⟨?_, ?_⟩
    · intro busy
      rwa [List.getLast?_cons_of_ne_nil busy] at last
    · intro quiet _
      rw [quiet] at last
      rw [scene, Scene.sinks_fill_self first made lives]
      exact last
  · -- nothing else of the module writes to the sink, and nothing but the module does
    have untouched : ∀ writer, p.written? ≠ some (k, writer) := by
      intro writer writes
      have module := own _ writes rfl
      cases writer with
      | insert m =>
        cases module
        exact still (Or.inr writes)
      | update m =>
        cases module
        exact unwritten writes
      | _ => cases module
    refine ⟨?_, ?_⟩
    · rw [due]
      exact settles.last
    · rw [due]
      rintro quiet ⟨id, attached⟩
      rw [move.sink_of_unwritten made untouched]
      obtain old | put := move.mem_attachments attached
      · exact settles.shown quiet ⟨id, old⟩
      · exact absurd put (untouched _)

end Play

namespace Run

/-- The last moment before `i` at which a module was given a new source or a sink was put in it. -/
structure Refreshed (run : Run) (n k j i : Nat) : Prop where
  before : j < i
  refreshes : (run.play j).Refreshes n k
  last : ∀ l < i, j < l → ¬ (run.play l).Refreshes n k

theorem exists_refreshed (run : Run) {n k j i : Nat} (before : j < i)
    (refreshes : (run.play j).Refreshes n k) : ∃ l, j ≤ l ∧ run.Refreshed n k l i := by
  induction before with
  | refl => exact ⟨j, Nat.le_refl j, Nat.lt_succ_self j, refreshes, fun l => by omega⟩
  | @step i before ih =>
    by_cases again : (run.play i).Refreshes n k
    · exact ⟨i, Nat.le_of_lt before, Nat.lt_succ_self i, again, fun l => by omega⟩
    · obtain ⟨l, later, refreshed⟩ := ih
      refine ⟨l, later, Nat.lt_succ_of_lt refreshed.before, refreshed.refreshes, ?_⟩
      intro m upto after
      obtain earlier | rfl := Nat.lt_succ_iff_lt_or_eq.mp upto
      · exact refreshed.last m earlier after
      · exact again

theorem srcOf_of_refreshed (run : Run) {n k j i : Nat} (refreshed : run.Refreshed n k j i)
    (made : n < (run.play (j + 1)).scene.modules.length) :
    (run.play i).scene.srcOf n = (run.play (j + 1)).scene.srcOf n := by
  refine holds_of_kept refreshed.before rfl ?_
  intro l before after same
  have made : n < (run.play l).scene.modules.length :=
    Nat.lt_of_lt_of_le made (run.length_modules_le after)
  have other : (run.play l).updated? ≠ some n := fun begun =>
    refreshed.last l before after (Or.inl begun)
  rw [← same]
  exact (run.move l).srcOf_eq made other

theorem settles_of_refreshed (run : Run) {n k j i : Nat} (refreshed : run.Refreshed n k j i)
    (made : k < (run.play (j + 1)).scene.sinks.length)
    (lives : (run.play i).scene.sinkLives k = true)
    (own : ∀ l < i, j < l → ∀ w ∈ (run.play l).written?, w.1 = k → w.2.module? = some n) :
    (run.play i).Settles n k ((run.play j).lastDue n k ((run.play (j + 1)).scene.srcOf n)) := by
  refine holds_of_kept refreshed.before ?_ ?_
  · exact (run.move j).settles_of_refreshes (run.sound j) refreshed.refreshes
  · intro l before after settles
    have made : k < (run.play l).scene.sinks.length :=
      Nat.lt_of_lt_of_le made (run.length_sinks_le after)
    have lived := run.sinkLives_of_later (Nat.le_of_lt before) made lives
    have still := refreshed.last l before after
    exact settles.next (run.move l) (run.sound l) made lived still (own l before after)

/-- A sink that was put in a module, is still in it, and to which nothing but the module has written
since, shows what updates of the module had still to show last when the module was last refreshed;
if they had nothing to show, it shows the source of the module. -/
theorem sink_shows_last_due (run : Run) {n id k start i : Nat}
    (put : (run.play start).written? = some (k, .insert n)) (before : start < i)
    (own : ∀ l < i, start < l → ∀ w ∈ (run.play l).written?, w.1 = k → w.2.module? = some n)
    (attached : (n, id) ∈ (run.play i).scene.attachments k)
    (lives : (run.play i).scene.sinkLives k = true) (quiet : (run.play i).scene.held = []) :
    ∃ j, start ≤ j ∧ run.Refreshed n k j i ∧ (run.play i).scene.sinks[k]? =
      some ((run.play j).lastDue n k ((run.play i).scene.srcOf n)) := by
  obtain ⟨madeModule, madeSink⟩ := (run.move start).made_of_insert (run.sound start) put
  obtain ⟨j, later, refreshed⟩ := run.exists_refreshed before (Or.inr put)
  have modules := run.length_modules_le (Nat.le_succ_of_le later)
  have sinks := run.length_sinks_le (Nat.le_succ_of_le later)
  have settles := run.settles_of_refreshed refreshed (Nat.lt_of_lt_of_le madeSink sinks) lives
    fun l upto after => own l upto (Nat.lt_of_le_of_lt later after)
  refine ⟨j, later, refreshed, ?_⟩
  rw [run.srcOf_of_refreshed refreshed (Nat.lt_of_lt_of_le madeModule modules)]
  exact settles.shown ((run.sound i).due_eq_nil quiet n k) ⟨id, attached⟩

/-- A listener that updates its module once more, and a sink that is told after it. -/
def nested : Run :=
  ofProgram [.module ['m'] ['a'], .onChange ['m'] ['l'] [.update ['m'] ['c']] 1, .sink ['s'],
    .insert ['m'] ['s'] ['h'], .update ['m'] ['b']]

theorem nested_shows_last_due :
    (nested.play 6).written? = some (0, .insert 0) ∧ (nested.play 18).scene.held = [] ∧
      ∃ j, 6 ≤ j ∧ nested.Refreshed 0 0 j 18 ∧ (nested.play 18).scene.sinks[0]? =
        some ((nested.play j).lastDue 0 0 ((nested.play 18).scene.srcOf 0)) := by
  have put : (nested.play 6).written? = some (0, .insert 0) := by decide +kernel
  have own : ∀ l < 18, 6 < l → ∀ w ∈ (nested.play l).written?, w.1 = 0 → w.2.module? = some 0 := by
    decide +kernel
  have attached : (0, 1) ∈ (nested.play 18).scene.attachments 0 := by decide +kernel
  have lives : (nested.play 18).scene.sinkLives 0 = true := by decide +kernel
  have quiet : (nested.play 18).scene.held = [] := by decide +kernel
  exact ⟨put, quiet, nested.sink_shows_last_due put (by decide) own attached lives quiet⟩

/-- The text of the outer update is shown last, so the sink is left with it though the module has
the other one. -/
theorem nested_leaves_sink_behind :
    ¬ ∀ (run : Run) (n id k i : Nat), (run.play i).scene.attachments k = [(n, id)] →
      (run.play i).scene.sinkLives k = true → (run.play i).scene.held = [] →
      (∀ l < i, ∀ w ∈ (run.play l).written?, w.1 = k → w.2.module? = some n) →
      (run.play i).scene.sinks[k]? = some ((run.play i).scene.srcOf n) := by
  intro follows
  have same := follows nested 0 1 0 18 (by decide +kernel) (by decide +kernel) (by decide +kernel)
    (by decide +kernel)
  have other : (nested.play 18).scene.sinks[0]? ≠ some ((nested.play 18).scene.srcOf 0) := by
    decide +kernel
  exact other same

end Run
end LiveMarkup.Display
