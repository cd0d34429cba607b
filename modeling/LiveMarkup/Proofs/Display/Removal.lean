import LiveMarkup.Proofs.Display.Contents

/-!
A sink that is taken out of its module is told of no update that begins later. An update in progress
goes on to tell all whom it was going to tell when it began, so what was still to be shown in the
sink is shown after it has been cleared.

* `Scene.Unattached`, `Move.unattached`: no module that lives has the sink among its listeners;
* `Play.Cleared`, `Cleared.next`: the sink is clear but for what was still to be shown;
* `Run.removed_sink_shows_told`: the content of a sink after its removal.
-/

namespace LiveMarkup.Display

/-- Whether a sink is put to use again. -/
def Writer.reuses : Writer → Bool
  | render => true
  | insert _ => true
  | _ => false

namespace Scene

/-- No module that lives has a sink among its listeners. -/
def Unattached (k : Nat) (sc : Scene) : Prop :=
  ∀ a ∈ sc.attachments k, sc.moduleLives a.1 = false

theorem lt_of_mem_attachments {sc : Scene} {n id k : Nat} (member : (n, id) ∈ sc.attachments k) :
    n < sc.modules.length := by
  obtain ⟨md, found, -⟩ := mem_attachments.mp member
  exact (List.getElem?_eq_some_iff.mp found).1

/-- A removal leaves the other listeners that show a module in the sink. -/
theorem mem_attachments_of_remove {sc : Scene} {handle : Handle} {n id k : Nat}
    (member : (n, id) ∈ (sc.remove handle).attachments k) :
    (n, id) ∈ sc.attachments k ∧
      (sc.moduleLives handle.module = true → (n, id) ≠ (handle.module, handle.id)) := by
  obtain ⟨md', found, listens⟩ := mem_attachments.mp member
  rw [remove_eq] at found
  simp only at found
  by_cases lives : sc.moduleLives handle.module = true
  · rw [if_pos lives, List.getElem?_modify] at found
    obtain ⟨md, before, rfl⟩ := Option.map_eq_some_iff.mp found
    by_cases same : handle.module = n
    · rw [if_pos same] at listens
      obtain ⟨old, kept⟩ := List.mem_filter.mp listens
      refine ⟨mem_attachments.mpr ⟨md, before, old⟩, ?_⟩
      intro _ equal
      cases equal
      simp at kept
    · rw [if_neg same] at listens
      refine ⟨mem_attachments.mpr ⟨md, before, listens⟩, ?_⟩
      intro _ equal
      cases equal
      exact same rfl
  · rw [if_neg lives] at found
    exact ⟨mem_attachments.mpr ⟨md', found, listens⟩, fun h => absurd h lives⟩

end Scene

namespace Play

/-- What a removal comes to. -/
theorem scene_of_remove {p next : Play} (h : p.Next next) {caller : Option Text} {name : Text}
    {rest : List Task} {handle : Handle} (front : p.agenda = .perform caller (.remove name) :: rest)
    (named : p.scene.handles.get? name = some handle) :
    next.scene = { p.scene with handles := p.scene.handles.forget name }.remove handle := by
  cases h with
  | own =>
    unfold Play.next
    rw [front]
    simp only [goOn, Scene.begin, Scene.act, named]
  | called caller' steps first calls known =>
    rw [front] at first
    cases first
    cases calls

theorem written?_of_remove {p : Play} {caller : Option Text} {name : Text} {rest : List Task}
    {handle : Handle} (front : p.agenda = .perform caller (.remove name) :: rest)
    (named : p.scene.handles.get? name = some handle) :
    p.written? = some (handle.sink, .remove) := by
  rw [written?, front]
  simp only [Scene.written?, named, Option.map_some]

/-- A sink that is taken out of the only module that lives and has it is in none any more. -/
theorem unattached_of_remove {p next : Play} (h : p.Next next) {caller : Option Text} {name : Text}
    {rest : List Task} {handle : Handle} (front : p.agenda = .perform caller (.remove name) :: rest)
    (named : p.scene.handles.get? name = some handle)
    (alone : ∀ a ∈ p.scene.attachments handle.sink, p.scene.moduleLives a.1 = true →
      a = (handle.module, handle.id)) : next.scene.Unattached handle.sink := by
  rintro ⟨n, id⟩ member
  have onward := (move_of_next h).onward
  rw [scene_of_remove h front named] at member
  obtain ⟨before, other⟩ := Scene.mem_attachments_of_remove member
  rw [← Bool.not_eq_true]
  intro lives
  have lived := onward.moduleLives (Scene.lt_of_mem_attachments before) lives
  have same := alone (n, id) before lived
  cases same
  exact other lived rfl

theorem Move.unattached {p next : Play} (move : Move p next) {k : Nat}
    (unattached : p.scene.Unattached k) (unput : ∀ n, p.written? ≠ some (k, .insert n)) :
    next.scene.Unattached k := by
  rintro ⟨n, id⟩ member
  obtain before | put := move.mem_attachments member
  · have dead := unattached (n, id) before
    rw [← Bool.not_eq_true] at dead ⊢
    exact fun lives => dead (move.onward.moduleLives (Scene.lt_of_mem_attachments before) lives)
  · exact absurd put (unput n)

theorem Move.lives_of_updated {p next : Play} (move : Move p next) {n : Nat}
    (begun : p.updated? = some n) : next.scene.moduleLives n = true := by
  obtain ⟨-, src, scene⟩ := move.update_of_updated begun
  have held : next.scene.held = n :: p.scene.held := by rw [scene]; rfl
  simp [Scene.moduleLives, held]

/-- A sink that was cleared when `due` was still to be shown in it shows nothing, or what has been
shown of that since. -/
structure Cleared (k : Nat) (due : List (Nat × Text)) (p : Play) : Prop where
  unattached : p.scene.Unattached k
  shown : ∃ told, due = told ++ p.pending k ∧ (p.scene.sinks[k]? = some [] ∨
    ∃ n text, told.getLast? = some (n, text) ∧ p.scene.sinks[k]? = some text)

theorem Cleared.next {p q : Play} {k : Nat} {due : List (Nat × Text)} (cleared : p.Cleared k due)
    (move : Move p q) (sound : p.Sound) (made : k < p.scene.sinks.length)
    (lives : p.scene.sinkLives k = true) (unused : ∀ w ∈ p.written?, w.1 = k → w.2.reuses = false) :
    q.Cleared k due := by
  obtain ⟨told, split, content⟩ := cleared.shown
  have unput : ∀ n, p.written? ≠ some (k, .insert n) := by
    intro n put
    have reused := unused _ put rfl
    cases reused
  have unattached := move.unattached cleared.unattached unput
  refine ⟨unattached, ?_⟩
  obtain ⟨n, md, begun, found, pending⟩ | ⟨n, text, -, writes, pending, scene⟩ |
    ⟨-, notUpdate, pending⟩ := move.pending_cases sound k
  · have untold : md.targets.count (.sink k) = 0 := by
      rw [List.count_eq_zero]
      intro tells
      obtain ⟨id, attached⟩ := (Scene.sink_mem_targets found).mp tells
      have dead := unattached (n, id) attached
      rw [move.lives_of_updated begun] at dead
      cases dead
    have unwritten : ∀ writer, p.written? ≠ some (k, writer) := by
      rw [(move.update_of_updated begun).1]
      exact fun writer => (Option.some_ne_none _).symm
    rw [untold, List.replicate_zero, List.nil_append] at pending
    rw [pending, move.sink_of_unwritten made unwritten]
    exact ⟨told, split, content⟩
  · refine ⟨told ++ [(n, text)], ?_, Or.inr ⟨n, text, ?_, ?_⟩⟩
    · rw [split, pending, List.append_assoc, List.singleton_append]
    · rw [List.getLast?_concat]
    · rw [scene]
      exact Scene.sinks_fill_self text made lives
  · rw [pending]
    refine ⟨told, split, ?_⟩
    by_cases removed : p.written? = some (k, .remove)
    · exact Or.inl (move.sink_of_remove made lives removed)
    · have unwritten : ∀ writer, p.written? ≠ some (k, writer) := by
        intro writer writes
        cases writer with
        | remove => exact removed writes
        | update n => exact notUpdate n writes
        | insert n => exact unput n writes
        | render =>
          have reused := unused _ writes rfl
          cases reused
      rw [move.sink_of_unwritten made unwritten]
      exact content

end Play

namespace Run

/-- A sink that is taken out of the only module that lives and has it, and is not put to use again,
shows nothing but what updates in progress at its removal had still to show in it, the last of
what they have shown since. -/
theorem removed_sink_shows_told (run : Run) {i j : Nat} {caller : Option Text} {name : Text}
    {rest : List Task} {handle : Handle}
    (front : (run.play i).agenda = .perform caller (.remove name) :: rest)
    (named : (run.play i).scene.handles.get? name = some handle)
    (alone : ∀ a ∈ (run.play i).scene.attachments handle.sink,
      (run.play i).scene.moduleLives a.1 = true → a = (handle.module, handle.id))
    (later : i < j)
    (unused : ∀ l < j, i < l → ∀ w ∈ (run.play l).written?, w.1 = handle.sink → w.2.reuses = false)
    (lives : (run.play j).scene.sinkLives handle.sink = true) :
    ∃ told, (run.play (i + 1)).pending handle.sink = told ++ (run.play j).pending handle.sink ∧
      ((run.play j).scene.sinks[handle.sink]? = some [] ∨ ∃ n text,
        told.getLast? = some (n, text) ∧ (run.play j).scene.sinks[handle.sink]? = some text) := by
  have made : handle.sink < (run.play i).scene.sinks.length :=
    (run.sound i).numbered.handles handle (Naming.mem_values_of_get? named)
  have cleared : (run.play j).Cleared handle.sink ((run.play (i + 1)).pending handle.sink) := by
    refine holds_of_kept later ?_ ?_
    · have writes := Play.written?_of_remove front named
      have lived := run.sinkLives_of_later (Nat.le_of_lt later) made lives
      have clear := (run.move i).sink_of_remove made lived writes
      have unattached := Play.unattached_of_remove (run.next i) front named alone
      exact ⟨unattached, [], rfl, Or.inl clear⟩
    · intro l before after cleared
      have made := Nat.lt_of_lt_of_le made (run.length_sinks_le (Nat.le_of_lt after))
      have lived := run.sinkLives_of_later (Nat.le_of_lt before) made lives
      exact cleared.next (run.move l) (run.sound l) made lived (unused l before after)
  exact cleared.shown

/-- A listener that takes a sink out of its module before the sink is told of an update. -/
def interrupted : Run :=
  ofProgram [.module ['m'] ['a'], .onChange ['m'] ['l'] [.remove ['h']] 1, .sink ['s'],
    .insert ['m'] ['s'] ['h'], .update ['m'] ['b']]

/-- The listener's removal comes as the tenth task of the run. -/
theorem interrupted_front : (interrupted.play 10).agenda =
    .perform (some ['l']) (.remove ['h']) :: (interrupted.play 10).agenda.tail :=
  rfl

theorem interrupted_shows_told :
    (interrupted.play 10).scene.handles.get? ['h'] = some ⟨0, 1, 0⟩ ∧
      ∃ told, (interrupted.play 11).pending 0 = told ++ (interrupted.play 15).pending 0 ∧
        ((interrupted.play 15).scene.sinks[0]? = some [] ∨ ∃ n text,
          told.getLast? = some (n, text) ∧ (interrupted.play 15).scene.sinks[0]? = some text) := by
  have named : (interrupted.play 10).scene.handles.get? ['h'] = some ⟨0, 1, 0⟩ := by
    decide +kernel
  have alone : ∀ a ∈ (interrupted.play 10).scene.attachments 0,
      (interrupted.play 10).scene.moduleLives a.1 = true → a = (0, 1) := by decide +kernel
  have unused : ∀ l < 15, 10 < l → ∀ w ∈ (interrupted.play l).written?, w.1 = 0 →
      w.2.reuses = false := by decide +kernel
  have lives : (interrupted.play 15).scene.sinkLives 0 = true := by decide +kernel
  exact ⟨named,
    interrupted.removed_sink_shows_told interrupted_front named alone (by decide) unused lives⟩

/-- The update goes on with whom it was going to tell, so the sink is not left clear. -/
theorem interrupted_shows_removed_sink :
    ¬ ∀ (run : Run) (i j : Nat) (caller : Option Text) (name : Text) (rest : List Task)
      (handle : Handle), (run.play i).agenda = .perform caller (.remove name) :: rest →
      (run.play i).scene.handles.get? name = some handle →
      (run.play i).scene.attachments handle.sink = [(handle.module, handle.id)] → i < j →
      (∀ l < j, i < l → ∀ w ∈ (run.play l).written?, w.1 = handle.sink → w.2.reuses = false) →
      (run.play j).scene.sinkLives handle.sink = true →
      (run.play j).scene.sinks[handle.sink]? = some [] := by
  intro stays
  have clear := stays interrupted 10 15 (some ['l']) ['h'] _ ⟨0, 1, 0⟩ interrupted_front
    (by decide +kernel) (by decide +kernel) (by decide) (by decide +kernel) (by decide +kernel)
  have shown : (interrupted.play 15).scene.sinks[0]? ≠ some [] := by decide +kernel
  exact shown clear

end Run
end LiveMarkup.Display
