import LiveMarkup.Proofs.Display.Runs

/-!
Numbers and lives.

* `Scene.Numbered`: all numbers in a scene stand for modules and sinks that were made;
* `Scene.Onward`, `Move.onward`: numbers stay, and what is dead stays dead.
-/

namespace LiveMarkup.Display

namespace Scene

/-- All numbers stand for something. -/
structure Numbered (sc : Scene) : Prop where
  names : ∀ n ∈ sc.names.values, n < sc.modules.length
  held : ∀ n ∈ sc.held, n < sc.modules.length
  sinkNames : ∀ k ∈ sc.sinkNames.values, k < sc.sinks.length
  handles : ∀ h ∈ sc.handles.values, h.sink < sc.sinks.length

/-- How far lives and numbers of a later scene come from an earlier one: what lives later has lived
before, or is new. -/
structure Onward (sc next : Scene) : Prop where
  modules : sc.modules.length ≤ next.modules.length
  sinks : sc.sinks.length ≤ next.sinks.length
  names : ∀ n ∈ next.names.values, n ∈ sc.names.values ∨
    sc.modules.length ≤ n ∧ n < next.modules.length
  held : ∀ n ∈ next.held, n ∈ sc.names.values ∨ n ∈ sc.held
  sinkNames : ∀ k ∈ next.sinkNames.values, k ∈ sc.sinkNames.values ∨
    sc.sinks.length ≤ k ∧ k < next.sinks.length
  handles : ∀ h ∈ next.handles.values, h ∈ sc.handles.values ∨ h.sink ∈ sc.sinkNames.values

theorem fill_eq (k : Nat) (content : Text) (sc : Scene) :
    sc.fill k content =
      { sc with sinks := if sc.sinkLives k then sc.sinks.set k content else sc.sinks } := by
  unfold fill
  split <;> rfl

theorem remove_eq (h : Handle) (sc : Scene) :
    sc.remove h =
      { sc with
        modules :=
          if sc.moduleLives h.module then sc.modules.modify h.module (·.detach h.id) else sc.modules
        sinks := if sc.sinkLives h.sink then sc.sinks.set h.sink [] else sc.sinks } := by
  unfold remove
  rw [fill_eq]
  split <;> rfl

/-- Where no name and no handle is given, lives and numbers go on if no module and no sink is
lost. -/
theorem Onward.of_eq {sc next : Scene} (modules : sc.modules.length ≤ next.modules.length)
    (sinks : sc.sinks.length ≤ next.sinks.length) (names : next.names = sc.names)
    (held : ∀ n ∈ next.held, n ∈ sc.names.values ∨ n ∈ sc.held)
    (sinkNames : next.sinkNames = sc.sinkNames)
    (handles : ∀ h ∈ next.handles.values, h ∈ sc.handles.values ∨ h.sink ∈ sc.sinkNames.values) :
    sc.Onward next := by
  refine ⟨modules, sinks, ?_, held, ?_, handles⟩
  · intro n named
    rw [names] at named
    exact Or.inl named
  · intro k named
    rw [sinkNames] at named
    exact Or.inl named

theorem length_set_if (live : Bool) (sinks : List Text) (k : Nat) (content : Text) :
    (if live then sinks.set k content else sinks).length = sinks.length := by
  cases live <;> simp

theorem Acted.onward {sc next : Scene} {w : Option (Nat × Writer)} (acted : sc.Acted w next) :
    sc.Onward next := by
  cases acted with
  | keep keeps =>
    refine ⟨keeps.modules ▸ Nat.le_refl _, keeps.sinks ▸ Nat.le_refl _, ?_, ?_, ?_, ?_⟩
    · exact fun n named => Or.inl (keeps.names n named)
    · exact fun n busy => Or.inr (keeps.held ▸ busy)
    · exact fun k named => Or.inl (keeps.sinkNames k named)
    · exact fun h named => Or.inl (keeps.handles h named)
  | module m src =>
    have longer : (sc.addModule m src).modules.length = sc.modules.length + 1 := by
      simp [addModule]
    refine ⟨by omega, Nat.le_refl _, ?_, fun n => Or.inr, fun k => Or.inl, fun h => Or.inl⟩
    intro n named
    obtain rfl | named := Naming.mem_values_of_give named
    · exact Or.inr ⟨Nat.le_refl _, by omega⟩
    · exact Or.inl named
  | sink s =>
    have longer : (sc.addSink s).sinks.length = sc.sinks.length + 1 := by
      simp [addSink]
    refine ⟨Nat.le_refl _, by omega, fun n => Or.inl, fun n => Or.inr, ?_, fun h => Or.inl⟩
    intro k named
    obtain rfl | named := Naming.mem_values_of_give named
    · exact Or.inr ⟨Nat.le_refl _, by omega⟩
    · exact Or.inl named
  | listen n number md id script =>
    refine .of_eq ?_ (Nat.le_refl _) rfl (fun n => Or.inr) rfl fun h => Or.inl
    simp [addScript, attach, modifyModule]
  | detach n id =>
    refine .of_eq ?_ (Nat.le_refl _) rfl (fun n => Or.inr) rfl fun h => Or.inl
    simp [modifyModule]
  | render content named =>
    rw [fill_eq]
    refine .of_eq (Nat.le_refl _) ?_ rfl (fun n => Or.inr) rfl fun h => Or.inl
    simp only [length_set_if, Nat.le_refl]
  | @insert m s n k md h made found named =>
    unfold Scene.insert
    rw [fill_eq]
    refine .of_eq ?_ ?_ rfl (fun n => Or.inr) rfl ?_
    · simp [attach, modifyModule]
    · simp only [attach, modifyModule, length_set_if, Nat.le_refl]
    · intro handle member
      obtain rfl | member := Naming.mem_values_of_give member
      · exact Or.inr (Naming.mem_values_of_get? named)
      · exact Or.inl member
  | remove named =>
    rw [remove_eq]
    refine .of_eq ?_ ?_ rfl (fun n => Or.inr) rfl fun h member =>
      Or.inl (Naming.mem_values_of_forget member)
    · simp only
      split <;> simp
    · simp only [length_set_if, Nat.le_refl]

theorem beginUpdate_onward {sc : Scene} {n : Nat} (lives : sc.moduleLives n = true) (src : Text) :
    sc.Onward (sc.beginUpdate n src).1 := by
  refine .of_eq ?_ (Nat.le_refl _) rfl ?_ rfl fun h => Or.inl
  · simp [beginUpdate, modifyModule]
  · intro n' busy
    obtain rfl | busy := List.mem_cons.mp busy
    · simpa [moduleLives] using lives
    · exact Or.inr busy

theorem Numbered.onward {sc next : Scene} (numbered : sc.Numbered) (onward : sc.Onward next) :
    next.Numbered := by
  constructor
  · intro n named
    obtain old | new := onward.names n named
    · exact Nat.lt_of_lt_of_le (numbered.names n old) onward.modules
    · exact new.2
  · intro n busy
    obtain named | busy := onward.held n busy
    · exact Nat.lt_of_lt_of_le (numbered.names n named) onward.modules
    · exact Nat.lt_of_lt_of_le (numbered.held n busy) onward.modules
  · intro k named
    obtain old | new := onward.sinkNames k named
    · exact Nat.lt_of_lt_of_le (numbered.sinkNames k old) onward.sinks
    · exact new.2
  · intro h named
    obtain old | shown := onward.handles h named
    · exact Nat.lt_of_lt_of_le (numbered.handles h old) onward.sinks
    · exact Nat.lt_of_lt_of_le (numbered.sinkNames h.sink shown) onward.sinks

theorem Numbered.lt_of_lives {sc : Scene} (numbered : sc.Numbered) {n : Nat}
    (lives : sc.moduleLives n = true) : n < sc.modules.length := by
  unfold moduleLives at lives
  rw [Bool.or_eq_true, List.contains_iff_mem, List.contains_iff_mem] at lives
  obtain named | busy := lives
  · exact numbered.names n named
  · exact numbered.held n busy

/-- A sink that was made and lives later has lived before. -/
theorem Onward.sinkLives {sc next : Scene} (onward : sc.Onward next) {k : Nat}
    (made : k < sc.sinks.length) (lives : next.sinkLives k = true) : sc.sinkLives k = true := by
  unfold Scene.sinkLives at *
  rw [List.contains_iff_mem] at *
  obtain old | new := onward.sinkNames k lives
  · exact old
  · omega

/-- A module that was made and lives later has lived before. -/
theorem Onward.moduleLives {sc next : Scene} (onward : sc.Onward next) {n : Nat}
    (made : n < sc.modules.length) (lives : next.moduleLives n = true) :
    sc.moduleLives n = true := by
  unfold Scene.moduleLives at *
  rw [Bool.or_eq_true, List.contains_iff_mem, List.contains_iff_mem] at *
  obtain named | busy := lives
  · obtain old | new := onward.names n named
    · exact Or.inl old
    · omega
  · exact onward.held n busy

end Scene

namespace Play

theorem Move.onward {p next : Play} (move : Move p next) : p.scene.Onward next.scene := by
  cases move with
  | act passes still acted => exact acted.onward
  | update src back begun still lives front plain scene agenda after =>
    rw [scene]
    exact Scene.beginUpdate_onward lives src
  | fill agenda scene =>
    rw [scene, Scene.fill_eq]
    refine .of_eq (Nat.le_refl _) ?_ rfl (fun n => Or.inr) rfl fun h => Or.inl
    simp only [Scene.length_set_if, Nat.le_refl]
  | release agenda scene =>
    rw [scene]
    refine .of_eq (Nat.le_refl _) (Nat.le_refl _) rfl ?_ rfl fun h => Or.inl
    exact fun n busy => Or.inr (List.mem_of_mem_erase busy)

end Play
end LiveMarkup.Display
