import LiveMarkup.Proofs.Display.Pending

/-!
What a move does to modules and to sinks.

* `Move.module_of`: where the modules of the next play come from; only an update changes a source,
  and only a sink that is put in a module becomes one of its listeners;
* `Move.sink_of_unwritten`, `Move.sink_of_insert`, `Move.sink_of_remove`: a sink changes when it is
  written to, and then shows what the writer has.
-/

namespace LiveMarkup.Display

namespace Scene

/-- What a module was before a move that writes `w`, if no update of it has begun: the source is the
same, and a sink that is new to it was put in it. -/
structure Kept (w : Option (Nat × Writer)) (n : Nat) (md md' : Module) : Prop where
  src : md'.src = md.src
  listeners : ∀ l ∈ md'.listeners, l ∈ md.listeners ∨
    ∀ k, l.target = .sink k → w = some (k, .insert n)

theorem Kept.refl (w : Option (Nat × Writer)) (n : Nat) (md : Module) : Kept w n md md :=
  ⟨rfl, fun _ => Or.inl⟩

theorem Kept.detach (w : Option (Nat × Writer)) (n id : Nat) (md : Module) :
    Kept w n md (md.detach id) :=
  ⟨rfl, fun _ member => Or.inl (List.mem_filter.mp member).1⟩

theorem Kept.attach {w : Option (Nat × Writer)} {n : Nat} {target : Target} (md : Module)
    (put : ∀ k, target = .sink k → w = some (k, .insert n)) : Kept w n md (md.attach target) := by
  refine ⟨rfl, ?_⟩
  intro l member
  obtain old | new := List.mem_append.mp member
  · exact Or.inl old
  · rw [List.mem_singleton.mp new]
    exact Or.inr put

theorem Kept.of_modify {w : Option (Nat × Writer)} {modules : List Module} {i n : Nat}
    {f : Module → Module} {md' : Module} (found : (modules.modify i f)[n]? = some md')
    (kept : ∀ md, Kept w i md (f md)) : ∃ md, modules[n]? = some md ∧ Kept w n md md' := by
  rw [List.getElem?_modify] at found
  obtain ⟨md, before, rfl⟩ := Option.map_eq_some_iff.mp found
  refine ⟨md, before, ?_⟩
  by_cases same : i = n
  · subst same
    rw [if_pos rfl]
    exact kept md
  · rw [if_neg same]
    exact .refl w n md

theorem Acted.module_of {sc next : Scene} {w : Option (Nat × Writer)} (acted : sc.Acted w next)
    {n : Nat} {md' : Module} (found : next.modules[n]? = some md') :
    (n = sc.modules.length ∧ md'.listeners = []) ∨
      ∃ md, sc.modules[n]? = some md ∧ Kept w n md md' := by
  cases acted with
  | keep keeps =>
    rw [keeps.modules] at found
    exact Or.inr ⟨md', found, .refl none n md'⟩
  | module m src =>
    unfold addModule at found
    obtain old | new := Nat.lt_or_ge n sc.modules.length
    · rw [List.getElem?_append_left old] at found
      exact Or.inr ⟨md', found, .refl none n md'⟩
    · rw [List.getElem?_append_right new] at found
      obtain ⟨last, only⟩ := List.getElem?_eq_some_iff.mp found
      refine Or.inl ⟨?_, ?_⟩
      · rw [List.length_singleton] at last
        omega
      · rw [← only, List.getElem_singleton]
  | sink s => exact Or.inr ⟨md', found, .refl none n md'⟩
  | listen i number md id script =>
    exact Or.inr (Kept.of_modify found fun md => .attach md fun k same => by cases same)
  | detach i id => exact Or.inr (Kept.of_modify found fun md => .detach none i id md)
  | render content named =>
    rw [fill_eq] at found
    exact Or.inr ⟨md', found, .refl _ n md'⟩
  | insert h made old named =>
    unfold Scene.insert at found
    rw [fill_eq] at found
    refine Or.inr (Kept.of_modify found fun md => .attach md ?_)
    intro k same
    cases same
    rfl
  | remove named =>
    rw [remove_eq] at found
    simp only at found
    split at found
    · exact Or.inr (Kept.of_modify found fun md => .detach _ _ _ md)
    · exact Or.inr ⟨md', found, .refl _ n md'⟩

/-- The listeners that show the sources of their modules in a sink, by module and number. -/
def attachments (k : Nat) (sc : Scene) : List (Nat × Nat) :=
  sc.modules.zipIdx.flatMap fun (md, n) =>
    (md.listeners.filter (·.target == .sink k)).map fun l => (n, l.id)

theorem mem_attachments {sc : Scene} {n id k : Nat} :
    (n, id) ∈ sc.attachments k ↔
      ∃ md, sc.modules[n]? = some md ∧ ⟨id, .sink k⟩ ∈ md.listeners := by
  simp only [attachments, List.mem_flatMap, List.mem_map, List.mem_filter, Prod.mk.injEq,
    beq_iff_eq]
  constructor
  · rintro ⟨⟨md, n'⟩, made, ⟨id', target⟩, ⟨member, shown⟩, rfl, rfl⟩
    refine ⟨md, List.mk_mem_zipIdx_iff_getElem?.mp made, ?_⟩
    rw [← shown]
    exact member
  · rintro ⟨md, made, member⟩
    exact ⟨(md, n), List.mk_mem_zipIdx_iff_getElem?.mpr made, _, ⟨member, rfl⟩, rfl, rfl⟩

/-- A module tells the sinks that are attached to it. -/
theorem sink_mem_targets {sc : Scene} {n k : Nat} {md : Module} (found : sc.modules[n]? = some md) :
    .sink k ∈ md.targets ↔ ∃ id, (n, id) ∈ sc.attachments k := by
  simp only [mem_attachments, Module.targets, List.mem_map]
  constructor
  · rintro ⟨⟨id, target⟩, listens, rfl⟩
    exact ⟨id, md, found, listens⟩
  · rintro ⟨id, md', found', listens⟩
    rw [found] at found'
    cases found'
    exact ⟨_, listens, rfl⟩

theorem sinks_fill_self {sc : Scene} {k : Nat} (content : Text) (made : k < sc.sinks.length)
    (lives : sc.sinkLives k = true) : (sc.fill k content).sinks[k]? = some content := by
  rw [fill_eq, if_pos lives]
  exact List.getElem?_set_self made

theorem sinks_fill_of_ne {sc : Scene} {j k : Nat} (content : Text) (other : j ≠ k) :
    (sc.fill j content).sinks[k]? = sc.sinks[k]? := by
  rw [fill_eq]
  simp only
  split
  · exact List.getElem?_set_ne other
  · rfl

theorem sinkLives_of_get? {sc : Scene} {s : Text} {k : Nat} (named : sc.sinkNames.get? s = some k) :
    sc.sinkLives k = true :=
  List.contains_iff_mem.mpr (Naming.mem_values_of_get? named)

/-- The sinks after a removal of a sink are those after it has been cleared. -/
theorem sinks_remove (h : Handle) (sc : Scene) :
    (sc.remove h).sinks = (sc.fill h.sink []).sinks := by
  rw [remove_eq, fill_eq]

/-- The sinks after an insertion are those after the source has been shown. -/
theorem sinks_insert (n : Nat) (md : Module) (k : Nat) (h : Text) (sc : Scene) :
    (sc.insert n md k h).sinks = (sc.fill k md.src).sinks :=
  rfl

theorem srcOf_insert {sc : Scene} {n : Nat} {md : Module} (found : sc.modules[n]? = some md)
    (k : Nat) (h : Text) : (sc.insert n md k h).srcOf n = md.src := by
  have after : (sc.insert n md k h).modules[n]? = some (md.attach (.sink k)) := by
    unfold Scene.insert
    rw [fill_eq]
    simp only [Scene.attach, modifyModule, List.getElem?_modify_eq, found]
    rfl
  rw [srcOf, after]
  rfl

theorem Acted.sink_of_unwritten {sc next : Scene} {w : Option (Nat × Writer)}
    (acted : sc.Acted w next) {k : Nat} (made : k < sc.sinks.length)
    (unwritten : ∀ writer, w ≠ some (k, writer)) : next.sinks[k]? = sc.sinks[k]? := by
  have other : ∀ {j : Nat} {writer : Writer}, w = some (j, writer) → j ≠ k := by
    intro j writer writes same
    exact unwritten writer (same ▸ writes)
  cases acted with
  | keep keeps => rw [keeps.sinks]
  | sink s => exact List.getElem?_append_left made
  | render content named => exact sinks_fill_of_ne content (other rfl)
  | insert h made' found named =>
    rw [sinks_insert]
    exact sinks_fill_of_ne _ (other rfl)
  | remove named =>
    rw [sinks_remove]
    exact sinks_fill_of_ne [] (other rfl)
  | _ => rfl

end Scene

namespace Play

/-- Where the modules of the next play come from. -/
theorem Move.module_of {p next : Play} (move : Move p next) {n : Nat} {md' : Module}
    (found : next.scene.modules[n]? = some md') :
    (n = p.scene.modules.length ∧ md'.listeners = []) ∨
      ∃ md, p.scene.modules[n]? = some md ∧ (p.updated? ≠ some n → md'.src = md.src) ∧
        ∀ l ∈ md'.listeners, l ∈ md.listeners ∨
          ∀ k, l.target = .sink k → p.written? = some (k, .insert n) := by
  have same : p.scene.modules[n]? = some md' → ∃ md, p.scene.modules[n]? = some md ∧
      (p.updated? ≠ some n → md'.src = md.src) ∧
        ∀ l ∈ md'.listeners, l ∈ md.listeners ∨
          ∀ k, l.target = .sink k → p.written? = some (k, .insert n) :=
    fun found => ⟨md', found, fun _ => rfl, fun _ => Or.inl⟩
  cases move with
  | act passes still acted =>
    obtain new | ⟨md, before, kept⟩ := acted.module_of found
    · exact Or.inl new
    · exact Or.inr ⟨md, before, fun _ => kept.src, kept.listeners⟩
  | @update m src t back rest begun still lives front plain scene agenda after =>
    refine Or.inr ?_
    rw [scene] at found
    have changed : (p.scene.modules.modify m (·.update p.scene.sinkLives src))[n]? = some md' :=
      found
    rw [List.getElem?_modify] at changed
    obtain ⟨md, before, rfl⟩ := Option.map_eq_some_iff.mp changed
    refine ⟨md, before, ?_, ?_⟩
    · intro other
      have elsewhere : m ≠ n := fun equal => other (equal ▸ begun)
      rw [if_neg elsewhere]
    · intro l member
      split at member
      · exact Or.inl (List.mem_filter.mp member).1
      · exact Or.inl member
  | fill agenda scene =>
    rw [scene, Scene.fill_eq] at found
    exact Or.inr (same found)
  | release agenda scene =>
    rw [scene] at found
    exact Or.inr (same found)

/-- Only an update of a module changes its source. -/
theorem Move.srcOf_eq {p next : Play} (move : Move p next) {n : Nat}
    (made : n < p.scene.modules.length) (other : p.updated? ≠ some n) :
    next.scene.srcOf n = p.scene.srcOf n := by
  have longer : n < next.scene.modules.length := Nat.lt_of_lt_of_le made move.onward.modules
  have found := List.getElem?_eq_getElem longer
  obtain ⟨new, -⟩ | ⟨md, before, src, -⟩ := move.module_of found
  · omega
  · unfold Scene.srcOf
    rw [found, before]
    exact src other

/-- Only a sink that is put in a module gets attached to it. -/
theorem Move.mem_attachments {p next : Play} (move : Move p next) {n id k : Nat}
    (member : (n, id) ∈ next.scene.attachments k) :
    (n, id) ∈ p.scene.attachments k ∨ p.written? = some (k, .insert n) := by
  rw [Scene.mem_attachments] at member ⊢
  obtain ⟨md', found, listens⟩ := member
  obtain ⟨-, new⟩ | ⟨md, before, -, listeners⟩ := move.module_of found
  · rw [new] at listens
    cases listens
  · obtain old | put := listeners _ listens
    · exact Or.inl ⟨md, before, old⟩
    · exact Or.inr (put k rfl)

/-- The beginning of an update writes to no sink. -/
theorem Move.update_of_updated {p next : Play} (move : Move p next) {n : Nat}
    (begun : p.updated? = some n) :
    p.written? = none ∧ ∃ src, next.scene = (p.scene.beginUpdate n src).1 := by
  cases move with
  | act passes still =>
    rw [still] at begun
    cases begun
  | update src back updated still lives front plain scene =>
    rw [updated] at begun
    cases begun
    exact ⟨still, src, scene⟩
  | fill agenda =>
    rw [updated?, agenda] at begun
    cases begun
  | release agenda =>
    rw [updated?, agenda] at begun
    cases begun

/-- What writes to a sink, other than an update, is a step. -/
theorem Move.acted_of_written {p next : Play} (move : Move p next) {k : Nat} {writer : Writer}
    (writes : p.written? = some (k, writer)) (step : ∀ n, writer ≠ .update n) :
    p.scene.Acted (some (k, writer)) next.scene := by
  cases move with
  | act passes still acted => exact writes ▸ acted
  | update src back begun still =>
    rw [still] at writes
    cases writes
  | @fill n j text agenda scene =>
    rw [written?, agenda] at writes
    cases writes
    exact absurd rfl (step n)
  | release agenda scene =>
    rw [written?, agenda] at writes
    cases writes

theorem Move.sink_of_unwritten {p next : Play} (move : Move p next) {k : Nat}
    (made : k < p.scene.sinks.length) (unwritten : ∀ writer, p.written? ≠ some (k, writer)) :
    next.scene.sinks[k]? = p.scene.sinks[k]? := by
  cases move with
  | act passes still acted => exact acted.sink_of_unwritten made unwritten
  | update src back begun still lives front plain scene =>
    rw [scene]
    rfl
  | @fill n j text agenda scene =>
    have writes : p.written? = some (j, .update n) := by rw [written?, agenda]
    rw [scene]
    exact Scene.sinks_fill_of_ne text fun same => unwritten _ (same ▸ writes)
  | release agenda scene => rw [scene]

theorem Move.made_of_insert {p next : Play} (move : Move p next) (sound : p.Sound) {n k : Nat}
    (writes : p.written? = some (k, .insert n)) :
    n < p.scene.modules.length ∧ k < p.scene.sinks.length := by
  have acted := move.acted_of_written writes fun m => Writer.noConfusion
  generalize next.scene = sc at acted
  cases acted with
  | insert h made found named =>
    refine ⟨(List.getElem?_eq_some_iff.mp found).1, ?_⟩
    exact sound.numbered.sinkNames k (Naming.mem_values_of_get? named)

/-- A sink that is put in a module shows its source. -/
theorem Move.sink_of_insert {p next : Play} (move : Move p next) (sound : p.Sound) {n k : Nat}
    (writes : p.written? = some (k, .insert n)) :
    next.scene.sinks[k]? = some (next.scene.srcOf n) := by
  have acted := move.acted_of_written writes fun m => Writer.noConfusion
  generalize next.scene = sc at acted
  cases acted with
  | insert h origin found named =>
    have made := sound.numbered.sinkNames k (Naming.mem_values_of_get? named)
    rw [Scene.srcOf_insert found, Scene.sinks_insert]
    exact Scene.sinks_fill_self _ made (Scene.sinkLives_of_get? named)

/-- A sink that is taken out of its module shows nothing. -/
theorem Move.sink_of_remove {p next : Play} (move : Move p next) {k : Nat}
    (made : k < p.scene.sinks.length) (lives : p.scene.sinkLives k = true)
    (writes : p.written? = some (k, .remove)) : next.scene.sinks[k]? = some [] := by
  have acted := move.acted_of_written writes fun m => Writer.noConfusion
  generalize next.scene = sc at acted
  cases acted with
  | remove named =>
    rw [Scene.sinks_remove]
    exact Scene.sinks_fill_self [] made lives

end Play
end LiveMarkup.Display
