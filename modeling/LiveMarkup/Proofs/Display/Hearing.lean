import LiveMarkup.Proofs.Display.Nesting

/-!
One change that comes in while all listeners only note what they are told.

* `Scene.bound`, `Scene.hearers`: who hears of it;
* `Scene.Told`, `told_tellAll`: what comes of telling some targets;
* `Scene.receive`, `took_receive`: what the change comes to, and what stays.
-/

namespace LiveMarkup.Display

/-- The module that a receiver is. -/
def Receiver.module? : Receiver → Option Nat
  | script _ => none
  | module n => some n

/-- The file whose changes come under the key of a binding. -/
def Binding.uid? (b : Binding) : Option Text :=
  Text.after? "change:".toList b.key

theorem Binding.key_eq_iff {b : Binding} {uid : Text} :
    b.key = Change.keyOf uid ↔ b.uid? = some uid := by
  unfold Binding.uid? Change.keyOf
  constructor
  · intro key
    rw [key]
    exact Text.after?_append _ _
  · exact Text.eq_append_of_after?

namespace Scene

/-- All listeners only note what they are told. -/
def Plain (sc : Scene) : Prop :=
  ∀ s ∈ sc.scripts, s.actions = []

/-- Who hears of changes of a file, once for each binding; modules that are gone do not. -/
def bound (uid : Text) (sc : Scene) : List Receiver :=
  (sc.client.bindings.filter fun b =>
    b.uid? == some uid && b.receiver.isLive sc.moduleLives).map (·.receiver)

/-- The modules that hear of changes of a file. -/
def followers (uid : Text) (sc : Scene) : List Nat :=
  (sc.bound uid).filterMap Receiver.module?

/-- Whom a module tells. -/
def hearers (n : Nat) (sc : Scene) : List Target :=
  (sc.modules[n]?.map fun md =>
    (md.listeners.filter (·.target.isLive sc.sinkLives)).map (·.target)).getD []

/-- Who is told in the end when a receiver hears of something. -/
def audience (sc : Scene) : Receiver → List Target
  | .script i => [.script i]
  | .module n => sc.hearers n

/-- What a target notes when it is told. -/
def noted? (text : Text) (sc : Scene) : Target → Option Note
  | .script i => sc.scripts[i]?.map (.told ·.id text)
  | .sink _ => none

/-- Tells some targets, one after the other. -/
def tellAll (targets : List Target) (text : Text) (sc : Scene) : Scene :=
  targets.foldl (fun sc target => (sc.tell target text).1) sc

/-- Gives a receiver the source, if it is a module. -/
def renew (r : Receiver) (text : Text) (sc : Scene) : Scene :=
  match r with
  | .script _ => sc
  | .module n => sc.modifyModule n (·.update sc.sinkLives text)

/-- Lets a receiver hear of a source. -/
def take (r : Receiver) (text : Text) (sc : Scene) : Scene :=
  (sc.renew r text).tellAll (sc.audience r) text

/-- Takes in a change. -/
def receive (sc : Scene) (c : Change) : Scene :=
  (sc.bound c.uid).foldl (fun sc r => sc.take r c.src)
    { sc with client := sc.client.prune sc.moduleLives c.key }

/-! ### What stays -/

/-- Who lives, who hears of what and who notes what is the same. -/
structure Calm (sc next : Scene) : Prop where
  plain : sc.Plain → next.Plain
  made : next.modules.length = sc.modules.length
  moduleLives : next.moduleLives = sc.moduleLives
  sinkLives : next.sinkLives = sc.sinkLives
  bound : ∀ uid, next.bound uid = sc.bound uid
  hearers : ∀ n, next.hearers n = sc.hearers n
  noted : ∀ text, next.noted? text = sc.noted? text

theorem Calm.refl (sc : Scene) : sc.Calm sc :=
  ⟨id, rfl, rfl, rfl, fun _ => rfl, fun _ => rfl, fun _ => rfl⟩

theorem Calm.trans {a b c : Scene} (first : a.Calm b) (second : b.Calm c) : a.Calm c where
  plain plain := second.plain (first.plain plain)
  made := second.made.trans first.made
  moduleLives := second.moduleLives.trans first.moduleLives
  sinkLives := second.sinkLives.trans first.sinkLives
  bound uid := (second.bound uid).trans (first.bound uid)
  hearers n := (second.hearers n).trans (first.hearers n)
  noted text := (second.noted text).trans (first.noted text)

theorem Calm.audience {a b : Scene} (calm : a.Calm b) (r : Receiver) :
    b.audience r = a.audience r := by
  cases r with
  | script i => rfl
  | module n => exact calm.hearers n

theorem Calm.followers {a b : Scene} (calm : a.Calm b) (uid : Text) :
    b.followers uid = a.followers uid := by
  rw [Scene.followers, calm.bound]
  rfl

/-! ### One telling -/

theorem tell_plain {sc : Scene} (plain : sc.Plain) (target : Target) (text : Text) :
    (sc.tell target text).2 = [] := by
  cases target with
  | sink k => rfl
  | script i =>
    unfold tell
    simp only
    split
    · rfl
    · rename_i s found
      split
      · rfl
      · rw [plain s (List.mem_of_getElem? found)]
        rfl

/-- A listener that is called notes what it is told and has one run less. -/
theorem tell_script (i : Nat) (text : Text) (sc : Scene) :
    (sc.tell (.script i) text).1 =
      { sc with
        notes := sc.notes ++ (sc.noted? text (.script i)).toList
        scripts := sc.scripts.modify i fun s => { s with left := s.left - 1 } } := by
  unfold tell noted?
  simp only
  cases found : sc.scripts[i]? with
  | none =>
    rw [List.modify_eq_self (List.getElem?_eq_none_iff.mp found)]
    simp only [Option.map_none, Option.toList_none, List.append_nil]
  | some s =>
    rw [modify_eq_set found]
    obtain ⟨id, actions, left⟩ := s
    cases left with
    | zero =>
      have still : sc.scripts.set i ⟨id, actions, 0⟩ = sc.scripts := by
        rw [← modify_eq_set found fun s => s]
        exact List.modify_id _ _
      simp only [still]
      rfl
    | succ left => rfl

theorem tell_sink (k : Nat) (text : Text) (sc : Scene) :
    (sc.tell (.sink k) text).1 =
      { sc with sinks := if sc.sinkLives k then sc.sinks.set k text else sc.sinks } :=
  fill_eq k text sc

/-- What is told depends neither on the updates in progress nor on the bindings. -/
theorem tell_aside (held : List Nat) (client : Client) (target : Target) (text : Text)
    (sc : Scene) :
    (tell target text { sc with held := held, client := client }).1 =
      { (sc.tell target text).1 with held := held, client := client } := by
  cases target with
  | sink k =>
    rw [tell_sink, tell_sink]
    rfl
  | script i =>
    rw [tell_script, tell_script]
    rfl

theorem calm_tell (target : Target) (text : Text) (sc : Scene) :
    sc.Calm (sc.tell target text).1 := by
  cases target with
  | sink k =>
    rw [tell_sink]
    exact ⟨id, rfl, rfl, rfl, fun _ => rfl, fun _ => rfl, fun _ => rfl⟩
  | script i =>
    rw [tell_script]
    refine ⟨?_, rfl, rfl, rfl, fun _ => rfl, fun _ => rfl, ?_⟩
    · intro plain s member
      obtain ⟨j, found⟩ := List.mem_iff_getElem?.mp member
      rw [List.getElem?_modify] at found
      obtain ⟨s', found', rfl⟩ := Option.map_eq_some_iff.mp found
      have actions := plain s' (List.mem_of_getElem? found')
      split <;> exact actions
    · intro text'
      funext target
      cases target with
      | sink => rfl
      | script j =>
        simp only [noted?, List.getElem?_modify]
        cases sc.scripts[j]? with
        | none => rfl
        | some s =>
          simp only [Option.map_eq_map, Option.map_some]
          split <;> rfl

/-- What comes of telling some targets a text: sinks that live show it, listeners note it. -/
structure Told (targets : List Target) (text : Text) (sc next : Scene) : Prop where
  calm : sc.Calm next
  sinks : ∀ k, next.sinks[k]? =
    if .sink k ∈ targets ∧ sc.sinkLives k = true then sc.sinks[k]?.map fun _ => text
    else sc.sinks[k]?
  notes : next.notes = sc.notes ++ targets.filterMap (sc.noted? text)

theorem Told.nil {text : Text} {sc next : Scene} (calm : sc.Calm next)
    (sinks : next.sinks = sc.sinks) (notes : next.notes = sc.notes) : Told [] text sc next := by
  refine ⟨calm, ?_, ?_⟩
  · intro k
    rw [if_neg (fun told => absurd told.1 List.not_mem_nil), sinks]
  · rw [notes, List.filterMap_nil, List.append_nil]

theorem Told.append {ts us : List Target} {text : Text} {a b c : Scene} (first : Told ts text a b)
    (second : Told us text b c) : Told (ts ++ us) text a c := by
  refine ⟨first.calm.trans second.calm, ?_, ?_⟩
  · intro k
    rw [second.sinks, first.sinks, first.calm.sinkLives]
    by_cases lives : a.sinkLives k = true
    · by_cases early : Target.sink k ∈ ts
      · by_cases late : Target.sink k ∈ us
        · simp [lives, early, late, Function.comp_def]
        · simp [lives, early, late]
      · by_cases late : Target.sink k ∈ us
        · simp [lives, early, late]
        · simp [lives, early, late]
    · simp [lives]
  · rw [second.notes, first.notes, first.calm.noted, List.filterMap_append, List.append_assoc]

theorem told_tell (target : Target) (text : Text) (sc : Scene) :
    Told [target] text sc (sc.tell target text).1 := by
  refine ⟨calm_tell target text sc, ?_, ?_⟩
  · intro k
    cases target with
    | script i =>
      rw [tell_script, if_neg]
      intro told
      cases List.mem_singleton.mp told.1
    | sink j =>
      rw [tell_sink]
      by_cases lives : sc.sinkLives j = true
      · rw [if_pos lives]
        by_cases same : j = k
        · subst same
          rw [if_pos ⟨List.mem_cons_self, lives⟩]
          exact List.getElem?_set_self'
        · have other : Target.sink k ∉ [Target.sink j] := by
            simpa using fun equal => same equal.symm
          rw [if_neg fun told => other told.1]
          exact List.getElem?_set_ne same
      · rw [if_neg lives, if_neg]
        rintro ⟨told, lived⟩
        cases List.mem_singleton.mp told
        exact lives lived
  · cases target with
    | script i =>
      rw [tell_script]
      cases noted : sc.noted? text (.script i) with
      | none => rw [List.filterMap_cons_none noted]; rfl
      | some note => rw [List.filterMap_cons_some noted]; rfl
    | sink k =>
      rw [tell_sink]
      exact (List.append_nil _).symm

theorem told_tellAll (targets : List Target) (text : Text) (sc : Scene) :
    Told targets text sc (sc.tellAll targets text) := by
  induction targets generalizing sc with
  | nil => exact .nil (.refl sc) rfl rfl
  | cons target targets ih => exact (told_tell target text sc).append (ih _)

theorem modules_tellAll (targets : List Target) (text : Text) (sc : Scene) :
    (sc.tellAll targets text).modules = sc.modules := by
  induction targets generalizing sc with
  | nil => rfl
  | cons target targets ih =>
    have first : (sc.tell target text).1.modules = sc.modules := by
      cases target with
      | sink k => rw [tell_sink]
      | script i => rw [tell_script]
    exact (ih _).trans first

theorem tellAll_aside (held : List Nat) (client : Client) (targets : List Target) (text : Text)
    (sc : Scene) :
    tellAll targets text { sc with held := held, client := client } =
      { sc.tellAll targets text with held := held, client := client } := by
  induction targets generalizing sc with
  | nil => rfl
  | cons target targets ih =>
    unfold tellAll at ih ⊢
    rw [List.foldl_cons, tell_aside, ih]
    rfl

/-- An update that is told of leaves those in progress as they were. -/
theorem tellAll_held (n : Nat) (targets : List Target) (text : Text) (sc : Scene) :
    let told := tellAll targets text { sc with held := n :: sc.held }
    { told with held := told.held.erase n } = sc.tellAll targets text := by
  intro told
  have aside (held : List Nat) := tellAll_aside held sc.client targets text sc
  have busy : told = { sc.tellAll targets text with held := n :: sc.held, client := sc.client } :=
    aside (n :: sc.held)
  have free : sc.tellAll targets text =
      { sc.tellAll targets text with held := sc.held, client := sc.client } := aside sc.held
  rw [busy]
  simp only [List.erase_cons_head]
  exact free.symm

/-- What comes of telling some targets does not depend on the bindings. -/
theorem tellAll_bind (client : Client) (targets : List Target) (text : Text) (sc : Scene) :
    tellAll targets text { sc with client := client } =
      { sc.tellAll targets text with client := client } := by
  have held : (sc.tellAll targets text).held = sc.held := by
    have same := congrArg Scene.held (tellAll_aside sc.held sc.client targets text sc)
    exact same
  refine (tellAll_aside sc.held client targets text sc).trans ?_
  simp only [held]

/-! ### One change -/

theorem tasks_beginUpdate (n : Nat) (text : Text) (sc : Scene) :
    (sc.beginUpdate n text).2 = (sc.hearers n).map (.tell n · text) ++ [.release n] := by
  simp only [beginUpdate, modifyModule, List.getElem?_modify_eq, hearers]
  cases sc.modules[n]? <;> rfl

/-- Some receivers have heard of a source. -/
structure Took (rs : List Receiver) (text : Text) (sc next : Scene) : Prop where
  told : Told (rs.flatMap sc.audience) text sc next
  modules : ∀ n, next.modules[n]? =
    if .module n ∈ rs then sc.modules[n]?.map (·.update sc.sinkLives text) else sc.modules[n]?

theorem update_update (sinkLives : Nat → Bool) (text : Text) (md : Module) :
    (md.update sinkLives text).update sinkLives text = md.update sinkLives text := by
  simp only [Module.update, List.filter_filter, Bool.and_self]

theorem Took.append {rs us : List Receiver} {text : Text} {a b c : Scene}
    (first : Took rs text a b) (second : Took us text b c) : Took (rs ++ us) text a c := by
  have same : us.flatMap b.audience = us.flatMap a.audience := by
    rw [funext first.told.calm.audience]
  refine ⟨?_, ?_⟩
  · rw [List.flatMap_append, ← same]
    exact first.told.append second.told
  · intro n
    rw [second.modules, first.modules, first.told.calm.sinkLives]
    by_cases early : Receiver.module n ∈ rs
    · by_cases late : Receiver.module n ∈ us
      · simp [early, late, Function.comp_def, update_update]
      · simp [early, late]
    · by_cases late : Receiver.module n ∈ us
      · simp [early, late]
      · simp [early, late]

theorem calm_renew (r : Receiver) (text : Text) (sc : Scene) : sc.Calm (sc.renew r text) := by
  cases r with
  | script i => exact .refl sc
  | module n =>
    refine ⟨id, List.length_modify .., rfl, rfl, fun _ => rfl, ?_, fun _ => rfl⟩
    intro m
    simp only [hearers, renew, modifyModule, List.getElem?_modify]
    cases sc.modules[m]? with
    | none => rfl
    | some md =>
      simp only [Option.map_eq_map, Option.map_some, Option.getD_some]
      split
      · refine congrArg (List.map _) ?_
        change List.filter _ (List.filter _ md.listeners) = _
        rw [List.filter_filter]
        exact List.filter_congr fun l _ => Bool.and_self _
      · rfl

theorem took_take (r : Receiver) (text : Text) (sc : Scene) :
    Took [r] text sc (sc.take r text) := by
  refine ⟨?_, ?_⟩
  · have renewed : Told [] text sc (sc.renew r text) := by
      refine .nil (calm_renew r text sc) ?_ ?_
      · cases r <;> rfl
      · cases r <;> rfl
    rw [List.flatMap_singleton]
    exact renewed.append (told_tellAll (sc.audience r) text _)
  · intro n
    rw [take, modules_tellAll]
    cases r with
    | script i => rfl
    | module m =>
      simp only [renew, modifyModule, List.getElem?_modify]
      by_cases same : m = n
      · subst same
        simp
      · have other : Receiver.module n ∉ [Receiver.module m] := by
          simpa using fun equal => same equal.symm
        simp [same, other]

theorem took_takes (rs : List Receiver) (text : Text) (sc : Scene) :
    Took rs text sc (rs.foldl (fun sc r => sc.take r text) sc) := by
  induction rs generalizing sc with
  | nil => exact ⟨.nil (.refl sc) rfl rfl, fun n => rfl⟩
  | cons r rs ih => exact (took_take r text sc).append (ih _)

/-- Letting go of modules that are gone does not change who hears of what. -/
theorem calm_prune (key : Text) (sc : Scene) :
    sc.Calm { sc with client := sc.client.prune sc.moduleLives key } := by
  refine ⟨id, rfl, rfl, rfl, ?_, fun _ => rfl, fun _ => rfl⟩
  intro uid
  have kept (b : Binding) :
      ((b.uid? == some uid && b.receiver.isLive sc.moduleLives) &&
        (b.key != key || b.receiver.isLive sc.moduleLives)) =
      (b.uid? == some uid && b.receiver.isLive sc.moduleLives) := by
    cases b.receiver.isLive sc.moduleLives <;> simp
  unfold bound
  refine congrArg (List.map _) ?_
  change (List.filter _ (sc.client.bindings.filter _)) = _
  rw [List.filter_filter]
  exact List.filter_congr fun b _ => kept b

theorem took_receive (c : Change) (sc : Scene) : Took (sc.bound c.uid) c.src sc (sc.receive c) := by
  have pruned : Took [] c.src sc { sc with client := sc.client.prune sc.moduleLives c.key } :=
    ⟨.nil (calm_prune c.key sc) rfl rfl, fun n => rfl⟩
  exact pruned.append (took_takes (sc.bound c.uid) c.src _)

end Scene
end LiveMarkup.Display
