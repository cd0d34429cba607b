import LiveMarkup.Proofs.Display.Calling
import LiveMarkup.Proofs.Display.Pending

/-!
Passes within passes.

Whom an update or an event tells is settled when it begins. Its tellings are done one after the
other, and all that one of them sets going is done before the next, while what the passes around it
have still to do stays beneath.

* `Run.Does`, `Run.does_of_ends`: tasks are done in order, each with all that it sets going;
* `Run.tells_those_present`: what an update and an event do first, and whom they tell.
-/

namespace LiveMarkup.Display

theorem modify_eq_set {α : Type} {as : List α} {i : Nat} {a : α} (found : as[i]? = some a)
    (f : α → α) : as.modify i f = as.set i (f a) := by
  obtain ⟨made, -⟩ := List.getElem?_eq_some_iff.mp found
  apply List.ext_getElem?
  intro j
  by_cases equal : i = j
  · subst equal
    rw [List.getElem?_modify_eq, List.getElem?_set_self made, found]
    rfl
  · rw [List.getElem?_modify_ne _ _ equal, List.getElem?_set_ne equal]

namespace Scene

/-- An update holds the module, gives it the source and lets go of the sinks that are gone; who is
left is told. -/
theorem beginUpdate_eq {sc : Scene} {n : Nat} {md : Module} (found : sc.modules[n]? = some md)
    (src : Text) :
    let live := md.listeners.filter (·.target.isLive sc.sinkLives)
    sc.beginUpdate n src =
      ({ sc with
          held := n :: sc.held
          modules := sc.modules.set n { md with src := src, listeners := live } },
        live.map (fun l => .tell n l.target src) ++ [.release n]) := by
  intro live
  obtain ⟨made, -⟩ := List.getElem?_eq_some_iff.mp found
  have changed : sc.modules.modify n (·.update sc.sinkLives src) =
      sc.modules.set n { md with src := src, listeners := live } :=
    modify_eq_set found _
  obtain ⟨md', found', -, tasks⟩ := beginUpdate_spec made src
  have scene : (sc.beginUpdate n src).1 =
      { sc with
        held := n :: sc.held
        modules := sc.modules.set n { md with src := src, listeners := live } } := by
    rw [← changed]
    rfl
  rw [scene] at found'
  simp only [List.getElem?_set_self made, Option.some.injEq] at found'
  subst found'
  refine Prod.ext scene ?_
  rw [tasks, Module.targets, List.map_map]
  rfl

/-- An event lets go of the modules under its key that are gone; who is left under it is told. -/
theorem beginEvent_eq (key payload : Text) (sc : Scene) :
    sc.beginEvent key payload =
      ({ sc with
          client := { sc.client with
            bindings := sc.client.bindings.filter fun b =>
              b.key != key || b.receiver.isLive sc.moduleLives } },
        (sc.client.bindings.filter fun b =>
          b.key == key && b.receiver.isLive sc.moduleLives).map (.deliver ·.receiver payload)) := by
  refine Prod.ext rfl ?_
  have kept : (sc.client.prune sc.moduleLives key).under key =
      sc.client.bindings.filter fun b => b.key == key && b.receiver.isLive sc.moduleLives := by
    rw [Client.under, Client.prune, List.filter_filter]
    apply List.filter_congr
    intro b _
    unfold bne
    cases b.key == key <;> rfl
  change (((sc.client.prune sc.moduleLives key).under key).map (·.receiver)).map
    (Task.deliver · payload) = _
  rw [kept, List.map_map]
  rfl

end Scene

namespace Play

/-- The module that the next task begins to update, and its new source. -/
def update? (p : Play) : Option (Nat × Text) :=
  match p.agenda with
  | .perform _ (.update m src) :: _ => (p.scene.names.get? m).map (·, src)
  | .deliver (.module n) src :: _ => if p.scene.moduleLives n then some (n, src) else none
  | _ => none

/-- Only a listener that acts for itself is free in what it does. -/
theorem eq_of_next {p q : Play} (h : p.Next q) {t : Task} {rest : List Task}
    (front : p.agenda = t :: rest) (bound : t.call? = none) : q = p.next := by
  cases h with
  | own => rfl
  | called caller steps first calls known =>
    rw [front] at first
    cases first
    rw [bound] at calls
    cases calls

theorem next_of_update {p : Play} {t : Task} {rest : List Task} {n : Nat} {src : Text}
    (front : p.agenda = t :: rest) (begun : p.update? = some (n, src)) :
    t.call? = none ∧ p.scene.moduleLives n = true ∧
      ∃ back, (back = [] ∨ ∃ caller word, back = [.reportSrc caller word n]) ∧
        p.next.scene = (p.scene.beginUpdate n src).1 ∧
        p.next.agenda = (p.scene.beginUpdate n src).2 ++ back ++ rest := by
  unfold update? at begun
  unfold Play.next
  rw [front] at begun ⊢
  cases t with
  | perform caller step =>
    cases step with
    | update m text =>
      obtain ⟨n', named, same⟩ := Option.map_eq_some_iff.mp begun
      cases same
      have lives : p.scene.moduleLives n = true := by
        simp [Scene.moduleLives, Naming.mem_values_of_get? named]
      refine ⟨rfl, lives, [.reportSrc caller (Step.update m src).word n],
        Or.inr ⟨caller, _, rfl⟩, ?_, ?_⟩ <;> simp only [goOn, Scene.begin, named]
    | _ => cases begun
  | deliver receiver payload =>
    cases receiver with
    | script => cases begun
    | module n' =>
      by_cases lives : p.scene.moduleLives n' = true
      · simp only [if_pos lives, Option.some.injEq, Prod.mk.injEq] at begun
        obtain ⟨rfl, rfl⟩ := begun
        refine ⟨rfl, lives, [], Or.inl rfl, ?_, ?_⟩ <;>
          simp only [goOn, Scene.deliver, if_pos lives, List.append_nil]
      · simp only [if_neg lives] at begun
        cases begun
  | _ => cases begun

end Play

namespace Run

variable {run : Run}

/-- Some tasks in front of others are done from one moment to another: each has its turn, in which
the listener, the sink or the module that it tells is told, once those before it are done with all
that they set going, and what is behind them stays as it is. -/
inductive Does (run : Run) : Nat → List Task → List Task → Nat → Prop
  | nil {i : Nat} {rest : List Task} (agenda : (run.play i).agenda = rest) : Does run i [] rest i
  | cons {i k j : Nat} {t : Task} {new ts rest : List Task}
      (front : (run.play i).agenda = t :: (ts ++ rest))
      (turn : Play.Turn t (run.play i) (run.play (i + 1)) new)
      (sets : (run.play (i + 1)).agenda = new ++ (ts ++ rest))
      (nested : Does run (i + 1) new (ts ++ rest) k) (more : Does run k ts rest j) :
      Does run i (t :: ts) rest j

theorem Does.ends {i j : Nat} {ts rest : List Task} (does : run.Does i ts rest j) :
    i ≤ j ∧ (run.play j).agenda = rest := by
  induction does with
  | nil agenda => exact ⟨Nat.le_refl _, agenda⟩
  | cons front turn sets nested more first second =>
    exact ⟨Nat.le_trans (Nat.le_of_succ_le first.1) second.1, second.2⟩

/-- Tasks in front of others are done if at some later moment no more than those others is left. -/
theorem does_of_ends {i j : Nat} {ts rest : List Task} (front : (run.play i).agenda = ts ++ rest)
    (later : i ≤ j) (ends : (run.play j).agenda.length ≤ rest.length) :
    ∃ k ≤ j, run.Does i ts rest k := by
  -- What a task sets going starts one moment later, and so does what comes after that.
  induction gap : j - i using Nat.strongRecOn generalizing i ts rest with
  | ind gap ih =>
    cases ts with
    | nil => exact ⟨i, later, .nil front⟩
    | cons t ts =>
      have busy : i ≠ j := by
        rintro rfl
        rw [front, List.length_append, List.length_cons] at ends
        omega
      obtain ⟨new, sets, turn⟩ := run.turn front
      have within : (run.play j).agenda.length ≤ (ts ++ rest).length := by
        rw [List.length_append]
        omega
      obtain ⟨k, before, nested⟩ := ih (j - (i + 1)) (by omega) sets (by omega) within rfl
      obtain ⟨after, back⟩ := nested.ends
      obtain ⟨l, last, more⟩ := ih (j - k) (by omega) back before ends rfl
      exact ⟨l, last, .cons front turn sets nested more⟩

/-- What has its turn while tasks are done is done with all that it sets going before they are. -/
theorem Does.inner {i j : Nat} {ts rest : List Task} (does : run.Does i ts rest j) {l : Nat}
    (after : i ≤ l) (before : l < j) :
    ∃ t inner new k, (run.play l).agenda = t :: inner ∧ rest <:+ inner ∧ k ≤ j ∧
      Play.Turn t (run.play l) (run.play (l + 1)) new ∧ run.Does (l + 1) new inner k := by
  induction does with
  | nil agenda => omega
  | @cons i k j t new ts rest front turn sets nested more first second =>
    obtain ⟨start, -⟩ := nested.ends
    obtain ⟨finish, -⟩ := more.ends
    by_cases own : l = i
    · subst own
      exact ⟨t, ts ++ rest, new, k, front, List.suffix_append ts rest, finish, turn, nested⟩
    · by_cases early : l < k
      · obtain ⟨t', inner, new', k', front', beneath, last, done⟩ := first (by omega) early
        exact ⟨t', inner, new', k', front', (List.suffix_append ts rest).trans beneath,
          Nat.le_trans last finish, done⟩
      · exact second (by omega) before

/-- Whatever is done next is done with all that it sets going, if that ends, and so is whatever has
its turn in the meantime, before what is beneath goes on. An update gives its module the source and
lets go of the sinks that are gone and of nothing else; then it tells those who were there, in
order, the text that it came with: at its turn each listener notes this text and each sink that
lives shows it, and nobody is told at any other turn. So does an event with those who are bound to
its key. -/
theorem tells_those_present (run : Run) {i j : Nat} {t : Task} {rest : List Task}
    (front : (run.play i).agenda = t :: rest) (later : i < j)
    (ends : (run.play j).agenda.length ≤ rest.length) :
    let sc := (run.play i).scene
    ∃ new k, k ≤ j ∧ run.Does (i + 1) new rest k ∧
      Play.Turn t (run.play i) (run.play (i + 1)) new ∧
      (∀ l, i < l → l < k → ∃ t inner new l', (run.play l).agenda = t :: inner ∧
        rest <:+ inner ∧ l' ≤ k ∧ Play.Turn t (run.play l) (run.play (l + 1)) new ∧
        run.Does (l + 1) new inner l') ∧
      (∀ n src, (run.play i).update? = some (n, src) →
        ∃ md back, sc.modules[n]? = some md ∧
          (back = [] ∨ ∃ caller word, back = [.reportSrc caller word n]) ∧
          let live := md.listeners.filter (·.target.isLive sc.sinkLives)
          (run.play (i + 1)).scene = { sc with
            held := n :: sc.held
            modules := sc.modules.set n { md with src := src, listeners := live } } ∧
          new = live.map (fun l => .tell n l.target src) ++ .release n :: back) ∧
      ∀ key payload, t = .emit key payload →
        (run.play (i + 1)).scene = { sc with
          client := { sc.client with
            bindings := sc.client.bindings.filter fun b =>
              b.key != key || b.receiver.isLive sc.moduleLives } } ∧
        new = (sc.client.bindings.filter fun b =>
          b.key == key && b.receiver.isLive sc.moduleLives).map (.deliver ·.receiver payload) := by
  intro sc
  obtain ⟨new, sets, turn⟩ := run.turn front
  obtain ⟨k, before, does⟩ := does_of_ends sets later ends
  refine ⟨new, k, before, does, turn, fun l => does.inner, ?_, ?_⟩
  · intro n src begun
    obtain ⟨bound, lives, back, report, scene, agenda⟩ := Play.next_of_update front begun
    have next := Play.eq_of_next (run.next i) front bound
    have made : n < sc.modules.length := (run.sound i).numbered.lt_of_lives lives
    have found : sc.modules[n]? = some sc.modules[n] := List.getElem?_eq_getElem made
    have begins := Scene.beginUpdate_eq found src
    refine ⟨sc.modules[n], back, found, report, ?_, ?_⟩
    · rw [next, scene, begins]
    · rw [next, agenda, begins] at sets
      have same := List.append_cancel_right sets
      rw [← same, List.append_assoc]
      rfl
  · rintro key payload rfl
    have next := Play.eq_of_next (run.next i) front rfl
    have begins := Scene.beginEvent_eq key payload sc
    have goes : (run.play i).next = (run.play i).goOn rest (sc.beginEvent key payload) := by
      unfold Play.next
      rw [front]
    rw [next, goes, begins] at sets ⊢
    exact ⟨rfl, (List.append_cancel_right sets).symm⟩

/-- A listener that takes away the one behind it and updates their module once more. -/
def detaching : Run :=
  ofProgram [.module ['m'] ['a'],
    .onChange ['m'] ['l'] [.offChange ['m'] ['k'], .update ['m'] ['c']] 1,
    .onChange ['m'] ['k'] [] 9, .update ['m'] ['b']]

theorem detaching_front :
    (detaching.play 6).agenda = [.perform none (.update ['m'] ['b'])] :=
  rfl

/-- The one behind is told all the same, once all that the first one does is done. -/
theorem detaching_tells_both :
    let tells : List Task := [.tell 0 (.script 0) ['b'], .tell 0 (.script 1) ['b']]
    (detaching.play 20).scene.heard = [(['l'], ['b']), (['l'], ['c']), (['k'], ['b'])] ∧
      ∃ back k, k ≤ 20 ∧ detaching.Does 7 (tells ++ .release 0 :: back) [] k ∧
        ∃ l s, 7 < l ∧ l < k ∧ (detaching.play l).scene.scripts[1]? = some s ∧
          (detaching.play (l + 1)).scene.notes =
            (detaching.play l).scene.notes ++ [.told s.id ['b']] := by
  intro tells
  have begun : (detaching.play 6).update? = some (0, ['b']) := by decide +kernel
  have present : (detaching.play 6).scene.modules[0]? =
      some ⟨['a'], [⟨0, .script 0⟩, ⟨1, .script 1⟩], 2⟩ := by decide +kernel
  have ends : (detaching.play 20).agenda.length ≤ 0 := by decide +kernel
  obtain ⟨new, k, before, does, -, -, updates, -⟩ :=
    detaching.tells_those_present detaching_front (by decide : 6 < 20) ends
  obtain ⟨md, back, found, -, -, tells⟩ := updates 0 ['b'] begun
  rw [present] at found
  cases found
  rw [tells] at does
  refine ⟨by decide +kernel, back, k, before, does, ?_⟩
  cases does with
  | cons _ _ _ nested more =>
    have after := nested.ends.1
    cases more with
    | cons _ turn _ within rest =>
      have later := within.ends.1
      have last := rest.ends.1
      obtain ⟨s, script, notes, -⟩ := turn.called 1 ['b'] rfl
      exact ⟨_, s, by omega, by omega, script, notes⟩

end Run
end LiveMarkup.Display
