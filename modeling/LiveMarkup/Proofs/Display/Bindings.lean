import LiveMarkup.Proofs.Display.KeyTable
import LiveMarkup.Proofs.Display.Listeners

/-!
The bindings of a client as they come of its history.

* `Play.dealing?`, `client_of_next`: what the next task does to the bindings of the client;
* `Run.table`, `Run.holds_table`: the same kept in a table with a list for each key;
* `Run.bindings_by_history`: who is bound to a key, whom a number takes away, and what is seen of
  the table.
-/

namespace LiveMarkup.Display

/-- What is done at a key, as something that is asked of the bindings. -/
def Upkeep.request (moduleLives : Nat → Bool) : Upkeep Text Receiver → Request
  | .enter key receiver => .bind key receiver
  | .leave key id => .release key id
  | .prune key => .event moduleLives key

namespace Client

/-- The client once something has been done at a key. -/
def tend (moduleLives : Nat → Bool) (u : Option (Upkeep Text Receiver)) (c : Client) : Client :=
  u.elim c fun u => (c.ask (u.request moduleLives)).2

/-- The bindings by their numbers. -/
def entries (c : Client) : List (Nat × Text × Receiver) :=
  c.bindings.map fun b => (b.id, b.key, b.receiver)

variable {moduleLives : Nat → Bool}

/-- What is done at a key lets go of those under it whom it dismisses, and lets in who enters, with
the next number. -/
theorem entries_tend (u : Option (Upkeep Text Receiver)) (c : Client) :
    (c.tend moduleLives u).entries = c.entries.filter
        (fun e => !Upkeep.dismisses (·.isLive moduleLives) e.2.1 e.1 e.2.2 u) ++
      (Upkeep.entry? u).toList.map (c.nextId, ·) := by
  have all : c.entries.filter (fun _ => true) = c.entries := List.filter_true _
  match u with
  | none =>
    simp only [Upkeep.dismisses, Bool.not_false, all, Upkeep.entry?, Option.toList_none,
      List.map_nil, List.append_nil]
    rfl
  | some (.enter key receiver) =>
    simp only [Upkeep.dismisses, Bool.not_false, all]
    simp [tend, Upkeep.request, ask, bind, entries, Upkeep.entry?]
  | some (.leave key id) =>
    simp only [entries, Upkeep.dismisses, Upkeep.entry?, Option.toList_none, List.map_nil,
      List.append_nil, List.filter_map]
    rfl
  | some (.prune key) =>
    simp only [entries, Upkeep.dismisses, Upkeep.entry?, Option.toList_none, List.map_nil,
      List.append_nil, List.filter_map, Bool.not_and, Bool.not_not]
    rfl

theorem nextId_tend (u : Option (Upkeep Text Receiver)) (c : Client) :
    (c.tend moduleLives u).nextId = c.nextId + (Upkeep.entry? u).toList.length := by
  match u with
  | none | some (.enter ..) | some (.leave ..) | some (.prune ..) => rfl

/-- What is done at another key does not change who is under a key. -/
theorem under_tend_of_ne {u : Option (Upkeep Text Receiver)} {key : Text} (c : Client)
    (other : ∀ v ∈ u, v.place ≠ key) : (c.tend moduleLives u).under key = c.under key := by
  cases u with
  | none => rfl
  | some v =>
    have apart : key ≠ v.place := (other v rfl).symm
    cases v with
    | enter => exact (under_bind ..).trans (if_neg apart)
    | leave => exact (under_release ..).trans (if_neg apart)
    | prune => exact (under_prune ..).trans (if_neg apart)

end Client

namespace KeyTable

/-- The table once something has been done at a key. -/
def tend (moduleLives : Nat → Bool) (u : Option (Upkeep Text Receiver)) (t : KeyTable) : KeyTable :=
  u.elim t fun u => (t.ask (u.request moduleLives)).2

theorem Holds.tend {t : KeyTable} {c : Client} (holds : t.Holds c) (moduleLives : Nat → Bool)
    (u : Option (Upkeep Text Receiver)) : (t.tend moduleLives u).Holds (c.tend moduleLives u) := by
  cases u with
  | none => exact holds
  | some u => exact (holds.ask (u.request moduleLives)).2

end KeyTable

namespace Scene

/-- What a step does to the bindings of the client. -/
def dealing? (sc : Scene) : Step → Option (Upkeep Text Receiver)
  | .on key _ _ _ => some (.enter key (.script sc.scripts.length))
  | .bind uid m _ => (sc.names.get? m).map fun n => .enter (Change.keyOf uid) (.module n)
  | .off key id => (sc.ids.get? id).map (.leave key)
  | _ => none

theorem client_act (sc : Scene) (step : Step) :
    (sc.act step).2.client = sc.client.tend sc.moduleLives (sc.dealing? step) := by
  cases step with
  | bind uid m id =>
    simp only [act, dealing?]
    cases sc.names.get? m <;> rfl
  | off key id =>
    simp only [act, dealing?]
    cases sc.ids.get? id <;> rfl
  | insert m s h =>
    simp only [act, dealing?]
    split
    · exact client_fill ..
    · rfl
  | render s content =>
    simp only [act, dealing?]
    split
    · exact client_fill ..
    · rfl
  | remove h =>
    simp only [act, dealing?]
    split
    · rw [remove_eq]
      rfl
    · rfl
  | _ =>
    simp only [act, dealing?]
    first
      | rfl
      | split <;> rfl

/-- A number that is given up under a key takes away the one binding of the key that has it, and
none of another key. -/
theorem act_off {sc : Scene} {key name : Text} {id : Nat} (known : sc.ids.get? name = some id)
    (numbered : sc.client.bindings.Pairwise (·.id < ·.id)) :
    let (answer, next) := sc.act (.off key name)
    (∀ receiver, ⟨id, key, receiver⟩ ∈ sc.client.under key → answer = .flag true ∧
      next.client.under key = (sc.client.under key).erase ⟨id, key, receiver⟩) ∧
    ((∀ receiver, ⟨id, key, receiver⟩ ∉ sc.client.under key) → answer = .flag false ∧
      next.client.under key = sc.client.under key) ∧
    ∀ other, other ≠ key → next.client.under other = sc.client.under other := by
  have acts : sc.act (.off key name) =
      (.flag (sc.client.has key id), { sc with client := sc.client.release key id }) := by
    simp only [act, known]
  have after : (sc.client.release key id).under key =
      (sc.client.under key).filter (·.id != id) :=
    (Client.under_release ..).trans (if_pos rfl)
  have others (absent : ∀ receiver, ⟨id, key, receiver⟩ ∉ sc.client.under key) :
      ∀ b ∈ sc.client.under key, b.id ≠ id := by
    rintro b there rfl
    have here : b.key = key := beq_iff_eq.mp (List.mem_filter.mp there).2
    subst here
    exact absent b.receiver there
  simp only [acts, Client.has_eq_any]
  refine ⟨fun receiver member => ⟨?_, ?_⟩, fun absent => ⟨?_, ?_⟩, fun other differ => ?_⟩
  · rw [List.any_eq_true.mpr ⟨_, member, beq_self_eq_true id⟩]
  · rw [after]
    exact filter_eq_erase (numbered.filter _) member
  · rw [(any_filter_of_absent (others absent)).1]
  · rw [after, (any_filter_of_absent (others absent)).2]
  · exact (Client.under_release ..).trans (if_neg differ)

end Scene

namespace Play

/-- What the next task does to the bindings of the client: a step of a program or of a listener, or
an event that begins. -/
def dealing? (p : Play) : Option (Upkeep Text Receiver) :=
  match p.agenda with
  | .perform _ step :: _ => p.scene.dealing? step
  | .emit key _ :: _ => some (.prune key)
  | _ => none

/-- Whatever comes after a play, its client is tended to as the next task says. -/
theorem client_of_next {p q : Play} (h : p.Next q) :
    q.scene.client = p.scene.client.tend p.scene.moduleLives p.dealing? := by
  cases deed_of_next h with
  | step front still scene =>
    rw [dealing?, front, scene]
    exact p.scene.client_act _
  | update src begun scene =>
    have none : p.dealing? = none := by
      unfold updated? at begun
      split at begun
      · rename_i front
        rw [dealing?, front]
        rfl
      · rename_i front
        rw [dealing?, front]
      · cases begun
    rw [none, scene]
    rfl
  | event front scene =>
    rw [dealing?, front, scene]
    rfl
  | idle quiet still modules client =>
    have none : p.dealing? = none := by
      unfold dealing?
      split
      · rename_i front
        rw [front] at quiet
        cases quiet
      · rename_i front
        rw [front] at quiet
        cases quiet
      · rfl
    rw [none, client]
    rfl

end Play

namespace Run

/-- Who is bound at a moment, with the key. -/
def binds (run : Run) (i : Nat) : Option (Text × Receiver) :=
  Upkeep.entry? (run.play i).dealing?

/-- Whether a moment lets go of a binding: its number is given up under its key, or an event under
the key begins when its receiver is a module that is gone. -/
def releases (run : Run) (i id : Nat) (binding : Text × Receiver) : Bool :=
  Upkeep.dismisses (·.isLive (run.play i).scene.moduleLives) binding.1 id binding.2
    (run.play i).dealing?

/-- The bindings at a moment as a table keeps them. -/
def table (run : Run) : Nat → KeyTable
  | 0 => {}
  | i + 1 => (run.table i).tend (run.play i).scene.moduleLives (run.play i).dealing?

theorem client_zero (run : Run) : (run.play 0).scene.client = {} := by
  obtain ⟨steps, starts⟩ := run.starts
  rw [starts]
  rfl

theorem client_succ (run : Run) (i : Nat) : (run.play (i + 1)).scene.client =
    (run.play i).scene.client.tend (run.play i).scene.moduleLives (run.play i).dealing? :=
  Play.client_of_next (run.next i)

theorem holds_table (run : Run) (i : Nat) : (run.table i).Holds (run.play i).scene.client := by
  induction i with
  | zero =>
    rw [client_zero]
    exact .empty
  | succ i ih =>
    rw [client_succ]
    exact ih.tend _ _

/-- The bindings are those who stay of those who were bound. -/
theorem bindings_eq_staying (run : Run) (i : Nat) :
    (run.play i).scene.client.entries = staying run.binds run.releases i ∧
      (run.play i).scene.client.nextId = (entered run.binds i).length := by
  let list (j : Nat) := (run.play j).scene.client.entries
  let next (j : Nat) := (run.play j).scene.client.nextId
  have empty : list 0 = [] := congrArg Client.entries run.client_zero
  have zero : next 0 = 0 := congrArg Client.nextId run.client_zero
  have kept (j : Nat) (_ : j < i) : list (j + 1) =
      (list j).filter (fun e => !run.releases j e.1 e.2) ++
        (run.binds j).toList.map (next j, ·) :=
    (congrArg Client.entries (run.client_succ j)).trans (Client.entries_tend _ _)
  have counted (j : Nat) (_ : j < i) : next (j + 1) = next j + (run.binds j).toList.length :=
    (congrArg Client.nextId (run.client_succ j)).trans (Client.nextId_tend _ _)
  exact eq_staying empty zero kept counted

/-- What is done at other keys does not change who is under a key. -/
theorem under_of_elsewhere (run : Run) {key : Text} {i j : Nat} (later : i ≤ j)
    (elsewhere : ∀ l < j, i ≤ l → ∀ u ∈ (run.play l).dealing?, u.place ≠ key) :
    (run.play j).scene.client.under key = (run.play i).scene.client.under key := by
  induction later with
  | refl => rfl
  | @step j later ih =>
    rw [client_succ, Client.under_tend_of_ne _ (elsewhere j (Nat.lt_succ_self j) later)]
    exact ih fun l before => elsewhere l (Nat.lt_succ_of_lt before)

/-- The bindings of a key are those who were bound to it, in order, each with the number that tells
how many had been bound before to any key, without those who have been let go of since: a number
that was given up under this key, or for a module that is gone the beginning of an event under it.
A number that is given up under a key takes away the one binding of the key that has it, if it is
still there, and none of another key. An event changes the bindings of other keys only by what its
listeners do there. A table with a list for each key answers as the client does to all that is
asked, and it makes no difference whether an empty list is in it. -/
theorem bindings_by_history (run : Run) (i : Nat) :
    let sc := (run.play i).scene
    let c := sc.client
    (∀ key, c.under key = ((staying run.binds run.releases i).filter (·.2.1 == key)).map
      fun (id, key, receiver) => ⟨id, key, receiver⟩) ∧
    c.nextId = (entered run.binds i).length ∧
    c.bindings.Pairwise (·.id < ·.id) ∧ (∀ b ∈ c.bindings, b.id < c.nextId) ∧
    (∀ key name id, sc.ids.get? name = some id →
      let (answer, next) := sc.act (.off key name)
      (∀ receiver, ⟨id, key, receiver⟩ ∈ c.under key → answer = .flag true ∧
        next.client.under key = (c.under key).erase ⟨id, key, receiver⟩) ∧
      ((∀ receiver, ⟨id, key, receiver⟩ ∉ c.under key) → answer = .flag false ∧
        next.client.under key = c.under key) ∧
      ∀ other, other ≠ key → next.client.under other = c.under other) ∧
    (∀ key payload rest, (run.play i).agenda = .emit key payload :: rest →
      ∀ j > i, ∀ other ≠ key,
        (∀ l < j, i < l → ∀ u ∈ (run.play l).dealing?, u.place ≠ other) →
        (run.play j).scene.client.under other = c.under other) ∧
    (∀ rs, (run.table i).replies rs = c.replies rs) ∧
    ∀ key, (run.table i).under key = [] →
      ∀ rs, ((run.table i).without key).replies rs = (run.table i).replies rs := by
  intro sc c
  obtain ⟨entries, count⟩ := run.bindings_eq_staying i
  have bindings : c.bindings = (staying run.binds run.releases i).map
      fun (id, key, receiver) => ⟨id, key, receiver⟩ := by
    rw [← entries, Client.entries, List.map_map]
    exact (List.map_id _).symm
  have numbered : c.bindings.Pairwise (·.id < ·.id) := by
    rw [bindings]
    exact List.pairwise_map.mpr (pairwise_staying _ _ i)
  have holds := run.holds_table i
  refine ⟨fun key => ?_, count, numbered, ?_, ?_, ?_, holds.replies, ?_⟩
  · rw [Client.under, bindings, List.filter_map]
    rfl
  · intro b member
    rw [bindings] at member
    obtain ⟨e, stays, rfl⟩ := List.mem_map.mp member
    rw [count]
    exact lt_of_mem_staying stays
  · intro key name id known
    exact Scene.act_off known numbered
  · intro key payload rest front j later other differ elsewhere
    refine run.under_of_elsewhere (Nat.le_of_lt later) fun l before after u dealt => ?_
    obtain rfl | after := Nat.eq_or_lt_of_le after
    · have prunes : (run.play i).dealing? = some (.prune key) := by rw [Play.dealing?, front]
      rw [prunes] at dealt
      cases dealt
      exact differ.symm
    · exact elsewhere l before after u dealt
  · intro key empty rs
    rw [(holds.without empty).replies, holds.replies]

/-- A listener that takes away the one of another key and binds one there again, called by an event
whose module is gone. The list of a third key was emptied before. -/
def bound : Run :=
  ofProgram [.module ['m'] ['a'],
    .on (Change.keyOf ['u']) ['l'] [.off ['k'] ['y'], .on ['k'] ['x'] [] 0] 1,
    .bind ['u'] ['m'] ['b'], .on ['k'] ['y'] [] 0, .on ['q'] ['z'] [] 0, .off ['q'] ['z'],
    .dropModule ['m'], .receive ⟨['u'], ['s']⟩]

/-- Of five who were bound, the listener and the one that it bound are left, and nobody can tell
whether the emptied list is there. -/
theorem bound_bindings :
    (bound.play 23).scene.client.under (Change.keyOf ['u']) =
        [⟨0, Change.keyOf ['u'], .script 0⟩] ∧
      (bound.play 23).scene.client.under ['k'] = [⟨4, ['k'], .script 3⟩] ∧
      (bound.play 23).scene.client.nextId = 5 ∧
      ∀ rs, ((bound.table 23).without ['q']).replies rs =
        (bound.play 23).scene.client.replies rs := by
  have stay : staying bound.binds bound.releases 23 =
      [(0, Change.keyOf ['u'], .script 0), (4, ['k'], .script 3)] := by decide +kernel
  have count : (entered bound.binds 23).length = 5 := by decide +kernel
  have empty : (bound.table 23).under ['q'] = [] := by decide +kernel
  obtain ⟨under, next, -, -, -, -, same, hidden⟩ := bound.bindings_by_history 23
  rw [stay] at under
  rw [count] at next
  refine ⟨(under _).trans (by decide +kernel), (under _).trans (by decide +kernel), next, ?_⟩
  exact fun rs => (hidden ['q'] empty rs).trans (same rs)

end Run
end LiveMarkup.Display
