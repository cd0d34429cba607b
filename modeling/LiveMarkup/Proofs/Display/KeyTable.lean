import LiveMarkup.Display.Client
import LiveMarkup.Naming

/-!
The bindings of a client in a table, with a list for each key. A key is there from its first
binding on. It stays when its list is emptied by number, and goes with an event that finds nobody
alive.

* `Client.ask`, `KeyTable.ask`: what can be done with bindings, and what is answered;
* `Holds.ask`: a table that holds the bindings of a client answers as the client does, and holds
  them still;
* `Holds.replies`, `Holds.without`: so they cannot be told apart, and an empty list can be dropped.
-/

namespace LiveMarkup.Display

/-- Something to do with bindings. -/
inductive Request where
  | bind (key : Text) (receiver : Receiver)
  | release (key : Text) (id : Nat)
  | count (key : Text)
  | event (moduleLives : Nat → Bool) (key : Text)

inductive Reply where
  | id (n : Nat)
  | flag (value : Bool)
  | number (n : Nat)
  | receivers (told : List Receiver)
  deriving DecidableEq

namespace Client

def ask (c : Client) : Request → Reply × Client
  | .bind key receiver => (.id c.nextId, c.bind key receiver)
  | .release key id => (.flag (c.has key id), c.release key id)
  | .count key => (.number (c.under key).length, c)
  | .event moduleLives key =>
    (.receivers ((c.prune moduleLives key).receivers key), c.prune moduleLives key)

/-- What is answered to some requests, one after the other. -/
def replies (c : Client) : List Request → List Reply
  | [] => []
  | r :: rs => (c.ask r).1 :: (c.ask r).2.replies rs

/-! ### The bindings of a key after a request -/

theorem under_bind (key other : Text) (receiver : Receiver) (c : Client) :
    (c.bind key receiver).under other =
      if other = key then c.under key ++ [⟨c.nextId, key, receiver⟩] else c.under other := by
  simp only [under, bind, List.filter_append]
  split
  · rename_i same
    simp [same]
  · rename_i differ
    have apart : key ≠ other := fun same => differ same.symm
    simp [apart]

/-- Who goes of the bindings of one key does not count among those of another. -/
theorem filter_key_filter (key other : Text) (gone : Binding → Bool) (bindings : List Binding) :
    (bindings.filter fun b => !(b.key == key && gone b)).filter (·.key == other) =
      if other = key then (bindings.filter (·.key == key)).filter (fun b => !gone b)
      else bindings.filter (·.key == other) := by
  rw [List.filter_filter, List.filter_filter]
  split
  · rename_i same
    subst same
    refine List.filter_congr fun b _ => ?_
    cases b.key == other <;> cases gone b <;> rfl
  · rename_i differ
    refine List.filter_congr fun b _ => ?_
    cases here : b.key == other with
    | false => rfl
    | true =>
      have apart : (b.key == key) = false := by
        rw [beq_iff_eq.mp here]
        exact beq_eq_false_iff_ne.mpr differ
      rw [apart]
      rfl

theorem under_release (key other : Text) (id : Nat) (c : Client) :
    (c.release key id).under other =
      if other = key then (c.under key).filter (·.id != id) else c.under other :=
  filter_key_filter key other (·.id == id) c.bindings

theorem under_prune (moduleLives : Nat → Bool) (key other : Text) (c : Client) :
    (c.prune moduleLives key).under other =
      if other = key then (c.under key).filter (·.receiver.isLive moduleLives)
      else c.under other := by
  have same := filter_key_filter key other (fun b => !b.receiver.isLive moduleLives) c.bindings
  simp only [Bool.not_and, Bool.not_not] at same
  exact same

theorem has_eq_any (key : Text) (id : Nat) (c : Client) :
    c.has key id = (c.under key).any (·.id == id) := by
  rw [has, under, List.any_filter]

end Client

/-- The lists hold receivers by number; all keys share their numbers. -/
structure KeyTable where
  lists : Naming (List (Nat × Receiver)) := {}
  nextId : Nat := 0

namespace KeyTable

/-- The list of a key, empty if the key is not there. -/
def under (key : Text) (t : KeyTable) : List (Nat × Receiver) :=
  (t.lists.get? key).getD []

/-- Puts a receiver in the list of a key, which is made if it is not there. -/
def bind (key : Text) (receiver : Receiver) (t : KeyTable) : KeyTable where
  lists := t.lists.give key (t.under key ++ [(t.nextId, receiver)])
  nextId := t.nextId + 1

/-- Takes a number from the list of a key, and tells whether it was there. -/
def release (key : Text) (id : Nat) (t : KeyTable) : Bool × KeyTable :=
  match t.lists.get? key with
  | some list =>
    let left := list.filter (·.1 != id)
    (left.length != list.length, { t with lists := t.lists.give key left })
  | none => (false, t)

/-- Lets go of the modules under a key that are gone, and of the key if nobody is left under it;
tells who is left. -/
def event (moduleLives : Nat → Bool) (key : Text) (t : KeyTable) : List Receiver × KeyTable :=
  match t.lists.get? key with
  | some list =>
    let live := list.filter (·.2.isLive moduleLives)
    (live.map (·.2),
      { t with lists := if live.isEmpty then t.lists.forget key else t.lists.give key live })
  | none => ([], t)

def ask (t : KeyTable) : Request → Reply × KeyTable
  | .bind key receiver => (.id t.nextId, t.bind key receiver)
  | .release key id => (.flag (t.release key id).1, (t.release key id).2)
  | .count key => (.number (t.under key).length, t)
  | .event moduleLives key =>
    (.receivers (t.event moduleLives key).1, (t.event moduleLives key).2)

/-- What is answered to some requests, one after the other. -/
def replies (t : KeyTable) : List Request → List Reply
  | [] => []
  | r :: rs => (t.ask r).1 :: (t.ask r).2.replies rs

/-- The table without a key. -/
def without (key : Text) (t : KeyTable) : KeyTable :=
  { t with lists := t.lists.forget key }

/-! ### The list of a key after a request -/

variable {t : KeyTable} {c : Client} {key : Text}

theorem under_give (lists : Naming (List (Nat × Receiver))) (key other : Text)
    (list : List (Nat × Receiver)) (n : Nat) :
    under other ⟨lists.give key list, n⟩ =
      if other = key then list else under other ⟨lists, n⟩ := by
  unfold under
  rw [Naming.get?_give]
  split <;> rfl

theorem under_forget (lists : Naming (List (Nat × Receiver))) (key other : Text) (n : Nat) :
    under other ⟨lists.forget key, n⟩ = if other = key then [] else under other ⟨lists, n⟩ := by
  unfold under
  rw [Naming.get?_forget]
  split <;> rfl

theorem under_of_some {list : List (Nat × Receiver)} (there : t.lists.get? key = some list) :
    t.under key = list := by
  rw [under, there, Option.getD_some]

theorem under_of_none (absent : t.lists.get? key = none) : t.under key = [] := by
  rw [under, absent, Option.getD_none]

theorem under_bind (key other : Text) (receiver : Receiver) (t : KeyTable) :
    (t.bind key receiver).under other =
      if other = key then t.under key ++ [(t.nextId, receiver)] else t.under other :=
  under_give t.lists key other _ _

/-- A key that is not there is as one with an empty list. -/
theorem release_flag (key : Text) (id : Nat) (t : KeyTable) :
    (t.release key id).1 = (t.under key).any (·.1 == id) := by
  unfold release
  split
  · rename_i list there
    rw [under_of_some there, Bool.eq_iff_iff, bne_iff_ne, ne_eq,
      List.length_filter_eq_length_iff]
    simp
  · rename_i absent
    rw [under_of_none absent]
    rfl

theorem under_release (key other : Text) (id : Nat) (t : KeyTable) :
    (t.release key id).2.under other =
      if other = key then (t.under key).filter (·.1 != id) else t.under other := by
  unfold release
  split
  · rename_i list there
    rw [under_of_some there]
    exact under_give t.lists key other _ _
  · rename_i absent
    split
    · rename_i same
      rw [same, under_of_none absent, List.filter_nil]
    · rfl

theorem event_receivers (moduleLives : Nat → Bool) (key : Text) (t : KeyTable) :
    (t.event moduleLives key).1 =
      ((t.under key).filter (·.2.isLive moduleLives)).map (·.2) := by
  unfold event
  split
  · rename_i list there
    rw [under_of_some there]
  · rename_i absent
    rw [under_of_none absent]
    rfl

theorem under_event (moduleLives : Nat → Bool) (key other : Text) (t : KeyTable) :
    (t.event moduleLives key).2.under other =
      if other = key then (t.under key).filter (·.2.isLive moduleLives) else t.under other := by
  unfold event
  split
  · rename_i list there
    rw [under_of_some there]
    simp only
    split
    · rename_i empty
      rw [under_forget, List.isEmpty_iff.mp empty]
    · exact under_give t.lists key other _ _
  · rename_i absent
    split
    · rename_i same
      rw [same, under_of_none absent, List.filter_nil]
    · rfl

theorem nextId_release (key : Text) (id : Nat) (t : KeyTable) :
    (t.release key id).2.nextId = t.nextId := by
  unfold release
  split <;> rfl

theorem nextId_event (moduleLives : Nat → Bool) (key : Text) (t : KeyTable) :
    (t.event moduleLives key).2.nextId = t.nextId := by
  unfold event
  split <;> rfl

/-! ### Tables and clients -/

/-- A table has the bindings of a client, and gives the same number next. Nothing is said about
keys with empty lists: they may be there or not. -/
structure Holds (t : KeyTable) (c : Client) : Prop where
  under : ∀ key, t.under key = (c.under key).map fun b => (b.id, b.receiver)
  nextId : t.nextId = c.nextId

theorem Holds.empty : Holds {} {} :=
  ⟨fun _ => rfl, rfl⟩

theorem Holds.ask (holds : t.Holds c) (r : Request) :
    (t.ask r).1 = (c.ask r).1 ∧ (t.ask r).2.Holds (c.ask r).2 := by
  cases r with
  | bind key receiver =>
    refine ⟨congrArg Reply.id holds.nextId, fun other => ?_, congrArg (· + 1) holds.nextId⟩
    simp only [KeyTable.ask, Client.ask, under_bind, Client.under_bind, holds.under, holds.nextId]
    split
    · rw [List.map_append]
      rfl
    · rfl
  | release key id =>
    refine ⟨?_, fun other => ?_, ?_⟩
    · simp only [KeyTable.ask, Client.ask, release_flag, Client.has_eq_any, holds.under,
        List.any_map]
      rfl
    · simp only [KeyTable.ask, Client.ask, under_release, Client.under_release, holds.under,
        List.filter_map]
      split <;> rfl
    · rw [KeyTable.ask, nextId_release, holds.nextId]
      rfl
  | count key =>
    refine ⟨?_, holds⟩
    simp only [KeyTable.ask, Client.ask, holds.under, List.length_map]
  | event moduleLives key =>
    refine ⟨?_, fun other => ?_, ?_⟩
    · simp only [KeyTable.ask, Client.ask, event_receivers, Client.receivers, Client.under_prune,
        if_pos, holds.under, List.filter_map, List.map_map]
      rfl
    · simp only [KeyTable.ask, Client.ask, under_event, Client.under_prune, holds.under,
        List.filter_map]
      split <;> rfl
    · rw [KeyTable.ask, nextId_event, holds.nextId]
      rfl

theorem Holds.replies (holds : t.Holds c) (rs : List Request) : t.replies rs = c.replies rs := by
  induction rs generalizing t c with
  | nil => rfl
  | cons r rs ih =>
    obtain ⟨same, still⟩ := holds.ask r
    rw [KeyTable.replies, Client.replies, same, ih still]

/-- Whether a key with an empty list is there makes no difference to what is held. -/
theorem Holds.without (holds : t.Holds c) (empty : t.under key = []) :
    (t.without key).Holds c := by
  refine ⟨fun other => ?_, holds.nextId⟩
  rw [KeyTable.without, under_forget, ← holds.under]
  split
  · rename_i same
    rw [same, empty]
  · rfl

end KeyTable
end LiveMarkup.Display
