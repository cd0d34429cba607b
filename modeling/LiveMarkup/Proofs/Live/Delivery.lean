import LiveMarkup.Proofs.Workspace.Sessions

/-!
What the readers of a channel get. A channel keeps one list for all of them, and yet each reader is
like one with a queue of its own, to which every message is put and whose oldest messages get lost
once there are more than the channel keeps.

* `Channel.unread`: the queue of a reader, told from what has happened since it subscribed;
* `Channel.Tracks`, `Tracks.step`: the position of a reader in the channel stands for its queue;
* `Channel.reader_gets_unread`: what a reader gets, in which order, and what others have to do with
  it.
-/

namespace LiveMarkup.Channel

/-- What can happen to a channel. -/
inductive Event where
  | subscribe (reader : Text)
  | unsubscribe (reader : Text)
  | broadcast (message : Change)
  | read (reader : Text)
  | close
  deriving DecidableEq, Repr

namespace Event

def message? : Event → Option Change
  | broadcast m => some m
  | _ => none

/-- Whether an event has to do with a reader; what other readers do has not. -/
def concerns (reader : Text) : Event → Bool
  | subscribe r => r == reader
  | unsubscribe r => r == reader
  | read r => r == reader
  | broadcast _ => true
  | close => true

/-- Whether an event begins or ends a subscription of a reader. -/
def enrols (reader : Text) : Event → Bool
  | subscribe r => r == reader
  | unsubscribe r => r == reader
  | _ => false

theorem concerns_of_enrols {reader : Text} {e : Event} (enrols : e.enrols reader = true) :
    e.concerns reader = true := by
  cases e with
  | subscribe r => exact enrols
  | unsubscribe r => exact enrols
  | broadcast | read | close => cases enrols

end Event

def step (c : Channel) : Event → Channel
  | .subscribe reader => c.subscribe reader
  | .unsubscribe reader => c.unsubscribe reader
  | .broadcast m => c.broadcast m
  | .read reader => (c.read reader).2
  | .close => c.close

def after (c : Channel) (events : List Event) : Channel :=
  events.foldl step c

/-- What a reader finds in its reads. -/
def readings (reader : Text) (c : Channel) : List Event → List Reading
  | [] => []
  | e :: events =>
    if e = .read reader then (c.read reader).1 :: readings reader (c.step e) events
    else readings reader (c.step e) events

end LiveMarkup.Channel

namespace LiveMarkup.Reading

def message? : Reading → Option Change
  | message m => some m
  | _ => none

end LiveMarkup.Reading

namespace LiveMarkup.Channel

/-- What a channel keeps of a queue: the newest messages. -/
def retained (queue : List Change) : List Change :=
  queue.drop (queue.length - capacity)

/-- A queue of a reader after an event. A read takes the oldest message that is kept, and those
before it are lost. -/
def requeue (reader : Text) (queue : List Change) : Event → List Change
  | .broadcast m => queue ++ [m]
  | .read r => if r = reader then (retained queue).tail else queue
  | _ => queue

/-- The queue of a reader, by what has happened since it subscribed. -/
def unread (reader : Text) (since : List Event) : List Change :=
  since.foldl (requeue reader) []

/-- What is found in a queue. -/
def found (isOpen : Bool) (queue : List Change) : Reading :=
  ((retained queue).head?.map .message).getD (if isOpen then .pending else .ended)

/-! ### Positions and queues -/

theorem position?_place (c : Channel) (reader other : Text) (n : Nat) :
    position? { c with readers := (reader, n) :: c.readers.filter (·.1 != reader) } other =
      if other = reader then some n else c.position? other :=
  Naming.get?_give ⟨c.readers⟩ reader other n

theorem position?_unsubscribe (c : Channel) (reader other : Text) :
    (c.unsubscribe reader).position? other =
      if other = reader then none else c.position? other :=
  Naming.get?_forget ⟨c.readers⟩ reader other

/-- A channel that has sent a log and keeps the newest part of it. -/
structure Keeps (c : Channel) (log : List Change) : Prop where
  sent : c.sent = log.length
  kept : c.kept = retained log

theorem new_keeps (space : Text) : Keeps { space } [] :=
  ⟨rfl, List.drop_nil.symm⟩

/-- A reader's position in a channel stands for a queue. -/
def Tracks (reader : Text) (c : Channel) (queue : List Change) : Prop :=
  ∃ log behind, c.Keeps log ∧ behind ≤ log.length ∧ c.position? reader = some behind ∧
    queue = log.drop behind

theorem length_retained (queue : List Change) :
    (retained queue).length = min queue.length capacity := by
  rw [retained, List.length_drop]
  exact Nat.sub_sub_eq_min ..

/-- Nothing is kept of a queue only if there is nothing in it. -/
theorem retained_eq_nil {queue : List Change} : retained queue = [] ↔ queue = [] := by
  have some : 0 < capacity := Nat.zero_lt_succ 127
  rw [retained, List.drop_eq_nil_iff, ← List.length_eq_zero_iff]
  generalize capacity = n at some ⊢
  omega

theorem retained_of_le {queue : List Change} (few : queue.length ≤ capacity) :
    retained queue = queue := by
  rw [retained, Nat.sub_eq_zero_of_le few, List.drop_zero]

theorem retained_sublist (queue : List Change) : (retained queue).Sublist queue :=
  List.drop_sublist _ queue

/-- What is kept of the part of a log that comes behind a position. -/
theorem retained_drop (log : List Change) (behind : Nat) : retained (log.drop behind) =
    log.drop (max behind (log.length - capacity)) := by
  rw [retained, List.length_drop, List.drop_drop]
  generalize capacity = n
  congr 1
  omega

theorem Keeps.broadcast {c : Channel} {log : List Change} (keeps : c.Keeps log) (m : Change) :
    (c.broadcast m).Keeps (log ++ [m]) := by
  constructor
  · simp only [Channel.broadcast, keeps.sent, List.length_append, List.length_singleton]
  · have few : log.length - capacity ≤ log.length := Nat.sub_le ..
    simp only [Channel.broadcast, keeps.kept, retained, List.length_append, List.length_drop,
      List.length_singleton]
    rw [← List.drop_append_of_le_length few, List.drop_drop]
    generalize capacity = n at few ⊢
    congr 1
    omega

theorem Keeps.oldest {c : Channel} {log : List Change} (keeps : c.Keeps log) :
    c.oldest = log.length - capacity := by
  rw [Channel.oldest, keeps.sent, keeps.kept, length_retained]
  generalize capacity = n
  omega

/-- The message that a reader comes to is the first that is kept of its queue. -/
theorem Keeps.next {c : Channel} {log : List Change} (keeps : c.Keeps log) (behind : Nat) :
    c.kept[c.next behind - c.oldest]? = (retained (log.drop behind)).head? := by
  rw [keeps.kept, Channel.next, keeps.oldest, retained_drop log behind, retained,
    List.getElem?_drop, List.head?_drop]
  generalize capacity = n
  congr 1
  omega

theorem Tracks.of_subscribe {c : Channel} {log : List Change} (keeps : c.Keeps log)
    (reader : Text) : Tracks reader (c.subscribe reader) [] := by
  refine ⟨log, log.length, ⟨keeps.sent, keeps.kept⟩, Nat.le_refl _, ?_, ?_⟩
  · rw [position?_subscribe, keeps.sent]
  · rw [List.drop_length]

theorem read_eq {c : Channel} {reader : Text} {behind : Nat}
    (position : c.position? reader = some behind) :
    c.read reader = (c.kept[c.next behind - c.oldest]?).elim
      (if c.isOpen then .pending else .ended, c) fun m =>
        (.message m, { c with
          readers := (reader, c.next behind + 1) :: c.readers.filter (·.1 != reader) }) := by
  rw [Channel.read, position]
  dsimp only
  cases c.kept[c.next behind - c.oldest]? <;> rfl

/-- What a read comes to, by the queue of the reader. -/
theorem Tracks.read {reader : Text} {c : Channel} {queue : List Change}
    (tracks : Tracks reader c queue) :
    (c.read reader).1 = found c.isOpen queue ∧
      Tracks reader (c.read reader).2 (retained queue).tail := by
  obtain ⟨log, behind, keeps, within, position, rfl⟩ := tracks
  rw [read_eq position, keeps.next behind, found]
  cases first : retained (log.drop behind) with
  | nil =>
    refine ⟨rfl, log, behind, keeps, within, position, ?_⟩
    rw [List.tail_nil, retained_eq_nil.mp first]
  | cons m rest =>
    have kept := retained_drop log behind
    rw [first] at kept
    refine ⟨rfl, log, c.next behind + 1, ⟨keeps.sent, keeps.kept⟩, ?_, ?_, ?_⟩
    · have long := congrArg List.length kept
      rw [List.length_cons, List.length_drop] at long
      rw [Channel.next, keeps.oldest]
      generalize capacity = n at long ⊢
      omega
    · exact (position?_place c reader reader _).trans (if_pos rfl)
    · rw [Channel.next, keeps.oldest, ← List.tail_drop, ← kept, List.tail_cons]

/-- A read by a reader that has something to read. -/
theorem Tracks.read_of_waiting {reader : Text} {c : Channel} {queue : List Change}
    (tracks : Tracks reader c queue) (waiting : queue ≠ []) :
    ∃ lost m rest, queue = lost ++ m :: rest ∧ lost.length = queue.length - capacity ∧
      (c.read reader).1 = .message m ∧ requeue reader queue (.read reader) = rest := by
  cases kept : retained queue with
  | nil => exact absurd (retained_eq_nil.mp kept) waiting
  | cons m rest =>
    refine ⟨queue.take (queue.length - capacity), m, rest, ?_, ?_, ?_, ?_⟩
    · rw [← kept, retained, List.take_append_drop]
    · rw [List.length_take]
      exact Nat.min_eq_left (Nat.sub_le ..)
    · rw [tracks.read.1, found, kept]
      rfl
    · rw [requeue, if_pos rfl, kept, List.tail_cons]

theorem Keeps.of_read {c : Channel} {log : List Change} (keeps : c.Keeps log) (reader : Text) :
    (c.read reader).2.Keeps log := by
  unfold Channel.read
  split
  · exact keeps
  · dsimp only
    split
    · exact ⟨keeps.sent, keeps.kept⟩
    · exact keeps

theorem position?_read_of_ne (c : Channel) {reader other : Text} (ne : other ≠ reader) :
    (c.read reader).2.position? other = c.position? other := by
  unfold Channel.read
  split
  · rfl
  · dsimp only
    split
    · rw [position?_place, if_neg ne]
    · rfl

theorem Keeps.quiet {c : Channel} {log : List Change} (keeps : c.Keeps log) {e : Event}
    (quiet : e.message? = none) : (c.step e).Keeps log := by
  cases e with
  | broadcast m => cases quiet
  | read reader => exact keeps.of_read reader
  | subscribe | unsubscribe | close => exact ⟨keeps.sent, keeps.kept⟩

/-- An event does to the queue of a reader what it would do if the reader were alone. -/
theorem Tracks.step {reader : Text} {c : Channel} {queue : List Change}
    (tracks : Tracks reader c queue) {e : Event} (stays : e.enrols reader = false) :
    Tracks reader (c.step e) (requeue reader queue e) := by
  have read := tracks.read.2
  obtain ⟨log, behind, keeps, within, position, rfl⟩ := tracks
  cases e with
  | subscribe r =>
    have other : reader ≠ r := fun same => by simp [Event.enrols, same] at stays
    refine ⟨log, behind, keeps.quiet rfl, within, ?_, rfl⟩
    rw [Channel.step, Channel.subscribe, position?_place, if_neg other, position]
  | unsubscribe r =>
    have other : reader ≠ r := fun same => by simp [Event.enrols, same] at stays
    refine ⟨log, behind, keeps.quiet rfl, within, ?_, rfl⟩
    rw [Channel.step, position?_unsubscribe, if_neg other, position]
  | broadcast m =>
    refine ⟨log ++ [m], behind, keeps.broadcast m, ?_, position, ?_⟩
    · rw [List.length_append]
      exact Nat.le_add_right_of_le within
    · rw [requeue, List.drop_append_of_le_length within]
  | read r =>
    by_cases own : r = reader
    · subst own
      rw [requeue, if_pos rfl]
      exact read
    · rw [requeue, if_neg own]
      refine ⟨log, behind, keeps.quiet rfl, within, ?_, rfl⟩
      rw [Channel.step, position?_read_of_ne c (Ne.symm own), position]
  | close => exact ⟨log, behind, keeps.quiet rfl, within, position, rfl⟩

theorem exists_keeps_after {c : Channel} {log : List Change} (keeps : c.Keeps log)
    (events : List Event) : ∃ log, (c.after events).Keeps log := by
  induction events generalizing c log with
  | nil => exact ⟨log, keeps⟩
  | cons e events ih =>
    cases e with
    | broadcast m => exact ih (keeps.broadcast m)
    | subscribe | unsubscribe | read | close => exact ih (keeps.quiet rfl)

theorem Tracks.after {reader : Text} {c : Channel} {queue : List Change}
    (tracks : Tracks reader c queue) {events : List Event}
    (stays : ∀ e ∈ events, e.enrols reader = false) :
    Tracks reader (c.after events) (events.foldl (requeue reader) queue) := by
  induction events generalizing c queue with
  | nil => exact tracks
  | cons e events ih =>
    obtain ⟨first, others⟩ := List.forall_mem_cons.mp stays
    exact ih (tracks.step first) others

theorem isOpen_step (c : Channel) (e : Event) :
    (c.step e).isOpen = (c.isOpen && e != .close) := by
  cases e with
  | read reader =>
    have open' : (c.read reader).2.isOpen = c.isOpen := by
      unfold Channel.read
      split
      · rfl
      · dsimp only
        split <;> rfl
    rw [Channel.step, open']
    exact (Bool.and_true _).symm
  | close => exact (Bool.and_false _).symm
  | subscribe | unsubscribe | broadcast => exact (Bool.and_true _).symm

theorem isOpen_after (c : Channel) (events : List Event) :
    (c.after events).isOpen = (c.isOpen && !events.contains .close) := by
  induction events generalizing c with
  | nil => exact (Bool.and_true _).symm
  | cons e events ih =>
    have rest := ih (c.step e)
    rw [isOpen_step, Bool.and_assoc] at rest
    rw [List.contains_cons, Bool.not_or, Bool.beq_comm]
    exact rest

/-! ### Readings -/

theorem found_of_cons {isOpen : Bool} {queue rest : List Change} {m : Change}
    (kept : retained queue = m :: rest) : found isOpen queue = .message m := by
  rw [found, kept]
  rfl

theorem found_nil (isOpen : Bool) : found isOpen [] = if isOpen then .pending else .ended :=
  rfl

theorem message?_found_nil (isOpen : Bool) : (found isOpen []).message? = none := by
  cases isOpen <;> rfl

/-- The first event is a read by the reader, or it puts to the queue what it broadcasts. -/
theorem Tracks.cons {reader : Text} {c : Channel} {queue : List Change}
    (tracks : Tracks reader c queue) (e : Event) (events : List Event) :
    (e = .read reader ∧ requeue reader queue e = (retained queue).tail ∧
      c.readings reader (e :: events) =
        found c.isOpen queue :: (c.step e).readings reader events) ∨
    (e ≠ .read reader ∧ requeue reader queue e = queue ++ e.message?.toList ∧
      c.readings reader (e :: events) = (c.step e).readings reader events) := by
  rw [readings]
  by_cases own : e = .read reader
  · refine Or.inl ⟨own, ?_, ?_⟩
    · rw [own, requeue, if_pos rfl]
    · rw [if_pos own, tracks.read.1]
  · refine Or.inr ⟨own, ?_, if_neg own⟩
    cases e with
    | broadcast m => rfl
    | read r =>
      have other : r ≠ reader := fun same => own (congrArg Event.read same)
      rw [requeue, if_neg other]
      exact (List.append_nil queue).symm
    | subscribe | unsubscribe | close => exact (List.append_nil queue).symm

/-- What some events broadcast. -/
def broadcasts (events : List Event) : List Change :=
  events.filterMap Event.message?

/-- The messages among some readings. -/
def messages (found : List Reading) : List Change :=
  found.filterMap Reading.message?

theorem broadcasts_cons (e : Event) (events : List Event) :
    broadcasts (e :: events) = e.message?.toList ++ broadcasts events := by
  cases e <;> rfl

theorem messages_cons (r : Reading) (rs : List Reading) :
    messages (r :: rs) = r.message?.toList ++ messages rs := by
  cases r <;> rfl

/-- A read takes the first message that is kept, and leaves those behind it. -/
theorem toList_found (isOpen : Bool) (queue : List Change) :
    (found isOpen queue).message?.toList ++ (retained queue).tail = retained queue := by
  cases kept : retained queue with
  | nil =>
    rw [retained_eq_nil.mp kept, message?_found_nil]
    rfl
  | cons m rest =>
    rw [found_of_cons kept]
    rfl

/-- What a reader gets and what is left in its queue were in the queue or are broadcast, and nothing
changes its place. -/
theorem Tracks.sublist {reader : Text} {c : Channel} {queue : List Change}
    (tracks : Tracks reader c queue) {events : List Event}
    (stays : ∀ e ∈ events, e.enrols reader = false) :
    (messages (c.readings reader events) ++ events.foldl (requeue reader) queue).Sublist
      (queue ++ broadcasts events) := by
  induction events generalizing c queue with
  | nil => exact (List.append_nil queue).symm ▸ List.Sublist.refl queue
  | cons e events ih =>
    obtain ⟨first, others⟩ := List.forall_mem_cons.mp stays
    have rest := ih (tracks.step first) others
    rw [List.foldl_cons]
    obtain ⟨rfl, taken, found⟩ | ⟨-, put, found⟩ := tracks.cons e events
    · rw [taken] at rest ⊢
      rw [found, messages_cons, List.append_assoc]
      refine (rest.append_left _).trans ?_
      rw [← List.append_assoc, toList_found]
      exact (retained_sublist queue).append_right _
    · rw [put, List.append_assoc, ← broadcasts_cons] at rest
      rw [found, put]
      exact rest

/-- As long as the channel keeps the whole queue nothing is lost. -/
theorem Tracks.complete {reader : Text} {c : Channel} {queue : List Change}
    (tracks : Tracks reader c queue) {events : List Event}
    (stays : ∀ e ∈ events, e.enrols reader = false)
    (few : ∀ early, early <+: events → (early.foldl (requeue reader) queue).length ≤ capacity) :
    messages (c.readings reader events) ++ events.foldl (requeue reader) queue =
      queue ++ broadcasts events := by
  induction events generalizing c queue with
  | nil => exact (List.append_nil queue).symm
  | cons e events ih =>
    obtain ⟨first, others⟩ := List.forall_mem_cons.mp stays
    have rest := ih (tracks.step first) others fun early before =>
      few (e :: early) ((List.prefix_cons_inj e).mpr before)
    rw [List.foldl_cons]
    obtain ⟨rfl, taken, found⟩ | ⟨-, put, found⟩ := tracks.cons e events
    · have whole : retained queue = queue := retained_of_le (few [] List.nil_prefix)
      rw [taken] at rest ⊢
      rw [found, messages_cons, List.append_assoc, rest, ← List.append_assoc, toList_found, whole]
      rfl
    · rw [put, List.append_assoc, ← broadcasts_cons] at rest
      rw [found, put, rest]

/-- Two readers with the same queue find the same, whatever others do to their channels. -/
theorem Tracks.readings_filter {reader : Text} {c d : Channel} {queue : List Change}
    (tracks : Tracks reader c queue) (tracks' : Tracks reader d queue)
    (same : c.isOpen = d.isOpen) {events : List Event}
    (stays : ∀ e ∈ events, e.enrols reader = false) :
    c.readings reader events = d.readings reader (events.filter (Event.concerns reader)) := by
  induction events generalizing c d queue with
  | nil => rfl
  | cons e events ih =>
    obtain ⟨first, others⟩ := List.forall_mem_cons.mp stays
    cases concerns : e.concerns reader with
    | true =>
      rw [List.filter_cons_of_pos concerns]
      have rest := ih (tracks.step first) (tracks'.step first)
        (by rw [isOpen_step, isOpen_step, same]) others
      obtain ⟨own, -, found⟩ | ⟨other, -, found⟩ := tracks.cons e events
      · rw [found, own, readings, if_pos rfl, tracks'.read.1, same, ← own, rest]
      · rw [found, readings, if_neg other, rest]
    | false =>
      rw [List.filter_cons_of_neg (by simp [concerns])]
      obtain ⟨rfl, -, -⟩ | ⟨-, put, found⟩ := tracks.cons e events
      · simp [Event.concerns] at concerns
      · have quiet : e.message? = none := by cases e <;> first | rfl | cases concerns
        have opened : (c.step e).isOpen = d.isOpen := by
          rw [isOpen_step, same]
          cases e <;> first | exact Bool.and_true _ | cases concerns
        have rest := tracks.step first
        rw [put, quiet, Option.toList_none, List.append_nil] at rest
        rw [found]
        exact ih rest tracks' opened others

/-- Once a channel is closed its readers get what is kept of their queues, and then find the end. -/
theorem Tracks.closing {reader : Text} {c : Channel} {queue : List Change}
    (tracks : Tracks reader c queue) (closed : c.isOpen = false) {events : List Event}
    (stays : ∀ e ∈ events, e.enrols reader = false) (silent : ∀ e ∈ events, e.message? = none) :
    let reads := events.count (.read reader)
    c.readings reader events =
      ((retained queue).map Reading.message ++ List.replicate reads Reading.ended).take reads := by
  induction events generalizing c queue with
  | nil => rfl
  | cons e events ih =>
    obtain ⟨first, others⟩ := List.forall_mem_cons.mp stays
    obtain ⟨quiet, rests⟩ := List.forall_mem_cons.mp silent
    have closed' : (c.step e).isOpen = false := by rw [isOpen_step, closed, Bool.false_and]
    have rest := ih (tracks.step first) closed' others rests
    intro reads
    obtain ⟨rfl, taken, found⟩ | ⟨other, put, found⟩ := tracks.cons e events
    · have more : reads = events.count (.read reader) + 1 := List.count_cons_self
      have few : (retained queue).tail.length ≤ capacity := by
        rw [List.length_tail, length_retained]
        exact Nat.le_trans (Nat.sub_le ..) (Nat.min_le_right ..)
      rw [found, rest, taken, retained_of_le few, more, closed]
      cases kept : retained queue with
      | nil =>
        rw [retained_eq_nil.mp kept]
        rfl
      | cons m queue' =>
        let n := events.count (.read reader)
        have long : n ≤ (queue'.map Reading.message ++ List.replicate n Reading.ended).length := by
          simp
        rw [found_of_cons kept]
        simp only [List.map_cons, List.cons_append, List.take_succ_cons, List.tail_cons,
          List.replicate_succ', ← List.append_assoc]
        rw [List.take_append_of_le_length long]
    · have same : reads = events.count (.read reader) := List.count_cons_of_ne other
      rw [found, rest, put, quiet, same, Option.toList_none, List.append_nil]

/-- Nothing keeps a message from being sent on a channel. -/
theorem broadcast_of_named {ws : Workspace} {name : Text} {n : Nat} {c : Channel}
    (named : ws.channels.get? name = some n) (made : ws.world.channels[n]? = some c) (m : Change) :
    ∃ ws', Workspace.broadcast name [m] ws = (.ok (), ws') ∧
      ws'.world.channels[n]? = some (c.broadcast m) := by
  have found : Workspace.channel name ws = (.ok (n, c), ws) := by
    rw [Workspace.channel, Workspace.get_bind,
      Workspace.bind_ok (Workspace.named_of_some named ws), made]
    rfl
  refine ⟨Workspace.modifyChannel n (·.broadcast m) ws, ?_, ?_⟩
  · rw [Workspace.broadcast, Workspace.bind_ok found]
    rfl
  · rw [Workspace.modifyChannel, List.getElem?_modify_eq, made]
    rfl

/-- What a reader finds depends on nothing but what concerns it since it subscribed, and on whether
the channel was open. -/
theorem readings_of_alike {space reader : Text} {before before' since since' : List Event}
    (stays : ∀ e ∈ since, e.enrols reader = false)
    (closed : .close ∈ before' ↔ .close ∈ before)
    (same : since'.filter (Event.concerns reader) = since.filter (Event.concerns reader)) :
    ((after { space } before').subscribe reader).readings reader since' =
      ((after { space } before).subscribe reader).readings reader since := by
  have tracks (events : List Event) :
      Tracks reader ((after { space } events).subscribe reader) [] := by
    obtain ⟨log, keeps⟩ := exists_keeps_after (new_keeps space) events
    exact .of_subscribe keeps reader
  have stays' : ∀ e ∈ since', e.enrols reader = false := by
    intro e member
    rw [← Bool.not_eq_true]
    intro enrols
    have own : e ∈ since'.filter (Event.concerns reader) :=
      List.mem_filter.mpr ⟨member, Event.concerns_of_enrols enrols⟩
    rw [same] at own
    rw [stays e (List.mem_filter.mp own).1] at enrols
    cases enrols
  have opened (events : List Event) :
      ((after { space } events).subscribe reader).isOpen = !events.contains .close :=
    isOpen_after { space } events
  have alike : ((after { space } before').subscribe reader).isOpen =
      ((after { space } before).subscribe reader).isOpen := by
    rw [opened before', opened before, Bool.eq_iff_iff]
    simp [closed]
  rw [(tracks before').readings_filter (tracks before) alike stays', same,
    ← (tracks before).readings_filter (tracks before) rfl stays]

/-- A reader gets what is broadcast after it subscribes, in this order and nothing twice. A read
takes the oldest message of its queue that the channel keeps and loses those before it, so nothing
is lost while the queue is no longer than what is kept. What other readers do does not matter, and
neither does what was before. Once the channel is closed the reader gets what is kept and then finds
the end. -/
theorem reader_gets_unread (space : Text) (before since : List Event) (reader : Text)
    (stays : ∀ e ∈ since, e.enrols reader = false) :
    let start := (after { space } before).subscribe reader
    let c := start.after since
    let queue := unread reader since
    let got := messages (start.readings reader since)
    (got ++ queue).Sublist (broadcasts since) ∧
    ((∀ early, early <+: since → (unread reader early).length ≤ capacity) →
      got ++ queue = broadcasts since) ∧
    (queue ≠ [] → ∃ lost m rest, queue = lost ++ m :: rest ∧
      lost.length = queue.length - capacity ∧ (c.read reader).1 = .message m ∧
      unread reader (since ++ [.read reader]) = rest) ∧
    (queue = [] → (c.read reader).1 = if .close ∈ before ++ since then .ended else .pending) ∧
    (∀ before' since', (.close ∈ before' ↔ .close ∈ before) →
      since'.filter (Event.concerns reader) = since.filter (Event.concerns reader) →
      ((after { space } before').subscribe reader).readings reader since' =
        start.readings reader since) ∧
    (∀ events, (∀ e ∈ events, e.enrols reader = false) → (∀ e ∈ events, e.message? = none) →
      let reads := events.count (.read reader)
      let kept := queue.drop (queue.length - capacity)
      c.close.readings reader events =
        (kept.map Reading.message ++ List.replicate reads Reading.ended).take reads) ∧
    ∀ (ws : Workspace) (name : Text) (n : Nat) (m : Change), ws.channels.get? name = some n →
      ws.world.channels[n]? = some c → ∃ ws', Workspace.broadcast name [m] ws = (.ok (), ws') ∧
        ws'.world.channels[n]? = some (c.broadcast m) := by
  intro start c queue got
  obtain ⟨log, keeps⟩ := exists_keeps_after (new_keeps space) before
  have first : Tracks reader start [] := .of_subscribe keeps reader
  have tracks : Tracks reader c queue := first.after stays
  refine ⟨first.sublist stays, first.complete stays, ?_, ?_, ?_, ?_, ?_⟩
  · intro waiting
    obtain ⟨lost, m, rest, split, many, got, left⟩ := tracks.read_of_waiting waiting
    refine ⟨lost, m, rest, split, many, got, ?_⟩
    rw [unread, List.foldl_append, ← left]
    rfl
  · intro empty
    have isOpen : c.isOpen = !(before ++ since).contains .close := by
      have start' : start.isOpen = !before.contains .close := isOpen_after { space } before
      rw [isOpen_after, start', ← Bool.not_or, List.contains_append]
    rw [tracks.read.1, empty, found_nil, isOpen]
    by_cases closed : .close ∈ before ++ since
    · simp [closed]
    · simp [closed]
  · exact fun before' since' closed same => readings_of_alike stays closed same
  · intro events stays' silent
    have closed : Tracks reader c.close queue := tracks.step (e := .close) rfl
    exact closed.closing rfl stays' silent
  · exact fun ws name n m named made => broadcast_of_named named made m

/-- A reader that is two messages too late goes on with the third, while another reader keeps up
with the first of them and leaves. -/
theorem late_reader_gets_third :
    let since : List Event :=
      .broadcast ⟨[], []⟩ :: .read ['b'] :: .unsubscribe ['b'] ::
        (List.range 129).map fun n => .broadcast ⟨List.replicate (n + 1) 'x', []⟩
    let c := ((after { space := [] } [.subscribe ['b']]).subscribe ['a']).after since
    (∀ e ∈ since, e.enrols ['a'] = false) ∧ (unread ['a'] since).length = 130 ∧
      (c.read ['a']).1 = .message ⟨['x', 'x'], []⟩ := by
  intro since c
  have stays : ∀ e ∈ since, e.enrols ['a'] = false := by decide +kernel
  have many : (unread ['a'] since).length = 130 := by decide +kernel
  have third : (unread ['a'] since)[2]? = some ⟨['x', 'x'], []⟩ := by decide +kernel
  have waiting : unread ['a'] since ≠ [] := by
    intro empty
    rw [empty] at many
    cases many
  obtain ⟨-, -, reads, -⟩ := reader_gets_unread [] [.subscribe ['b']] since ['a'] stays
  obtain ⟨lost, m, rest, split, two, found, -⟩ := reads waiting
  refine ⟨stays, many, ?_⟩
  rw [many] at two
  rw [split, ← show lost.length = 2 from two, List.getElem?_append_right (Nat.le_refl _),
    Nat.sub_self, List.getElem?_cons_zero] at third
  rw [← Option.some.inj third]
  exact found

end LiveMarkup.Channel
