import LiveMarkup.Proofs.Display.Contents
import LiveMarkup.Proofs.Display.Hearing

/-!
Changes that come in one after the other while all listeners only note what they are told.

* `Play.Goes`: the updates that begin on the way from one play to another;
* `Play.goes_listen`: each module is updated once for each change and each binding to its file;
* `Scene.Synced`, `listen_syncs`: modules and sinks follow the changes of the files that they are
  bound to, and nothing else.
-/

namespace LiveMarkup.Display

namespace Play

/-- The updates that begin on the way from one play to another, each with its module and source. -/
inductive Goes : Play → List (Nat × Text) → Play → Prop
  | here (p : Play) : Goes p [] p
  | next {p q : Play} {us : List (Nat × Text)} (busy : p.agenda ≠ []) (more : Goes p.next us q) :
      Goes p (p.update?.toList ++ us) q

theorem Goes.trans {p q r : Play} {us vs : List (Nat × Text)} (first : Goes p us q)
    (second : Goes q vs r) : Goes p (us ++ vs) r := by
  induction first with
  | here => exact second
  | next busy _ ih =>
    rw [List.append_assoc]
    exact .next busy (ih second)

theorem Goes.run_eq {p q : Play} {us : List (Nat × Text)} (goes : Goes p us q) :
    q.run = p.run := by
  induction goes with
  | here => rfl
  | next busy _ ih => rw [ih, run_of_busy busy]

theorem Goes.of_next {p q r : Play} {us : List (Nat × Text)} (busy : p.agenda ≠ [])
    (step : p.next = q) (more : Goes q us r) : Goes p (p.update?.toList ++ us) r := by
  subst step
  exact .next busy more

variable {sc : Scene} {rest : List Task} {answer : Answer}

theorem goes_tells (plain : sc.Plain) (n : Nat) (targets : List Target) (text : Text) :
    Goes ⟨sc, targets.map (.tell n · text) ++ rest, answer⟩ []
      ⟨sc.tellAll targets text, rest, answer⟩ := by
  induction targets generalizing sc with
  | nil => exact .here _
  | cons target targets ih =>
    have goesOn : next ⟨sc, (target :: targets).map (.tell n · text) ++ rest, answer⟩ =
        ⟨(sc.tell target text).1, targets.map (.tell n · text) ++ rest, answer⟩ := by
      simp only [next, goOn, List.map_cons, List.cons_append, Scene.tell_plain plain,
        List.nil_append]
    exact .of_next (List.cons_ne_nil _ _) goesOn (ih ((Scene.calm_tell target text sc).plain plain))

/-- A receiver that lives hears of a source: if it is a module, that is one update of it. -/
theorem goes_deliver (plain : sc.Plain) {r : Receiver} (lives : r.isLive sc.moduleLives = true)
    (text : Text) :
    Goes ⟨sc, .deliver r text :: rest, answer⟩ (r.module?.toList.map (·, text))
      ⟨sc.take r text, rest, answer⟩ := by
  cases r with
  | script i =>
    have goesOn : next ⟨sc, .deliver (.script i) text :: rest, answer⟩ =
        ⟨sc.take (.script i) text, rest, answer⟩ := by
      simp only [next, goOn, Scene.deliver, Scene.tell_plain plain, List.nil_append]
      rfl
    exact .of_next (List.cons_ne_nil _ _) goesOn (.here _)
  | module n =>
    have alive : sc.moduleLives n = true := lives
    let holding : Scene := { sc.renew (.module n) text with held := n :: sc.held }
    have goesOn : next ⟨sc, .deliver (.module n) text :: rest, answer⟩ =
        ⟨holding, (sc.hearers n).map (.tell n · text) ++ (.release n :: rest), answer⟩ := by
      simp only [next, goOn, Scene.deliver, if_pos alive, Scene.tasks_beginUpdate,
        List.append_assoc]
      rfl
    have begun : update? ⟨sc, .deliver (.module n) text :: rest, answer⟩ = some (n, text) :=
      if_pos alive
    have told : Goes ⟨holding, (sc.hearers n).map (.tell n · text) ++ (.release n :: rest), answer⟩
        [] ⟨holding.tellAll (sc.hearers n) text, .release n :: rest, answer⟩ :=
      goes_tells (show holding.Plain from plain) n (sc.hearers n) text
    have released : next ⟨holding.tellAll (sc.hearers n) text, .release n :: rest, answer⟩ =
        ⟨sc.take (.module n) text, rest, answer⟩ :=
      congrArg (Play.mk · rest answer)
        (Scene.tellAll_held n (sc.hearers n) text (sc.renew (.module n) text))
    have all := Goes.of_next (List.cons_ne_nil _ _) goesOn
      (told.trans (.of_next (List.cons_ne_nil _ _) released (.here _)))
    rw [begun] at all
    exact all

theorem goes_delivers (plain : sc.Plain) {rs : List Receiver}
    (live : ∀ r ∈ rs, r.isLive sc.moduleLives = true) (text : Text) :
    Goes ⟨sc, rs.map (.deliver · text) ++ rest, answer⟩
      ((rs.filterMap Receiver.module?).map (·, text))
      ⟨rs.foldl (fun sc r => sc.take r text) sc, rest, answer⟩ := by
  induction rs generalizing sc with
  | nil => exact .here _
  | cons r rs ih =>
    have calm := (Scene.took_take r text sc).told.calm
    have first : Goes ⟨sc, .deliver r text :: (rs.map (.deliver · text) ++ rest), answer⟩
        (r.module?.toList.map (·, text))
        ⟨sc.take r text, rs.map (.deliver · text) ++ rest, answer⟩ :=
      goes_deliver plain (live r List.mem_cons_self) text
    have more := ih (calm.plain plain) fun r' member => by
      rw [calm.moduleLives]
      exact live r' (List.mem_cons_of_mem r member)
    have all := first.trans more
    have split : ((r :: rs).filterMap Receiver.module?).map (·, text) =
        r.module?.toList.map (·, text) ++ (rs.filterMap Receiver.module?).map (·, text) := by
      cases r <;> rfl
    rw [split]
    exact all

/-- A change updates each module that is bound to its file once for each binding. -/
theorem goes_emit (plain : sc.Plain) (c : Change) :
    Goes ⟨sc, .emit c.key c.src :: rest, answer⟩ ((sc.followers c.uid).map (·, c.src))
      ⟨sc.receive c, rest, answer⟩ := by
  have same : (sc.client.bindings.filter fun b =>
      b.key == c.key && b.receiver.isLive sc.moduleLives) =
      sc.client.bindings.filter fun b =>
        b.uid? == some c.uid && b.receiver.isLive sc.moduleLives := by
    refine List.filter_congr fun b _ => ?_
    have key : (b.key == c.key) = (b.uid? == some c.uid) := by
      rw [Bool.eq_iff_iff, beq_iff_eq, beq_iff_eq]
      exact Binding.key_eq_iff
    rw [key]
  have goesOn : next ⟨sc, .emit c.key c.src :: rest, answer⟩ =
      ⟨{ sc with client := sc.client.prune sc.moduleLives c.key },
        (sc.bound c.uid).map (.deliver · c.src) ++ rest, answer⟩ := by
    simp only [next, goOn, Scene.beginEvent_eq, same, Scene.bound, List.map_map]
    rfl
  have pruned := (Scene.calm_prune c.key sc).plain plain
  refine .of_next (List.cons_ne_nil _ _) goesOn (goes_delivers pruned ?_ c.src)
  intro r member
  obtain ⟨b, kept, rfl⟩ := List.mem_map.mp member
  have both := (List.mem_filter.mp kept).2
  rw [Bool.and_eq_true] at both
  exact both.2

theorem goes_emits (plain : sc.Plain) (changes : List Change) :
    Goes ⟨sc, changes.map (fun c => .emit c.key c.src) ++ rest, answer⟩
      (changes.flatMap fun c => (sc.followers c.uid).map (·, c.src))
      ⟨changes.foldl Scene.receive sc, rest, answer⟩ := by
  induction changes generalizing sc with
  | nil => exact .here _
  | cons c changes ih =>
    have calm := (Scene.took_receive c sc).told.calm
    have more := ih (calm.plain plain)
    simp only [calm.followers] at more
    exact (goes_emit plain c).trans more

theorem goes_listen (plain : sc.Plain) (changes : List Change) :
    Goes { scene := sc, agenda := [.perform none (.listen changes)] }
      (changes.flatMap fun c => (sc.followers c.uid).map (·, c.src))
      ⟨changes.foldl Scene.receive sc, [], .nothing⟩ := by
  have reported (sc : Scene) :
      Goes ⟨sc, [.report none (Step.listen changes).word .nothing], .nothing⟩ []
        ⟨sc, [], .nothing⟩ :=
    .of_next (List.cons_ne_nil _ _) rfl (.here _)
  have all := (goes_emits plain changes).trans (reported _)
  rw [List.append_nil] at all
  have goesOn : next { scene := sc, agenda := [.perform none (.listen changes)] } =
      ⟨sc, changes.map (fun c => .emit c.key c.src) ++
        [.report none (Step.listen changes).word .nothing], .nothing⟩ := by
    simp only [next, goOn, Scene.begin, List.append_nil]
  exact .of_next (List.cons_ne_nil _ _) goesOn all

end Play

namespace Scene

theorem perform_listen {sc : Scene} (plain : sc.Plain) (changes : List Change) :
    (sc.perform (.listen changes)).2 = changes.foldl receive sc := by
  have ends := (Play.goes_listen plain changes).run_eq
  rw [Play.run_of_done rfl] at ends
  exact congrArg Play.scene ends.symm

/-! ### Modules -/

theorem mem_followers {sc : Scene} {n : Nat} {uid : Text} :
    n ∈ sc.followers uid ↔ .module n ∈ sc.bound uid := by
  unfold followers
  rw [List.mem_filterMap]
  constructor
  · rintro ⟨r, member, found⟩
    cases r with
    | script => cases found
    | module m =>
      cases found
      exact member
  · intro member
    exact ⟨.module n, member, rfl⟩

theorem modules_receive_of_mem {sc : Scene} {n : Nat} {c : Change}
    (follows : n ∈ sc.followers c.uid) :
    (sc.receive c).modules[n]? = sc.modules[n]?.map (·.update sc.sinkLives c.src) := by
  rw [(took_receive c sc).modules, if_pos (mem_followers.mp follows)]

theorem modules_receive_of_not_mem {sc : Scene} {n : Nat} {c : Change}
    (other : n ∉ sc.followers c.uid) : (sc.receive c).modules[n]? = sc.modules[n]? := by
  rw [(took_receive c sc).modules, if_neg (fun member => other (mem_followers.mpr member))]

theorem srcOf_receive_of_mem {sc : Scene} {n : Nat} {c : Change} (made : n < sc.modules.length)
    (follows : n ∈ sc.followers c.uid) : (sc.receive c).srcOf n = c.src := by
  rw [srcOf, modules_receive_of_mem follows, List.getElem?_eq_getElem made]
  rfl

theorem srcOf_receive_of_not_mem {sc : Scene} {n : Nat} {c : Change}
    (other : n ∉ sc.followers c.uid) : (sc.receive c).srcOf n = sc.srcOf n := by
  rw [srcOf, modules_receive_of_not_mem other]
  rfl

/-- A module holds the source of the last change that it follows. -/
theorem srcOf_receives {sc : Scene} {n : Nat} (made : n < sc.modules.length)
    (changes : List Change) :
    (changes.foldl receive sc).srcOf n =
      ((changes.filter fun c => n ∈ sc.followers c.uid).getLast?.map (·.src)).getD
        (sc.srcOf n) := by
  induction changes generalizing sc with
  | nil => rfl
  | cons c changes ih =>
    have calm := (took_receive c sc).told.calm
    have later := @ih (sc.receive c) (by rw [calm.made]; exact made)
    simp only [calm.followers] at later
    rw [List.foldl_cons, later]
    by_cases follows : n ∈ sc.followers c.uid
    · rw [List.filter_cons_of_pos (by simpa using follows), List.getLast?_cons,
        srcOf_receive_of_mem made follows]
      cases (changes.filter fun c => n ∈ sc.followers c.uid).getLast? <;> rfl
    · rw [List.filter_cons_of_neg (by simpa using follows), srcOf_receive_of_not_mem follows]

/-- A module that follows none of the changes stays as it is. -/
theorem modules_receives {sc : Scene} {n : Nat} {changes : List Change}
    (other : ∀ c ∈ changes, n ∉ sc.followers c.uid) :
    (changes.foldl receive sc).modules[n]? = sc.modules[n]? := by
  induction changes generalizing sc with
  | nil => rfl
  | cons c changes ih =>
    have calm := (took_receive c sc).told.calm
    have later := @ih (sc.receive c) fun c' member => by
      rw [calm.followers]
      exact other c' (List.mem_cons_of_mem c member)
    rw [List.foldl_cons, later]
    exact modules_receive_of_not_mem (other c List.mem_cons_self)

/-! ### Sinks and notes -/

theorem sink_mem_hearers {sc : Scene} {n k : Nat} :
    .sink k ∈ sc.hearers n ↔ sc.sinkLives k = true ∧ ∃ id, (n, id) ∈ sc.attachments k := by
  simp only [mem_attachments, hearers]
  cases found : sc.modules[n]? with
  | none =>
    constructor
    · intro member
      cases member
    · rintro ⟨-, id, md, other, -⟩
      cases other
  | some md =>
    simp only [Option.map_some, Option.getD_some, List.mem_map, List.mem_filter]
    constructor
    · rintro ⟨⟨id, target⟩, ⟨listens, lives⟩, rfl⟩
      exact ⟨lives, id, md, rfl, listens⟩
    · rintro ⟨lives, id, md', same, listens⟩
      cases same
      exact ⟨_, ⟨listens, lives⟩, rfl⟩

theorem sink_mem_audiences {sc : Scene} {k : Nat} {uid : Text} :
    .sink k ∈ (sc.bound uid).flatMap sc.audience ↔
      ∃ n ∈ sc.followers uid, .sink k ∈ sc.hearers n := by
  rw [List.mem_flatMap]
  constructor
  · rintro ⟨r, member, tells⟩
    cases r with
    | script i => cases List.mem_singleton.mp tells
    | module n => exact ⟨n, mem_followers.mpr member, tells⟩
  · rintro ⟨n, follows, tells⟩
    exact ⟨.module n, mem_followers.mp follows, tells⟩

theorem sinks_receive_of_untold {sc : Scene} {k : Nat} {c : Change}
    (untold : ∀ n ∈ sc.followers c.uid, .sink k ∉ sc.hearers n) :
    (sc.receive c).sinks[k]? = sc.sinks[k]? := by
  rw [(took_receive c sc).told.sinks, if_neg]
  rintro ⟨tells, -⟩
  obtain ⟨n, follows, tells⟩ := sink_mem_audiences.mp tells
  exact untold n follows tells

theorem sinks_receive_of_told {sc : Scene} {n k : Nat} {c : Change}
    (follows : n ∈ sc.followers c.uid) (tells : .sink k ∈ sc.hearers n) :
    (sc.receive c).sinks[k]? = sc.sinks[k]?.map fun _ => c.src := by
  rw [(took_receive c sc).told.sinks, if_pos]
  exact ⟨sink_mem_audiences.mpr ⟨n, follows, tells⟩, (sink_mem_hearers.mp tells).1⟩

/-- A sink that only one module tells shows the source of that module once it has been told. -/
theorem sink_receives {sc : Scene} {n k : Nat} {changes : List Change}
    (made : n < sc.modules.length) (shows : ∃ text, sc.sinks[k]? = some text)
    (tells : .sink k ∈ sc.hearers n)
    (alone : ∀ uid, ∀ m ∈ sc.followers uid, .sink k ∈ sc.hearers m → m = n)
    (told : sc.sinks[k]? = some (sc.srcOf n) ∨ ∃ c ∈ changes, n ∈ sc.followers c.uid) :
    (changes.foldl receive sc).sinks[k]? = some ((changes.foldl receive sc).srcOf n) := by
  induction changes generalizing sc with
  | nil =>
    obtain synced | ⟨c, member, -⟩ := told
    · exact synced
    · cases member
  | cons c changes ih =>
    have calm := (took_receive c sc).told.calm
    have made' : n < (sc.receive c).modules.length := by
      rw [calm.made]
      exact made
    have tells' : .sink k ∈ (sc.receive c).hearers n := by
      rw [calm.hearers]
      exact tells
    have alone' : ∀ uid, ∀ m ∈ (sc.receive c).followers uid,
        .sink k ∈ (sc.receive c).hearers m → m = n := by
      intro uid m
      rw [calm.followers, calm.hearers]
      exact alone uid m
    obtain ⟨text, shown⟩ := shows
    by_cases follows : n ∈ sc.followers c.uid
    · have synced : (sc.receive c).sinks[k]? = some ((sc.receive c).srcOf n) := by
        rw [sinks_receive_of_told follows tells, srcOf_receive_of_mem made follows, shown]
        rfl
      exact ih made' ⟨_, synced⟩ tells' alone' (Or.inl synced)
    · have still : (sc.receive c).sinks[k]? = sc.sinks[k]? := by
        refine sinks_receive_of_untold fun m follows' tells' => ?_
        rw [alone c.uid m follows' tells'] at follows'
        exact follows follows'
      refine ih made' ⟨text, still.trans shown⟩ tells' alone' ?_
      obtain synced | ⟨c', member, later⟩ := told
      · left
        rw [still, srcOf_receive_of_not_mem follows, synced]
      · obtain rfl | member := List.mem_cons.mp member
        · exact absurd later follows
        · right
          refine ⟨c', member, ?_⟩
          rw [calm.followers]
          exact later

/-- A sink that none of the modules tells that follow the changes stays as it is. -/
theorem sinks_receives {sc : Scene} {k : Nat} {changes : List Change}
    (untold : ∀ c ∈ changes, ∀ n ∈ sc.followers c.uid, .sink k ∉ sc.hearers n) :
    (changes.foldl receive sc).sinks[k]? = sc.sinks[k]? := by
  induction changes generalizing sc with
  | nil => rfl
  | cons c changes ih =>
    have calm := (took_receive c sc).told.calm
    have later := @ih (sc.receive c) fun c' member n => by
      rw [calm.followers, calm.hearers]
      exact untold c' (List.mem_cons_of_mem c member) n
    rw [List.foldl_cons, later]
    exact sinks_receive_of_untold (untold c List.mem_cons_self)

/-- Listeners note the changes that they are told of, in order. -/
theorem notes_receives (changes : List Change) (sc : Scene) :
    (changes.foldl receive sc).notes = sc.notes ++ changes.flatMap fun c =>
      ((sc.bound c.uid).flatMap sc.audience).filterMap (sc.noted? c.src) := by
  induction changes generalizing sc with
  | nil => exact (List.append_nil _).symm
  | cons c changes ih =>
    have told := (took_receive c sc).told
    have same : (sc.receive c).audience = sc.audience := funext told.calm.audience
    rw [List.foldl_cons, ih, told.notes]
    simp only [told.calm.bound, told.calm.noted, same, List.flatMap_cons, List.append_assoc]

/-! ### Bindings of modules that are gone -/

theorem takes_bind (client : Client) (rs : List Receiver) (text : Text) (sc : Scene) :
    rs.foldl (fun sc r => sc.take r text) { sc with client := client } =
      { rs.foldl (fun sc r => sc.take r text) sc with client := client } := by
  induction rs generalizing sc with
  | nil => rfl
  | cons r rs ih =>
    have first : take r text { sc with client := client } =
        { sc.take r text with client := client } := by
      cases r with
      | script i => exact tellAll_bind client [.script i] text sc
      | module n => exact tellAll_bind client (sc.hearers n) text (sc.renew (.module n) text)
    rw [List.foldl_cons, List.foldl_cons, first, ih]

/-- With other bindings under which the same hear of the change, it comes to the same. -/
theorem receives_bind {sc : Scene} {client : Client}
    (alike : ∀ uid, bound uid { sc with client := client } = sc.bound uid)
    (changes : List Change) :
    ∃ client', changes.foldl receive { sc with client := client } =
      { changes.foldl receive sc with client := client' } := by
  induction changes generalizing sc client with
  | nil => exact ⟨client, rfl⟩
  | cons c changes ih =>
    have first : receive { sc with client := client } c =
        { sc.receive c with client := client.prune sc.moduleLives c.key } := by
      have begun : receive { sc with client := client } c =
          (sc.bound c.uid).foldl (fun sc r => sc.take r c.src)
            { sc with client := client.prune sc.moduleLives c.key } := by
        unfold receive
        rw [alike]
        rfl
      exact begun.trans (takes_bind (client.prune sc.moduleLives c.key) (sc.bound c.uid) c.src
        { sc with client := sc.client.prune sc.moduleLives c.key })
    have alike' : ∀ uid, bound uid { sc.receive c with
        client := client.prune sc.moduleLives c.key } = (sc.receive c).bound uid := by
      intro uid
      rw [← first, (took_receive c _).told.calm.bound, alike, (took_receive c sc).told.calm.bound]
    obtain ⟨client', same⟩ := ih alike'
    refine ⟨client', ?_⟩
    rw [List.foldl_cons, first, same]
    rfl

/-! ### All of it -/

theorem lives_of_mem_followers {sc : Scene} {n : Nat} {uid : Text}
    (follows : n ∈ sc.followers uid) : sc.moduleLives n = true := by
  obtain ⟨b, kept, found⟩ := List.mem_map.mp (mem_followers.mp follows)
  have both := (List.mem_filter.mp kept).2
  rw [Bool.and_eq_true, found] at both
  exact both.2

/-- A scene once some changes have come in. Modules that live follow the files that they are bound
to, and sinks the modules that they are in; what follows nothing that has changed is as before.
Listeners have noted what they were told. -/
structure Synced (changes : List Change) (sc next : Scene) : Prop where
  src : ∀ n < sc.modules.length, next.srcOf n =
    ((changes.filter fun c => n ∈ sc.followers c.uid).getLast?.map (·.src)).getD (sc.srcOf n)
  shown : ∀ n k, sc.sinkLives k = true → (∃ id, (n, id) ∈ sc.attachments k) →
    (∀ a ∈ sc.attachments k, sc.moduleLives a.1 = true → a.1 = n) →
    (∃ c ∈ changes, n ∈ sc.followers c.uid) → next.sinks[k]? = some (next.srcOf n)
  modules : ∀ n, (∀ c ∈ changes, n ∉ sc.followers c.uid) → next.modules[n]? = sc.modules[n]?
  sinks : ∀ k, (∀ a ∈ sc.attachments k, ∀ c ∈ changes, a.1 ∉ sc.followers c.uid) →
    next.sinks[k]? = sc.sinks[k]?
  notes : next.notes = sc.notes ++ changes.flatMap fun c =>
    ((sc.bound c.uid).flatMap sc.audience).filterMap (sc.noted? c.src)

theorem synced_receives {sc : Scene} (numbered : sc.Numbered) (changes : List Change) :
    sc.Synced changes (changes.foldl receive sc) where
  src n made := srcOf_receives made changes
  shown n k lives attached alone follows := by
    have made : k < sc.sinks.length :=
      numbered.sinkNames k (List.contains_iff_mem.mp lives)
    obtain ⟨c, member, follows'⟩ := follows
    have exists' := numbered.lt_of_lives (lives_of_mem_followers follows')
    refine sink_receives exists' ⟨_, List.getElem?_eq_getElem made⟩
      (sink_mem_hearers.mpr ⟨lives, attached⟩) ?_ (Or.inr ⟨c, member, follows'⟩)
    intro uid m follows tells
    obtain ⟨-, id, attached'⟩ := sink_mem_hearers.mp tells
    exact alone (m, id) attached' (lives_of_mem_followers follows)
  modules n other := modules_receives other
  sinks k unattached := by
    refine sinks_receives fun c member n follows tells => ?_
    obtain ⟨-, id, attached⟩ := sink_mem_hearers.mp tells
    exact unattached (n, id) attached c member follows
  notes := notes_receives changes sc

/-- Lets go of all modules that are gone. -/
def sweep (sc : Scene) : Scene :=
  { sc with client := { sc.client with
      bindings := sc.client.bindings.filter (·.receiver.isLive sc.moduleLives) } }

theorem bound_sweep (uid : Text) (sc : Scene) : sc.sweep.bound uid = sc.bound uid := by
  unfold bound
  refine congrArg (List.map _) ?_
  change List.filter _ (List.filter _ sc.client.bindings) = _
  rw [List.filter_filter]
  refine List.filter_congr fun b _ => ?_
  rw [Bool.and_assoc]
  exact congrArg _ (Bool.and_self _)

/-- Changes that come in where listeners only note what they are told bring a scene up to date; they
update each module once for each change and each binding of the module to the changed file, in
order, and bindings of modules that are gone make no difference. -/
theorem listen_syncs {sc : Scene} (numbered : sc.Numbered) (plain : sc.Plain)
    (changes : List Change) :
    let next := (sc.perform (.listen changes)).2
    sc.Synced changes next ∧
      Play.Goes { scene := sc, agenda := [.perform none (.listen changes)] }
        (changes.flatMap fun c => (sc.followers c.uid).map (·, c.src)) ⟨next, [], .nothing⟩ ∧
      ∃ client, (sc.sweep.perform (.listen changes)).2 = { next with client := client } := by
  intro next
  have comes : next = changes.foldl receive sc := perform_listen plain changes
  rw [comes]
  refine ⟨synced_receives numbered changes, Play.goes_listen plain changes, ?_⟩
  have swept : sc.sweep.Plain := plain
  rw [perform_listen swept]
  exact receives_bind (fun uid => bound_sweep uid sc) changes

end Scene

/-- A module that is bound to two files, to one of them twice, and one that is gone. -/
def Run.following : Run :=
  ofProgram [.module ['m'] ['a'], .module ['n'] ['b'], .sink ['s'], .insert ['m'] ['s'] ['h'],
    .bind ['u'] ['m'] ['i'], .bind ['v'] ['m'] ['j'], .bind ['u'] ['m'] ['k'],
    .bind ['v'] ['n'] ['o'], .dropModule ['n'], .on "change:u".toList ['l'] [] 3]

theorem Run.following_syncs :
    let sc := (following.play 20).scene
    let changes : List Change := [⟨['u'], ['c']⟩, ⟨['v'], ['d']⟩, ⟨['w'], ['e']⟩]
    let next := (sc.perform (.listen changes)).2
    next.srcOf 0 = ['d'] ∧ next.sinks[0]? = some ['d'] ∧ next.modules[1]? = sc.modules[1]? ∧
      next.notes = [.told ['l'] ['c']] := by
  intro sc changes next
  have numbered : sc.Numbered := (following.sound 20).numbered
  have scripts : sc.scripts = [⟨['l'], [], 3⟩] := rfl
  have plain : sc.Plain := by
    intro s member
    rw [scripts] at member
    rw [List.mem_singleton.mp member]
  obtain ⟨synced, -, -⟩ := Scene.listen_syncs numbered plain changes
  have src : next.srcOf 0 = ['d'] :=
    (synced.src 0 (by decide +kernel)).trans (by decide +kernel)
  have shown : next.sinks[0]? = some (next.srcOf 0) :=
    synced.shown 0 0 (by decide +kernel) ⟨0, by decide +kernel⟩ (by decide +kernel)
      (by decide +kernel)
  rw [src] at shown
  exact ⟨src, shown, synced.modules 1 (by decide +kernel),
    synced.notes.trans (by decide +kernel)⟩

end LiveMarkup.Display
