import LiveMarkup.Live.WatchList
import LiveMarkup.Proofs.Live.Serving
import Mathlib.Data.Char
import Mathlib.Data.List.Lex

/-!
The files that a server watches. A run puts the identity of its handler on the watch list once it
comes to the stage that the server brought in, and nothing else puts anything there.

* `LiveServer.Minds`: what a turn does where the watch list is the server's own;
* `LiveServer.Course`: what may happen to its session, as long as nothing resets the registry;
* `LiveServer.watched_follow_runs`: which files are on the list.
-/

namespace LiveMarkup

variable {σ W : Type}

namespace WatchList

variable {identity : Text} {list : WatchList}

theorem lt_of_textLe {a b : Text} (le : StageTable.textLe a b = true) (other : a ≠ b) : a < b := by
  simp only [StageTable.textLe, Bool.not_eq_true', decide_eq_false_iff_not] at le
  exact lt_of_le_of_ne (not_lt.mp le) other

theorem lt_of_not_textLe {a b : Text} (after : ¬ StageTable.textLe a b = true) : b < a := by
  simp only [StageTable.textLe, Bool.not_eq_true', decide_eq_false_iff_not] at after
  exact not_not.mp after

/-- The list grows around what it has. -/
theorem sublist_add (identity : Text) (list : WatchList) : list.Sublist (add identity list) := by
  induction list with
  | nil => exact List.nil_sublist _
  | cons f rest ih =>
    unfold add
    split
    · exact List.Sublist.refl _
    · split
      · exact ih.cons_cons f
      · exact (List.Sublist.refl _).cons identity

/-- The list stays in order, without repetitions. -/
theorem pairwise_add (identity : Text) (sorted : list.Pairwise (· < ·)) :
    (add identity list).Pairwise (· < ·) := by
  induction list with
  | nil => exact List.pairwise_singleton _ _
  | cons f rest ih =>
    obtain ⟨first, tail⟩ := List.pairwise_cons.mp sorted
    unfold add
    split
    · exact sorted
    rename_i other
    split
    · rename_i le
      refine List.pairwise_cons.mpr ⟨fun g member => ?_, ih tail⟩
      obtain rfl | member := mem_add.mp member
      · exact lt_of_textLe le other
      · exact first g member
    · rename_i after
      have before : identity < f := lt_of_not_textLe after
      refine List.pairwise_cons.mpr ⟨fun g member => ?_, sorted⟩
      obtain rfl | member := List.mem_cons.mp member
      · exact before
      · exact before.trans (first g member)

/-- Adding once more changes nothing. -/
theorem add_add (identity : Text) (list : WatchList) :
    add identity (add identity list) = add identity list := by
  induction list with
  | nil => simp [add]
  | cons f rest ih =>
    by_cases same : f = identity
    · simp only [add, if_pos same]
    · by_cases le : StageTable.textLe f identity = true
      · simp only [add, if_neg same, if_pos le, ih]
      · simp only [add, if_neg same, if_neg le, if_true]

end WatchList

namespace Registry

/-- Registries that come of one by requests, none of which resets it. -/
inductive Leads (table : StageTable σ) (root : Text) (r : Registry σ) : Registry σ → Prop
  | refl : Leads table root r r
  | serve {r' : Registry σ} {request : Request σ} (leads : Leads table root r r')
      (kept : request ≠ .reset) : Leads table root r (r'.serve table root request).2

variable {table : StageTable σ} {root : Text} {watch : σ} {r r' r'' : Registry σ}

theorem Leads.trans (first : Leads table root r r') (second : Leads table root r' r'') :
    Leads table root r r'' := by
  induction second with
  | refl => exact first
  | serve _ kept ih => exact .serve ih kept

theorem Attached.leads (attached : r.Attached table root watch) (leads : Leads table root r r') :
    r'.Attached table root watch := by
  induction leads with
  | refl => exact attached
  | serve _ kept ih => exact .serve ih kept

theorem mem_post_of_serve {stage : σ} (member : stage ∈ r.post) {request : Request σ}
    (kept : request ≠ .reset) : stage ∈ (r.serve table root request).2.post := by
  cases request with
  | reset => exact absurd rfl kept
  | addPre refs =>
    cases found : table.resolveAll root root refs <;> simp [serve, addPre, found, member]
  | addPost refs =>
    cases found : table.resolveAll root root refs <;> simp [serve, addPost, found, member]
  | configure | enableLive | settings | isLive | stages => exact member

/-- The stage that an attached server brought in stays behind the processors. -/
theorem Attached.mem_post (attached : r.Attached table root watch) : watch ∈ r.post := by
  induction attached with
  | attach r => exact List.mem_append_right r.post List.mem_cons_self
  | serve _ kept ih => exact mem_post_of_serve ih kept

end Registry

namespace Session

variable {s : Session σ W}

/-- One world leaves the registry to another as it is, or changed by requests that reset nothing. -/
def Leads (s : Session σ W) (w w' : W) : Prop :=
  Registry.Leads s.table s.root (s.registry w) (s.registry w')

/-- Something holds of each turn that is taken of some that are due, for the worlds before it and
behind it. -/
def Throughout (s : Session σ W) (h : Handler σ) (holds : Turn σ → W → W → Prop)
    (ts : List (Turn σ)) (src : Text) (w : W) : Prop :=
  ∀ earlier t later out left, ts = earlier ++ t :: later →
    s.take h earlier src w = (.ok out, left) → holds t left (s.turn h out t left).2

/-- A run of a source comes to a stage: all turns before one of its turns are taken. -/
def Reaches (s : Session σ W) (h : Handler σ) (src : Text) (w : W) (stage : σ) : Prop :=
  ∃ earlier phase later out left,
    s.due h src w = earlier ++ .stage phase stage :: later ∧
      s.take h earlier src w = (.ok out, left)

namespace Throughout

variable {h : Handler σ} {holds : Turn σ → W → W → Prop} {ts due : List (Turn σ)} {t : Turn σ}
variable {src : Text} {w : W}

theorem of_prefix (first : ts <+: due) (throughout : s.Throughout h holds due src w) :
    s.Throughout h holds ts src w := by
  obtain ⟨rest, rfl⟩ := first
  intro earlier t later out left split taken
  refine throughout earlier t (later ++ rest) out left ?_ taken
  rw [split, List.append_assoc, List.cons_append]

theorem head (throughout : s.Throughout h holds (t :: ts) src w) :
    holds t w (s.turn h src t w).2 :=
  throughout [] t ts src w rfl rfl

theorem tail (throughout : s.Throughout h holds (t :: ts) src w) {out : Text} {w' : W}
    (turned : s.turn h src t w = (.ok out, w')) : s.Throughout h holds ts out w' := by
  intro earlier t' later out' left split taken
  refine throughout (t :: earlier) t' later out' left (congrArg (t :: ·) split) ?_
  rw [take_cons_ok turned, taken]

end Throughout

end Session

namespace LiveServer

/-- What a turn does where a watch list is the server's own: the stage of the server puts the file
that it is given on the list, all others leave the list as it is, and none resets the registry. -/
structure Minds (l : LiveServer σ W) (watch : σ) (list : W → WatchList) (h : Handler σ)
    (t : Turn σ) (w w' : W) : Prop where
  notes : ∀ phase, t = .stage phase watch → list w' = WatchList.add h.filename (list w)
  aside : (∀ phase, t ≠ .stage phase watch) → list w' = list w
  keeps : l.session.Leads w w'

/-- Sending leaves the list as it is and does not reset the registry. -/
def SendsAside (l : LiveServer σ W) (list : W → WatchList) : Prop :=
  ∀ m w, list (l.send m w).2 = list w ∧ l.session.Leads w (l.send m w).2

/-- What may happen to the session of a server: a run of some handler, a file that is turned into a
module, a changed file that the server is told of, and a request to the registry. -/
inductive Event (σ : Type) where
  | run (h : Handler σ) (src : Text)
  | transform (files : FileTree) (file code : Text) (given : Option (FileConfig σ))
      (paths : ModulePaths)
  | notify (files : FileTree) (file : Text)
  | ask (request : Registry.Request σ)

/-- How an event changes the world. A request that is made from outside is served by the registry
and leaves the list alone; a reset is none of the events. -/
inductive Happens (l : LiveServer σ W) (list : W → WatchList) : Event σ → W → W → Prop
  | run (h : Handler σ) (src : Text) (w : W) :
      Happens l list (.run h src) w (l.session.run h src w).2
  | transform (files : FileTree) (file code : Text) (given : Option (FileConfig σ))
      (paths : ModulePaths) (w : W) :
      Happens l list (.transform files file code given paths) w
        (l.session.transform files file code given paths w).2
  | notify (files : FileTree) (file : Text) (w : W) :
      Happens l list (.notify files file) w (l.notify files file w).2
  | ask {request : Registry.Request σ} {w w' : W} (kept : request ≠ .reset)
      (served : l.session.registry w' =
        ((l.session.registry w).serve l.session.table l.session.root request).2)
      (same : list w' = list w) : Happens l list (.ask request) w w'

/-- The handler and the source that an event runs. -/
inductive Attempts (l : LiveServer σ W) : Event σ → Handler σ → Text → Prop
  | run (h : Handler σ) (src : Text) : Attempts l (.run h src) h src
  | transform {files : FileTree} {file code : Text} {given : Option (FileConfig σ)}
      {paths : ModulePaths} {h : Handler σ}
      (made : Handler.create files l.session.root l.session.table file given = .ok (some h))
      (taken : (h.config.checkMarkup && ! Text.looksLikeMarkup code) = false) :
      Attempts l (.transform files file code given paths) h code
  | notify {files : FileTree} {file code : Text} {h : Handler σ}
      (takes : l.Takes files file h code) : Attempts l (.notify files file) h code

/-- In the run that an event makes, if any, every turn minds the list and the registry. -/
def Orderly (l : LiveServer σ W) (watch : σ) (list : W → WatchList) (e : Event σ) (w : W) : Prop :=
  ∀ h src, l.Attempts e h src →
    l.session.Throughout h (l.Minds watch list h) (l.session.due h src w) src w

/-- What has happened since a world, the latest last, each event with the world that it found. -/
inductive Course (l : LiveServer σ W) (watch : σ) (list : W → WatchList) (start : W) :
    List (Event σ × W) → W → Prop
  | start : Course l watch list start [] start
  | next {past : List (Event σ × W)} {w w' : W} (course : Course l watch list start past w)
      {e : Event σ} (happens : Happens l list e w w') (orderly : l.Orderly watch list e w) :
      Course l watch list start (past ++ [(e, w)]) w'

/-- Stages that mind the list and the registry in every call. -/
structure Watches (l : LiveServer σ W) (watch : σ) (list : W → WatchList) : Prop where
  notes : ∀ ctx w,
    list (l.session.stages.run watch ctx w).2 = WatchList.add ctx.filename (list w)
  stage : ∀ stage, stage ≠ watch → ∀ ctx w, list (l.session.stages.run stage ctx w).2 = list w
  minifier : ∀ options src w, list (l.session.minifier options src w).2 = list w
  stageKeeps : ∀ stage ctx w, l.session.Leads w (l.session.stages.run stage ctx w).2
  minifierKeeps : ∀ options src w, l.session.Leads w (l.session.minifier options src w).2

variable {l : LiveServer σ W} {watch : σ} {list : W → WatchList} {h : Handler σ}

/-! ### Runs -/

/-- Where all stages mind the list and the registry, everything that happens is orderly. -/
theorem Watches.orderly (watches : l.Watches watch list) (e : Event σ) (w : W) :
    l.Orderly watch list e w := by
  intro h src _ earlier t later out left _ _
  cases t with
  | minifier options =>
    refine ⟨fun phase same => (by cases same), fun _ => ?_, ?_⟩
    · exact watches.minifier options out left
    · exact watches.minifierKeeps options out left
  | stage phase stage =>
    refine ⟨fun phase' same => ?_, fun other => ?_, ?_⟩
    · cases same
      exact watches.notes (h.context out) left
    · have differs : stage ≠ watch := fun same => other phase (congrArg _ same)
      exact watches.stage stage differs (h.context out) left
    · exact watches.stageKeeps stage (h.context out) left

/-- Turns that mind the registry do not reset it, taken together. -/
theorem leads_take {ts : List (Turn σ)} {src : Text} {w : W}
    (minded : l.session.Throughout h (l.Minds watch list h) ts src w) :
    l.session.Leads w (l.session.take h ts src w).2 := by
  induction ts generalizing src w with
  | nil => exact .refl
  | cons t ts ih =>
    have first := minded.head.keeps
    cases turned : l.session.turn h src t w with | mk answer w' =>
    rw [turned] at first
    cases answer with
    | error message =>
      rw [Session.take_cons_error turned]
      exact first
    | ok out =>
      rw [Session.take_cons_ok turned]
      exact Registry.Leads.trans first (ih (minded.tail turned))

/-- The turns of a run put the identity of its handler on the list if they come to the stage of the
server, and otherwise leave the list as it is. -/
theorem list_take {ts : List (Turn σ)} {src : Text} {w : W}
    (minded : l.session.Throughout h (l.Minds watch list h) ts src w) :
    let w' := (l.session.take h ts src w).2
    list w' = list w ∨ list w' = WatchList.add h.filename (list w) ∧
      ∃ earlier phase later out left, ts = earlier ++ .stage phase watch :: later ∧
        l.session.take h earlier src w = (.ok out, left) := by
  induction ts generalizing src w with
  | nil => exact Or.inl rfl
  | cons t ts ih =>
    have first := minded.head
    cases turned : l.session.turn h src t w with | mk answer w₁ =>
    rw [turned] at first
    by_cases own : ∃ phase, t = .stage phase watch
    · obtain ⟨phase, rfl⟩ := own
      have noted := first.notes phase rfl
      refine Or.inr ⟨?_, [], phase, ts, src, w, rfl, rfl⟩
      cases answer with
      | error message => rwa [Session.take_cons_error turned]
      | ok out =>
        rw [Session.take_cons_ok turned]
        obtain same | ⟨again, -⟩ := ih (minded.tail turned)
        · exact same.trans noted
        · rw [again, noted, WatchList.add_add]
    · have kept := first.aside (not_exists.mp own)
      cases answer with
      | error message =>
        rw [Session.take_cons_error turned]
        exact Or.inl kept
      | ok out =>
        rw [Session.take_cons_ok turned]
        obtain same | ⟨added, earlier, phase, later, out', left, split, taken⟩ :=
          ih (minded.tail turned)
        · exact Or.inl (same.trans kept)
        · refine Or.inr ⟨kept ▸ added, t :: earlier, phase, later, out', left,
            congrArg (t :: ·) split, ?_⟩
          rw [Session.take_cons_ok turned, taken]

theorem sublist_take {ts : List (Turn σ)} {src : Text} {w : W}
    (minded : l.session.Throughout h (l.Minds watch list h) ts src w) :
    (list w).Sublist (list (l.session.take h ts src w).2) := by
  obtain same | ⟨added, -⟩ := list_take minded
  · exact same ▸ List.Sublist.refl _
  · exact added ▸ WatchList.sublist_add _ _

/-- Once all turns are taken, that of the server's stage among them, the identity is on the list. -/
theorem mem_of_take_ok {ts : List (Turn σ)} {phase : Phase} (member : .stage phase watch ∈ ts)
    {src out : Text} {w left : W}
    (minded : l.session.Throughout h (l.Minds watch list h) ts src w)
    (taken : l.session.take h ts src w = (.ok out, left)) : h.filename ∈ list left := by
  induction ts generalizing src w with
  | nil => exact absurd member List.not_mem_nil
  | cons t ts ih =>
    have first := minded.head
    cases turned : l.session.turn h src t w with | mk answer w₁ =>
    rw [turned] at first
    cases answer with
    | error message =>
      rw [Session.take_cons_error turned] at taken
      cases taken
    | ok out =>
      rw [Session.take_cons_ok turned] at taken
      obtain rfl | member := List.mem_cons.mp member
      · have noted := first.notes phase rfl
        have grown := sublist_take (minded.tail turned)
        rw [taken] at grown
        exact grown.subset (noted ▸ WatchList.mem_add.mpr (Or.inl rfl))
      · exact ih member (minded.tail turned) taken

/-- The stage of the server is due in every run: whatever the stages ask for on the way, it is
behind the processors when their phase is over. -/
theorem mem_due {src : Text} {w : W}
    (attached : (l.session.registry w).Attached l.session.table l.session.root watch)
    (minded : l.session.Throughout h (l.Minds watch list h) (l.session.due h src w) src w) :
    .stage .post watch ∈ l.session.due h src w := by
  refine List.mem_append_left _ (List.mem_append_right _ (List.mem_map_of_mem ?_))
  have processed : l.session.Throughout h (l.Minds watch list h) _ src w :=
    minded.of_prefix ((List.prefix_append _ _).trans (List.prefix_append _ _))
  exact (attached.leads (leads_take processed)).mem_post

section

variable {src : Text} {w : W}

theorem leads_run
    (minded : l.session.Throughout h (l.Minds watch list h) (l.session.due h src w) src w) :
    l.session.Leads w (l.session.run h src w).2 := by
  rw [Session.run_eq_take]
  exact leads_take minded

theorem list_run
    (minded : l.session.Throughout h (l.Minds watch list h) (l.session.due h src w) src w) :
    let w' := (l.session.run h src w).2
    list w' = list w ∨
      list w' = WatchList.add h.filename (list w) ∧ l.session.Reaches h src w watch := by
  rw [Session.run_eq_take]
  exact list_take minded

theorem mem_of_run_ok {out : Context σ} {left : W}
    (attached : (l.session.registry w).Attached l.session.table l.session.root watch)
    (minded : l.session.Throughout h (l.Minds watch list h) (l.session.due h src w) src w)
    (ran : l.session.run h src w = (.ok out, left)) : h.filename ∈ list left := by
  rw [Session.run_eq_take] at ran
  cases taken : l.session.take h (l.session.due h src w) src w with | mk result w' =>
  rw [taken] at ran
  cases result with
  | error e => cases ran
  | ok out' =>
    cases ran
    exact mem_of_take_ok (mem_due attached minded) minded taken

end

/-! ### Events -/

theorem Attempts.unique {e : Event σ} {h h' : Handler σ} {src src' : Text}
    (attempts : l.Attempts e h src) (attempts' : l.Attempts e h' src') : h' = h ∧ src' = src := by
  cases attempts with
  | run =>
    cases attempts'
    exact ⟨rfl, rfl⟩
  | transform made _ =>
    cases attempts' with
    | transform made' _ =>
      rw [made] at made'
      cases made'
      exact ⟨rfl, rfl⟩
  | notify takes =>
    cases attempts' with
    | notify takes' => exact takes.unique takes'

/-- Sending comes after the run and adds nothing to what the list holds. -/
theorem SendsAside.notify (aside : l.SendsAside list) {files : FileTree} {file code : Text}
    (takes : l.Takes files file h code) (w : W) :
    let left := (l.session.run h code w).2
    let w' := (l.notify files file w).2
    list w' = list left ∧ l.session.Leads left w' := by
  cases ran : l.session.run h code w with | mk result left =>
  cases result with
  | error e =>
    rw [notify_of_failed takes ran]
    exact ⟨rfl, .refl⟩
  | ok out =>
    have sent : (l.notify files file w).2 = (l.send ⟨out.filename, out.src⟩ left).2 := by
      rw [notify_eq_run takes.made takes.held, Run.bind_ok ran]
      cases answer : l.send ⟨out.filename, out.src⟩ left with | mk reply w' =>
      cases reply with
      | error e => rw [Run.bind_error answer]
      | ok _ =>
        rw [Run.bind_ok answer]
        rfl
    rw [sent]
    exact aside _ left

/-- An event runs a source and then leaves the list as the run did, or it runs none and leaves the
list as it was. -/
theorem Happens.cases (aside : l.SendsAside list) {e : Event σ} {w w' : W}
    (happens : Happens l list e w w') :
    (∃ h src, l.Attempts e h src ∧ list w' = list (l.session.run h src w).2 ∧
      l.session.Leads (l.session.run h src w).2 w') ∨
    (∀ h src, ¬ l.Attempts e h src) ∧ list w' = list w ∧ l.session.Leads w w' := by
  cases happens with
  | run h src => exact Or.inl ⟨h, src, .run h src, rfl, .refl⟩
  | transform files file code given paths =>
    by_cases attempted : ∃ h src, l.Attempts (.transform files file code given paths) h src
    · obtain ⟨h, src, attempts⟩ := attempted
      refine Or.inl ⟨h, src, attempts, ?_⟩
      cases attempts with
      | transform made taken =>
        rw [Session.world_of_taken made taken]
        exact ⟨rfl, .refl⟩
    · refine Or.inr ⟨fun h src attempts => attempted ⟨h, src, attempts⟩, ?_⟩
      rw [Session.world_of_untaken]
      · exact ⟨rfl, .refl⟩
      · intro h made
        by_contra taken
        exact attempted ⟨h, code, .transform made (Bool.not_eq_true _ ▸ taken)⟩
  | notify files file =>
    by_cases attempted : ∃ h src, l.Attempts (.notify files file) h src
    · obtain ⟨h, src, attempts⟩ := attempted
      refine Or.inl ⟨h, src, attempts, ?_⟩
      cases attempts with
      | notify takes => exact aside.notify takes w
    · refine Or.inr ⟨fun h src attempts => attempted ⟨h, src, attempts⟩, ?_⟩
      rw [notify_of_untaken fun h code takes => attempted ⟨h, code, .notify takes⟩]
      exact ⟨rfl, .refl⟩
  | ask kept served same =>
    refine Or.inr ⟨fun h src attempts => ?_, same, ?_⟩
    · cases attempts
    · rw [Session.Leads, served]
      exact .serve .refl kept

/-- The list after some events: it is in order, it has all that it had before, and it has the files
that were built and no others than those whose runs came to the stage of the server. -/
structure Followed (l : LiveServer σ W) (watch : σ) (list : W → WatchList)
    (past : List (Event σ × W)) (w : W) : Prop where
  attached : (l.session.registry w).Attached l.session.table l.session.root watch
  sorted : (list w).Pairwise (· < ·)
  grown : ∀ e v, (e, v) ∈ past → (list v).Sublist (list w)
  built : ∀ e v h src out left, (e, v) ∈ past → l.Attempts e h src →
    l.session.run h src v = (.ok out, left) → h.filename ∈ list w
  reached : ∀ f ∈ list w, ∃ e v h src, (e, v) ∈ past ∧ l.Attempts e h src ∧
    l.session.Reaches h src v watch ∧ h.filename = f

/-- What one event does to the list. -/
theorem Happens.list_cases (aside : l.SendsAside list) {e : Event σ} {w w' : W}
    (happens : Happens l list e w w') (orderly : l.Orderly watch list e w) :
    list w' = list w ∨ ∃ h src, l.Attempts e h src ∧
      list w' = WatchList.add h.filename (list w) ∧ l.session.Reaches h src w watch := by
  obtain ⟨h, src, attempts, after, -⟩ | ⟨-, same, -⟩ := happens.cases aside
  · obtain same | ⟨added, reaches⟩ := list_run (orderly h src attempts)
    · exact Or.inl (after.trans same)
    · exact Or.inr ⟨h, src, attempts, after.trans added, reaches⟩
  · exact Or.inl same

theorem Happens.leads (aside : l.SendsAside list) {e : Event σ} {w w' : W}
    (happens : Happens l list e w w') (orderly : l.Orderly watch list e w) :
    l.session.Leads w w' := by
  obtain ⟨h, src, attempts, -, leads⟩ | ⟨-, -, leads⟩ := happens.cases aside
  · exact Registry.Leads.trans (leads_run (orderly h src attempts)) leads
  · exact leads

theorem Happens.mem_of_built (aside : l.SendsAside list) {e : Event σ} {w w' : W}
    (happens : Happens l list e w w') (orderly : l.Orderly watch list e w)
    (attached : (l.session.registry w).Attached l.session.table l.session.root watch)
    {src : Text} {out : Context σ} {left : W} (attempts : l.Attempts e h src)
    (ran : l.session.run h src w = (.ok out, left)) : h.filename ∈ list w' := by
  obtain ⟨h', src', attempts', after, -⟩ | ⟨idle, -⟩ := happens.cases aside
  · obtain ⟨rfl, rfl⟩ := attempts.unique attempts'
    rw [after, ran]
    exact mem_of_run_ok attached (orderly _ _ attempts) ran
  · exact absurd attempts (idle h src)

theorem Followed.next (aside : l.SendsAside list) {past : List (Event σ × W)} {w w' : W}
    (followed : Followed l watch list past w) {e : Event σ} (happens : Happens l list e w w')
    (orderly : l.Orderly watch list e w) : Followed l watch list (past ++ [(e, w)]) w' := by
  have step := happens.list_cases aside orderly
  have grown : (list w).Sublist (list w') := by
    obtain same | ⟨h, src, -, added, -⟩ := step
    · exact same ▸ List.Sublist.refl _
    · exact added ▸ WatchList.sublist_add _ _
  refine ⟨followed.attached.leads (happens.leads aside orderly), ?_, fun e' v member => ?_,
    fun e' v h src out left member attempts ran => ?_, fun f member => ?_⟩
  · obtain same | ⟨h, src, -, added, -⟩ := step
    · exact same ▸ followed.sorted
    · exact added ▸ WatchList.pairwise_add _ followed.sorted
  · obtain member | last := List.mem_append.mp member
    · exact (followed.grown e' v member).trans grown
    · cases List.mem_singleton.mp last
      exact grown
  · obtain member | last := List.mem_append.mp member
    · exact grown.subset (followed.built e' v h src out left member attempts ran)
    · cases List.mem_singleton.mp last
      exact happens.mem_of_built aside orderly followed.attached attempts ran
  · have old (among : f ∈ list w) : ∃ e' v h src, (e', v) ∈ past ++ [(e, w)] ∧
        l.Attempts e' h src ∧ l.session.Reaches h src v watch ∧ h.filename = f := by
      obtain ⟨e', v, h, src, member, rest⟩ := followed.reached f among
      exact ⟨e', v, h, src, List.mem_append_left _ member, rest⟩
    obtain same | ⟨h, src, attempts, added, reaches⟩ := step
    · exact old (same ▸ member)
    · rw [added] at member
      obtain rfl | member := WatchList.mem_add.mp member
      · exact ⟨e, w, h, src, List.mem_append_right _ List.mem_cons_self, attempts, reaches, rfl⟩
      · exact old member

theorem Course.followed (aside : l.SendsAside list) {r : Registry σ} {start w : W}
    {past : List (Event σ × W)} (attached : l.session.registry start = r.attach watch)
    (fresh : list start = []) (course : l.Course watch list start past w) :
    Followed l watch list past w := by
  induction course with
  | start =>
    refine ⟨attached ▸ .attach r, fresh ▸ List.Pairwise.nil, ?_, ?_, ?_⟩
    · exact fun e v member => absurd member List.not_mem_nil
    · exact fun e v h src out left member => absurd member List.not_mem_nil
    · exact fun f member => absurd (fresh ▸ member) List.not_mem_nil
  | next _ happens orderly ih => exact ih.next aside happens orderly

/-- After a server was attached with an empty list, whatever is run, turned into modules, sent and
asked for, without a reset: the list is in order and without repetitions, it has all that it ever
had, every run that answered did so under the identity of its handler, which has been on the list
since, and so has the file of every change that was sent; and each entry is the identity of a
handler whose run came to the stage of the server. -/
theorem watched_follow_runs (aside : l.SendsAside list) {r : Registry σ} {start w : W}
    {past : List (Event σ × W)} (attached : l.session.registry start = r.attach watch)
    (fresh : list start = []) (course : l.Course watch list start past w) :
    (list w).Pairwise (· < ·) ∧
      (∀ e v, (e, v) ∈ past → (list v).Sublist (list w)) ∧
      (∀ e v h src out left, (e, v) ∈ past → l.Attempts e h src →
        l.session.run h src v = (.ok out, left) →
          out.filename = h.filename ∧ h.filename ∈ list w) ∧
      (∀ files file v change after, (.notify files file, v) ∈ past →
        l.notify files file v = (.ok (some change), after) → change.uid ∈ list w) ∧
      ∀ f ∈ list w, ∃ e v h src, (e, v) ∈ past ∧ l.Attempts e h src ∧
        l.session.Reaches h src v watch ∧ h.filename = f := by
  obtain ⟨-, sorted, grown, built, reached⟩ := course.followed aside attached fresh
  have named {h : Handler σ} {src : Text} {v left : W} {out : Context σ}
      (ran : l.session.run h src v = (.ok out, left)) : out.filename = h.filename := by
    rw [Session.context_of_run ran]
    rfl
  refine ⟨sorted, grown, fun e v h src out left member attempts ran => ⟨named ran, ?_⟩,
    fun files file v change after member sent => ?_, reached⟩
  · exact built e v h src out left member attempts ran
  · obtain ⟨h, code, out, left, made, held, ran, rfl⟩ := run_of_notify sent
    exact named ran ▸ built _ v h code out left member (.notify ⟨made, held⟩) ran

/-- A stage in front of the server's own answers under another name, and one behind it refuses some
sources. A page whose run fails there is watched as well as one that is sent, each by its name. -/
theorem watched_follow_runs_renamed :
    let b : Conduct Nat WatchList :=
      { root := "/p".toList
        table := {}
        name := fun _ => "stage".toList
        stage := fun n ctx _ v =>
          match n with
          | 0 => ⟨[], .ok ctx, WatchList.add ctx.filename v⟩
          | 1 => ⟨[.enableLive], .ok ⟨{}, "other.html".toList, ctx.src ++ ['!']⟩, v⟩
          | _ => ⟨[], if ctx.src = "b!".toList then .error "no".toList else .ok ctx, v⟩
        minifier := fun _ src _ v => ⟨[], .ok src, v⟩ }
    let l : LiveServer Nat (Record Nat WatchList) :=
      ⟨b.session, fun _ w => (.ok (), w), some { matcher := some ⟨[], [], .empty⟩ }⟩
    let files : FileTree :=
      ⟨[(["p".toList], .directory), (["p".toList, "a.html".toList], .file "a".toList)]⟩
    let r : Registry Nat := { post := [1] }
    let h : Handler Nat := ⟨{}, "b.html".toList, [], []⟩
    let w₀ : Record Nat WatchList := ⟨r.attach 0, [], []⟩
    let w₁ : Record Nat WatchList :=
      { w₀ with registry := (w₀.registry.serve b.table b.root (.addPost [.direct 2])).2 }
    let w₂ := (b.session.run h "b".toList w₁).2
    let w₃ := (l.notify files "a.html".toList w₂).2
    w₃.kept = ["a.html".toList, "b.html".toList] ∧ w₂.kept.Sublist w₃.kept ∧
      (∃ change, (l.notify files "a.html".toList w₂).1 = .ok (some change) ∧
        change.uid ∈ w₃.kept) ∧
      (b.session.run h "b".toList w₁).1 = .error (.stage .post "stage".toList "no".toList) ∧
      ∃ e v h' src, l.Attempts e h' src ∧ l.session.Reaches h' src v 0 ∧
        h'.filename = "b.html".toList := by
  intro b l files r h w₀ w₁ w₂ w₃
  have watches : l.Watches 0 Record.kept := by
    refine ⟨fun ctx w => rfl, fun n other ctx w => ?_, fun options src w => rfl,
      fun n ctx w => ?_, fun options src w => .refl⟩
    · match n with
      | 0 => exact absurd rfl other
      | 1 | _ + 2 => rfl
    · match n with
      | 1 => exact .serve .refl fun same => by cases same
      | 0 | _ + 2 => exact .refl
  have aside : l.SendsAside Record.kept := fun m w => ⟨rfl, .refl⟩
  have asked : Happens l Record.kept (.ask (.addPost [.direct 2])) w₀ w₁ :=
    .ask (fun same => by cases same) rfl rfl
  have course : l.Course 0 Record.kept w₀ [] w₀ := .start
  replace course := course.next asked (watches.orderly _ _)
  replace course := course.next (.run h "b".toList w₁) (watches.orderly _ _)
  replace course := course.next (.notify files "a.html".toList w₂) (watches.orderly _ _)
  obtain ⟨-, grown, -, sent, reached⟩ := watched_follow_runs aside rfl rfl course
  have list : w₃.kept = ["a.html".toList, "b.html".toList] := by decide +kernel
  have failed : (b.session.run h "b".toList w₁).1 =
      .error (.stage .post "stage".toList "no".toList) := by decide +kernel
  have told : ∃ change after, l.notify files "a.html".toList w₂ = (.ok (some change), after) :=
    ⟨_, _, rfl⟩
  obtain ⟨change, after, told⟩ := told
  have last : (Event.notify files "a.html".toList, w₂) ∈ [(Event.ask (.addPost [.direct 2]), w₀),
      (.run h "b".toList, w₁), (.notify files "a.html".toList, w₂)] := by
    simp
  have longer : w₂.kept.Sublist w₃.kept := grown (.notify files "a.html".toList) w₂ last
  have answered : (l.notify files "a.html".toList w₂).1 = .ok (some change) := by rw [told]
  refine ⟨list, longer, ⟨change, answered, ?_⟩, failed, ?_⟩
  · exact sent files _ w₂ change after last told
  · obtain ⟨e, v, h', src, -, rest⟩ := reached "b.html".toList (by rw [list]; decide)
    exact ⟨e, v, h', src, rest⟩

end LiveServer
end LiveMarkup
