import LiveMarkup.Proofs.Registry.Adoption
import LiveMarkup.Proofs.Workspace.Sessions
import Mathlib.Data.List.DropRight

/-!
What a registry holds, told from what it was asked for. Sessions of one project share a registry, so
it counts what was asked for through any of them, and nothing that was asked for elsewhere.

* `Registry.Told`, `Told.serve`: a registry follows from the requests since its last reset;
* `Workspace.Lineage`, `Workspace.heard`: which requests are made to one project, by the names of
  the sessions alone;
* `Workspace.session_told`: what a session finds in its registry, and when it is refused.
-/

namespace LiveMarkup

variable {σ : Type}

namespace StageTable

/-- The stage that a reference stands for at the root. -/
def stage? (t : StageTable σ) (root : Text) (ref : StageRef σ) : Option σ :=
  (t.resolveRef root root ref).toOption

/-- The stages that a list of references is good for: one for each reference, but none at all if a
reference in it stands for no stage. -/
def granted (t : StageTable σ) (root : Text) (refs : List (StageRef σ)) : List σ :=
  if refs.all fun ref => (t.stage? root ref).isSome then refs.filterMap (t.stage? root) else []

variable {t : StageTable σ} {root : Text} {refs : List (StageRef σ)}

theorem granted_of_resolves {stages : List σ} (resolves : t.Resolves root root refs stages) :
    t.granted root refs = stages := by
  have each : (refs.all fun ref => (t.stage? root ref).isSome) = true ∧
      refs.filterMap (t.stage? root) = stages := by
    induction resolves with
    | nil => exact ⟨rfl, rfl⟩
    | cons found _ ih =>
      have stands : t.stage? root _ = some _ := congrArg Except.toOption found
      simp [stands, ih.1, ih.2]
  rw [granted, if_pos each.1, each.2]

theorem Resolves.of_mem {stages : List σ} (resolves : t.Resolves root root refs stages)
    {ref : StageRef σ} (member : ref ∈ refs) : ∃ s, t.resolveRef root root ref = .ok s := by
  induction resolves with
  | nil => cases member
  | cons found _ ih =>
    rcases List.mem_cons.mp member with rfl | member
    · exact ⟨_, found⟩
    · exact ih member

theorem granted_of_fails {e : Failure} (fails : t.Fails root root refs e) :
    t.granted root refs = [] := by
  obtain ⟨before, ref, after, stages, rfl, -, failed⟩ := fails
  have none : t.stage? root ref = none := congrArg Except.toOption failed
  rw [granted, if_neg (by simp [none])]

theorem exists_resolveAll_ok (stand : ∀ ref ∈ refs, (t.stage? root ref).isSome) :
    ∃ stages, t.resolveAll root root refs = .ok stages := by
  cases resolved : t.resolveAll root root refs with
  | ok stages => exact ⟨stages, rfl⟩
  | error e =>
    obtain ⟨before, ref, after, stages, split, -, failed⟩ := resolveAll_eq_error.mp resolved
    have none : t.stage? root ref = none := congrArg Except.toOption failed
    have stands := stand ref (by simp [split])
    rw [none] at stands
    cases stands

theorem exists_resolveAll_error {ref : StageRef σ} (member : ref ∈ refs)
    (none : t.stage? root ref = none) : ∃ e, t.resolveAll root root refs = .error e := by
  cases resolved : t.resolveAll root root refs with
  | error e => exact ⟨e, rfl⟩
  | ok stages =>
    obtain ⟨s, found⟩ := (resolveAll_eq_ok.mp resolved).of_mem member
    rw [stage?, found] at none
    cases none

end StageTable

namespace Registry

namespace Request

@[simp] def isReset : Request σ → Bool
  | reset => true
  | _ => false

/-- The stages that a request puts before the processors. -/
@[simp] def before (table : StageTable σ) (root : Text) : Request σ → List σ
  | addPre refs => table.granted root refs
  | _ => []

/-- The stages that a request puts behind the processors. -/
@[simp] def behind (table : StageTable σ) (root : Text) : Request σ → List σ
  | addPost refs => table.granted root refs
  | _ => []

@[simp] def minify? : Request σ → Option MinifySetting
  | configure patch => patch.minify
  | _ => none

@[simp] def sourcemap? : Request σ → Option Bool
  | configure patch => patch.sourcemap
  | _ => none

end Request

/-- The requests after the last reset. -/
def sinceReset (requests : List (Request σ)) : List (Request σ) :=
  requests.rtakeWhile (! ·.isReset)

/-- What a registry holds when it was asked for all this. -/
structure Told (table : StageTable σ) (root : Text) (requests : List (Request σ))
    (r : Registry σ) : Prop where
  pre : r.pre = (sinceReset requests).flatMap (Request.before table root)
  post : r.post = (sinceReset requests).flatMap (Request.behind table root)
  minify : r.settings.minify =
    ((sinceReset requests).filterMap Request.minify?).getLast?.getD ({} : Settings).minify
  sourcemap : r.settings.sourcemap =
    ((sinceReset requests).filterMap Request.sourcemap?).getLast?.getD ({} : Settings).sourcemap
  live : r.live = true ↔ .enableLive ∈ sinceReset requests

variable {table : StageTable σ} {root : Text} {r : Registry σ}

theorem serve_addPre (refs : List (StageRef σ)) :
    (r.serve table root (.addPre refs)).2 = { r with pre := r.pre ++ table.granted root refs } := by
  cases resolved : table.resolveAll root root refs with
  | ok stages =>
    rw [StageTable.granted_of_resolves (StageTable.resolveAll_eq_ok.mp resolved)]
    simp [serve, addPre, resolved]
  | error e =>
    rw [StageTable.granted_of_fails (StageTable.resolveAll_eq_error.mp resolved)]
    simp [serve, addPre, resolved]

theorem serve_addPost (refs : List (StageRef σ)) :
    (r.serve table root (.addPost refs)).2 =
      { r with post := r.post ++ table.granted root refs } := by
  cases resolved : table.resolveAll root root refs with
  | ok stages =>
    rw [StageTable.granted_of_resolves (StageTable.resolveAll_eq_ok.mp resolved)]
    simp [serve, addPost, resolved]
  | error e =>
    rw [StageTable.granted_of_fails (StageTable.resolveAll_eq_error.mp resolved)]
    simp [serve, addPost, resolved]

theorem sinceReset_concat (requests : List (Request σ)) (request : Request σ) :
    sinceReset (requests ++ [request]) =
      if request.isReset then [] else sinceReset requests ++ [request] := by
  rw [sinceReset, List.rtakeWhile_concat]
  cases request.isReset <;> rfl

namespace Told

theorem new : Told table root [] {} :=
  ⟨rfl, rfl, rfl, rfl, by simp [sinceReset]⟩

theorem serve {requests : List (Request σ)} (told : Told table root requests r)
    (request : Request σ) :
    Told table root (requests ++ [request]) (r.serve table root request).2 := by
  have since := sinceReset_concat requests request
  obtain ⟨pre, post, minify, sourcemap, live⟩ := told
  cases request with
  | reset =>
    rw [Request.isReset, if_pos rfl] at since
    constructor <;> simp [since, Registry.serve]
  | addPre refs =>
    rw [serve_addPre]
    constructor <;> simp [since, pre, post, minify, sourcemap, live]
  | addPost refs =>
    rw [serve_addPost]
    constructor <;> simp [since, pre, post, minify, sourcemap, live]
  | configure patch =>
    have merged : (r.serve table root (.configure patch)).2 = r.configure patch := rfl
    rw [merged]
    obtain ⟨minify', sourcemap'⟩ := patch
    constructor <;> cases minify' <;> cases sourcemap' <;>
      simp [since, configure, Settings.merge, pre, post, minify, sourcemap, live]
  | enableLive =>
    have enabled : (r.serve table root .enableLive).2 = r.enableLive := rfl
    rw [enabled]
    constructor <;> simp [since, Registry.enableLive, pre, post, minify, sourcemap]
  | settings | isLive | stages =>
    constructor <;> simp [since, Registry.serve, pre, post, minify, sourcemap, live]

end Told
end Registry

namespace Workspace

/-- What is done with sessions: a session is opened on a project of its own, with a stage table of
its own, it is shared under another name, and its registry is asked for something. -/
inductive Event where
  | opened (name root : Text) (table : StageTable Stage) (minify : MinifyTool)
  | shared (session name : Text)
  | asked (session : Text) (request : Registry.Request Stage)

def enter (ws : Workspace) : Event → Workspace
  | .opened name root table minify =>
    ((openSession name root minify : Op Text) { ws with table }).2
  | .shared session name => ((shareSession session name : Op Unit) ws).2
  | .asked session request => ((ask session request : Op (Registry.Reply Stage)) ws).2

/-- Where sessions come from: the roots and the tables with which projects were opened, in order,
and for the name of a session the opening that it goes back to. -/
structure Lineage where
  openings : List (Text × StageTable Stage) := []
  of : Text → Option Nat := fun _ => none

namespace Lineage

/-- Lets a name go back to an opening. -/
def give (l : Lineage) (name : Text) (n : Nat) : Lineage :=
  { l with of := fun other => if other = name then some n else l.of other }

def enter (l : Lineage) : Event → Lineage
  | .opened name root table _ =>
    { l.give name l.openings.length with openings := l.openings ++ [(Path.clean root, table)] }
  | .shared session name =>
    match l.of session with
    | some n => l.give name n
    | none => l
  | .asked _ _ => l

/-- What an event asks of the project that was opened as the `n`-th. -/
def heard (l : Lineage) (n : Nat) : Event → List (Registry.Request Stage)
  | .asked session request => if l.of session = some n then [request] else []
  | _ => []

end Lineage

/-- What was asked of one project, through whichever of its sessions. -/
def heard (n : Nat) : Lineage → List Event → List (Registry.Request Stage)
  | _, [] => []
  | l, e :: events => l.heard n e ++ heard n (l.enter e) events

/-- A workspace in which the sessions go back to their openings, and the projects were asked for
what they were told. -/
structure Recalls (l : Lineage) (told : Nat → List (Registry.Request Stage))
    (ws : Workspace) : Prop where
  sessions : ∀ name, ws.world.sessions.get? name = l.of name
  projects : ws.world.projects.length = l.openings.length
  opened : ∀ name n, l.of name = some n → n < l.openings.length
  untold : ∀ n, l.openings.length ≤ n → told n = []
  project : ∀ n p, ws.world.projects[n]? = some p →
    l.openings[n]? = some (p.root, p.table) ∧ Registry.Told p.table p.root (told n) p.registry

namespace Recalls

variable {l : Lineage} {told : Nat → List (Registry.Request Stage)} {ws : Workspace}

theorem new : Recalls {} (fun _ => []) {} where
  sessions _ := rfl
  projects := rfl
  opened _ _ known := by cases known
  untold _ _ := rfl
  project _ _ found := by cases found

/-- A session has a project. -/
theorem exists_project (recalls : Recalls l told ws) {name : Text} {n : Nat}
    (known : l.of name = some n) : ∃ p, ws.world.projects[n]? = some p := by
  have within : n < ws.world.projects.length := recalls.projects ▸ recalls.opened name n known
  exact ⟨_, List.getElem?_eq_getElem within⟩

theorem open_session (recalls : Recalls l told ws) (name root : Text) (table : StageTable Stage)
    (minify : MinifyTool) :
    Recalls (l.enter (.opened name root table minify)) told
      (ws.enter (.opened name root table minify)) := by
  let p : Project := { root := Path.clean root, table, minify }
  have world : (ws.enter (.opened name root table minify)).world =
      { ws.world with
        projects := ws.world.projects ++ [p]
        sessions := ws.world.sessions.give name ws.world.projects.length } := rfl
  have openings : (l.enter (.opened name root table minify)).openings =
      l.openings ++ [(p.root, p.table)] := rfl
  constructor
  · intro other
    rw [world, Naming.get?_give, recalls.sessions, recalls.projects]
    rfl
  · rw [world, openings, List.length_append, List.length_append, recalls.projects]
    rfl
  · intro other n known
    rw [openings, List.length_append, List.length_singleton]
    simp only [Lineage.enter, Lineage.give] at known
    split at known
    · cases known
      exact Nat.lt_succ_self _
    · exact Nat.lt_succ_of_lt (recalls.opened other n known)
  · intro n beyond
    rw [openings, List.length_append] at beyond
    exact recalls.untold n (Nat.le_trans (Nat.le_add_right ..) beyond)
  · intro n q found
    rw [world, List.getElem?_append] at found
    rw [openings, List.getElem?_append, ← recalls.projects]
    split at found
    · rename_i before
      rw [if_pos before]
      exact recalls.project n q found
    · rename_i behind
      have last : n - ws.world.projects.length = 0 := by
        obtain ⟨bound, -⟩ := List.getElem?_eq_some_iff.mp found
        exact Nat.lt_one_iff.mp bound
      rw [last] at found
      rw [if_neg behind, last, recalls.untold n (recalls.projects ▸ Nat.le_of_not_lt behind)]
      cases found
      exact ⟨rfl, .new⟩

theorem share_session (recalls : Recalls l told ws) (session name : Text) :
    Recalls (l.enter (.shared session name)) told (ws.enter (.shared session name)) := by
  cases known : l.of session with
  | none =>
    have shared : ws.enter (.shared session name) = ws := by
      rw [Workspace.enter, shareSession_of_unknown ((recalls.sessions session).trans known)]
    have same : l.enter (.shared session name) = l := by
      rw [Lineage.enter, known]
    rw [shared, same]
    exact recalls
  | some n =>
    have shared : ws.enter (.shared session name) = { ws with
        world := { ws.world with sessions := ws.world.sessions.give name n } } := by
      rw [Workspace.enter, shareSession_of_known ((recalls.sessions session).trans known)]
    have given : l.enter (.shared session name) = l.give name n := by
      rw [Lineage.enter, known]
    rw [shared, given]
    refine ⟨?_, recalls.projects, ?_, recalls.untold, recalls.project⟩
    · intro other
      rw [Naming.get?_give, recalls.sessions]
      rfl
    · intro other m found
      simp only [Lineage.give] at found
      split at found
      · cases found
        exact recalls.opened session n known
      · exact recalls.opened other m found

/-- What a session asks for is told to its project alone. -/
theorem ask_session (recalls : Recalls l told ws) (session : Text)
    (request : Registry.Request Stage) :
    Recalls l (fun n => told n ++ l.heard n (.asked session request))
      (ws.enter (.asked session request)) := by
  cases known : l.of session with
  | none =>
    have asked : ws.enter (.asked session request) = ws := by
      rw [Workspace.enter, ask_of_unknown ((recalls.sessions session).trans known)]
    have silent (n : Nat) : told n ++ l.heard n (.asked session request) = told n := by
      simp [Lineage.heard, known]
    simp only [asked, silent]
    exact recalls
  | some here =>
    obtain ⟨p, found⟩ := recalls.exists_project known
    let r := (p.registry.serve p.table p.root request).2
    have asked : ws.enter (.asked session request) =
        { ws with world := ws.world.setRegistry here r } := by
      rw [Workspace.enter, ask_of_known ((recalls.sessions session).trans known) found]
    have heard (n : Nat) : l.heard n (.asked session request) =
        if here = n then [request] else [] := by
      simp [Lineage.heard, known]
    rw [asked]
    refine ⟨recalls.sessions, ?_, recalls.opened, ?_, ?_⟩
    · rw [← recalls.projects]
      exact List.length_modify ..
    · intro n beyond
      have within := recalls.opened session here known
      have other : here ≠ n := Nat.ne_of_lt (Nat.lt_of_lt_of_le within beyond)
      rw [recalls.untold n beyond, heard, if_neg other]
      rfl
    · intro n q made
      rw [World.projects_setRegistry] at made
      rw [heard]
      split at made
      · rename_i same
        subst same
        rw [found] at made
        cases made
        obtain ⟨opened, before⟩ := recalls.project here p found
        rw [if_pos rfl]
        exact ⟨opened, before.serve request⟩
      · rename_i other
        rw [if_neg other, List.append_nil]
        exact recalls.project n q made

theorem enter (recalls : Recalls l told ws) (e : Event) :
    Recalls (l.enter e) (fun n => told n ++ l.heard n e) (ws.enter e) := by
  cases e with
  | opened name root table minify =>
    simp only [Lineage.heard, List.append_nil]
    exact recalls.open_session name root table minify
  | shared session name =>
    simp only [Lineage.heard, List.append_nil]
    exact recalls.share_session session name
  | asked session request => exact recalls.ask_session session request

theorem enter_all (recalls : Recalls l told ws) (events : List Event) :
    Recalls (events.foldl Lineage.enter l) (fun n => told n ++ Workspace.heard n l events)
      (events.foldl Workspace.enter ws) := by
  induction events generalizing l told ws with
  | nil =>
    simp only [Workspace.heard, List.append_nil]
    exact recalls
  | cons e events ih =>
    have later := ih (recalls.enter e)
    simp only [List.append_assoc] at later
    exact later

end Recalls

/-- What a session finds in its registry is what was asked for through it, and through the sessions
that share its project, since the last reset. A list of stages with a reference that stands for none
is refused and changes nothing, and any other list is taken. -/
theorem session_told (events : List Event) {name : Text} {n : Nat}
    (known : (events.foldl Lineage.enter {}).of name = some n) :
    let ws := events.foldl enter {}
    ∃ root table r, (events.foldl Lineage.enter {}).openings[n]? = some (root, table) ∧
      ws.world.registry n = r ∧ Registry.Told table root (heard n {} events) r ∧
      ask name .stages ws = (.ok (.stages r.pre r.post), ws) ∧
      ask name .settings ws = (.ok (.settings r.settings), ws) ∧
      ask name .isLive ws = (.ok (.live r.live), ws) ∧
      ∀ refs : List (StageRef Stage),
        ((∀ ref ∈ refs, (table.stage? root ref).isSome) →
          (ask name (.addPre refs) ws).1 = .ok .done ∧
            (ask name (.addPost refs) ws).1 = .ok .done) ∧
        ∀ ref ∈ refs, table.stage? root ref = none →
          ∃ e, ask name (.addPre refs) ws = (.error (.failed e), ws) ∧
            ask name (.addPost refs) ws = (.error (.failed e), ws) := by
  intro ws
  have recalls : Recalls _ _ ws := Recalls.new.enter_all events
  simp only [List.nil_append] at recalls
  obtain ⟨p, found⟩ := recalls.exists_project known
  obtain ⟨opened, told⟩ := recalls.project n p found
  have registered : ws.world.setRegistry n p.registry = ws.world := World.setRegistry_self found
  -- A request that leaves the registry as it is leaves everything as it is.
  have asked (request : Registry.Request Stage) (reply : Registry.Reply Stage)
      (served : p.registry.serve p.table p.root request = (reply, p.registry)) :
      ask name request ws = (answer reply, ws) := by
    rw [ask_of_known ((recalls.sessions name).trans known) found, served, registered]
  refine ⟨p.root, p.table, p.registry, opened, World.registry_of_project found, told,
    asked .stages (.stages _ _) rfl, asked .settings (.settings _) rfl,
    asked .isLive (.live _) rfl, fun refs => ⟨fun stand => ?_, fun ref member none => ?_⟩⟩
  · obtain ⟨stages, resolved⟩ := StageTable.exists_resolveAll_ok stand
    constructor <;> rw [ask_of_known ((recalls.sessions name).trans known) found] <;>
      simp [Registry.serve, Registry.addPre, Registry.addPost, resolved, answer]
  · obtain ⟨e, resolved⟩ := StageTable.exists_resolveAll_error member none
    refine ⟨e, asked (.addPre refs) (.failed e) ?_, asked (.addPost refs) (.failed e) ?_⟩
    · simp [Registry.serve, Registry.addPre, resolved]
    · simp [Registry.serve, Registry.addPost, resolved]

/-- Two sessions share a project and a third has its own. A list that names a stage that is not
there is refused, a patch leaves out what an earlier one gave, and what was asked for before the
reset does not count. -/
theorem shared_session_told :
    let trim : StageRef Stage := .named "trim".toList
    let missing : StageRef Stage := .named "missing".toList
    let events : List Event :=
      [.opened ['a'] "/p".toList Stage.builtins .basic, .shared ['a'] ['b'],
        .opened ['c'] "/p".toList Stage.builtins .basic, .asked ['a'] (.addPost [trim]),
        .asked ['b'] .reset, .asked ['a'] (.addPre [trim]), .asked ['c'] (.addPre [trim, trim]),
        .asked ['b'] (.addPre [trim, missing]),
        .asked ['b'] (.configure { minify := some (.enabled true) }),
        .asked ['a'] (.configure { sourcemap := some false }), .asked ['c'] .enableLive]
    let ws := events.foldl enter {}
    (events.foldl Lineage.enter {}).of ['b'] = some 0 ∧
      ask ['b'] .stages ws = (.ok (.stages [Stage.trim] []), ws) ∧
      ask ['b'] .settings ws = (.ok (.settings ⟨.enabled true, false⟩), ws) ∧
      ask ['b'] .isLive ws = (.ok (.live false), ws) ∧
      ∃ e, ask ['b'] (.addPost [trim, missing]) ws = (.error (.failed e), ws) := by
  intro trim missing events ws
  have known : (events.foldl Lineage.enter {}).of ['b'] = some 0 := rfl
  obtain ⟨root, table, r, opened, -, told, stages, settings, live, refused⟩ :=
    session_told events known
  cases opened
  have since : Registry.sinceReset (heard 0 {} events) =
      [.addPre [trim], .addPre [trim, missing], .configure { minify := some (.enabled true) },
        .configure { sourcemap := some false }] := rfl
  have pre : r.pre = [Stage.trim] := told.pre.trans (since ▸ rfl)
  have post : r.post = [] := told.post.trans (since ▸ rfl)
  have minify : r.settings.minify = .enabled true := told.minify.trans (since ▸ rfl)
  have sourcemap : r.settings.sourcemap = false := told.sourcemap.trans (since ▸ rfl)
  have off : r.live = false := by
    rw [← Bool.not_eq_true, told.live, since]
    simp
  rw [pre, post] at stages
  rw [off] at live
  have both : r.settings = ⟨.enabled true, false⟩ := by
    rw [← minify, ← sourcemap]
  rw [both] at settings
  obtain ⟨e, -, kept⟩ := (refused [trim, missing]).2 missing (by simp) rfl
  exact ⟨known, stages, settings, live, e, kept⟩

end Workspace
end LiveMarkup
