import LiveMarkup.Proofs.Live.Watching
import LiveMarkup.Proofs.Workspace.Sessions

/-!
The watch list of a server in a workspace. The stage of the server puts on it what it is given, and
stages that are written for other ends leave it alone.

* `World.watched_run_watch`: what the stage of a server does;
* `World.session_orderly`: runs of such stages are orderly, in every world that has the list.
-/

namespace LiveMarkup

/-- Stages that add nothing to a watch list and ask for no reset. -/
def Stage.Spares (k : Nat) : Stage → Prop
  | mk _ _ act => act ≠ .watch k ∧
    ∀ requests, act = .ask requests → ∀ request ∈ requests, request.2 ≠ .reset

namespace World

/-- The files on a watch list. -/
def watched (k : Nat) (w : World) : WatchList :=
  w.watchLists.getD k []

/-- A world with a watch list in it, and with a project as its sessions know it. -/
structure Hosts (k n : Nat) (p : Project) (w : World) : Prop where
  list : k < w.watchLists.length
  project : ∃ q, w.projects[n]? = some q ∧ q.table = p.table ∧ q.root = p.root

/-- One world leaves a watch list to another as it is, and does not reset the registry. -/
structure Spared (k n : Nat) (p : Project) (w w' : World) : Prop where
  lists : w'.watched k = w.watched k
  hosts : w'.Hosts k n p
  leads : Registry.Leads p.table p.root (w.registry n) (w'.registry n)

variable {k n : Nat} {p : Project} {w w' w'' : World}

theorem Spared.trans (first : Spared k n p w w') (second : Spared k n p w' w'') :
    Spared k n p w w'' where
  lists := second.lists.trans first.lists
  hosts := second.hosts
  leads := first.leads.trans second.leads

/-- Whatever else of a world changes, it is spared. -/
theorem Spared.of_eq (hosts : w.Hosts k n p) (lists : w'.watchLists = w.watchLists)
    (projects : w'.projects = w.projects) : Spared k n p w w' where
  lists := congrArg (·.getD k []) lists
  hosts := ⟨lists ▸ hosts.list, projects ▸ hosts.project⟩
  leads := by
    have same : w'.registry n = w.registry n := by rw [registry, registry, projects]
    exact same ▸ .refl

/-- The stage of a server puts the file that it is given on the list. -/
theorem watched_run_watch (list : k < w.watchLists.length) (ctx : Context Stage) :
    ((Stage.watch k).run ctx w).2.watched k = WatchList.add ctx.filename (w.watched k) := by
  change (w.watchLists.modify k (WatchList.add ctx.filename)).getD k [] = _
  rw [watched, List.getD_eq_getElem?_getD, List.getD_eq_getElem?_getD, List.getElem?_modify_eq,
    List.getElem?_eq_getElem list]
  rfl

theorem spared_setRegistry (hosts : w.Hosts k n p) {request : Registry.Request Stage}
    (kept : request ≠ .reset) {m : Nat} {q : Project} (found : w.projects[m]? = some q) :
    Spared k n p w (w.setRegistry m (q.registry.serve q.table q.root request).2) := by
  obtain ⟨list, own, here, table, root⟩ := hosts
  by_cases same : m = n
  · subst same
    obtain rfl : q = own := Option.some.inj (found.symm.trans here)
    have after : (w.setRegistry m (q.registry.serve q.table q.root request).2).projects[m]? =
        some { q with registry := (q.registry.serve q.table q.root request).2 } := by
      rw [projects_setRegistry, if_pos rfl, found]
      rfl
    refine ⟨rfl, ⟨list, _, after, table, root⟩, ?_⟩
    rw [registry_of_project found, registry_of_project after, ← table, ← root]
    exact .serve .refl kept
  · have after : (w.setRegistry m (q.registry.serve q.table q.root request).2).projects[n]? =
        some own := by
      rw [projects_setRegistry, if_neg same, here]
    refine ⟨rfl, ⟨list, own, after, table, root⟩, ?_⟩
    rw [registry_of_project here, registry_of_project after]
    exact .refl

theorem spared_tell (hosts : w.Hosts k n p) {request : Text × Registry.Request Stage}
    (kept : request.2 ≠ .reset) : Spared k n p w (w.tell request) := by
  obtain ⟨name, request⟩ := request
  rw [tell]
  cases w.sessions.get? name with
  | none => exact .of_eq hosts rfl rfl
  | some m =>
    dsimp only [ask]
    cases found : w.projects[m]? with
    | none => exact .of_eq hosts rfl rfl
    | some q => exact spared_setRegistry hosts kept found

theorem spared_foldl_tell {requests : List (Text × Registry.Request Stage)}
    (hosts : w.Hosts k n p) (kept : ∀ request ∈ requests, request.2 ≠ .reset) :
    Spared k n p w (requests.foldl tell w) := by
  induction requests generalizing w with
  | nil => exact .of_eq hosts rfl rfl
  | cons request requests ih =>
    have first := spared_tell hosts (kept request List.mem_cons_self)
    exact first.trans (ih first.hosts fun r member => kept r (List.mem_cons_of_mem _ member))

theorem spared_act {act : Act Stage} (hosts : w.Hosts k n p) (other : act ≠ .watch k)
    (kept : ∀ requests, act = .ask requests → ∀ request ∈ requests, request.2 ≠ .reset)
    (ctx : Context Stage) : Spared k n p w (act.run ctx w).2 := by
  cases act with
  | watch j =>
    have apart : j ≠ k := fun same => other (congrArg _ same)
    refine ⟨?_, ⟨?_, hosts.project⟩, .refl⟩
    · change (w.watchLists.modify j _).getD k [] = _
      rw [watched, List.getD_eq_getElem?_getD, List.getD_eq_getElem?_getD,
        List.getElem?_modify_ne _ _ apart]
    · exact (List.length_modify ..).symm ▸ hosts.list
  | ask requests => exact spared_foldl_tell hosts (kept requests rfl)
  | failIf piece message =>
    rw [Act.run]
    split <;> exact .of_eq hosts rfl rfl
  | trim | stripComments | keep | append | prepend | const | replace | upper | banner | rename
  | fail | probe => exact .of_eq hosts rfl rfl

/-- Stages that spare a watch list do so in every call. -/
theorem spared_run {stage : Stage} (spares : stage.Spares k) (hosts : w.Hosts k n p)
    (ctx : Context Stage) : Spared k n p w (stage.run ctx w).2 := by
  obtain ⟨name, noted, act⟩ := stage
  have begun : Spared k n p w (if noted then w.note (.stage name ctx.filename ctx.src) else w) := by
    split <;> exact .of_eq hosts rfl rfl
  exact begun.trans (spared_act begun.hosts spares.1 spares.2 ctx)

theorem spared_minifier (hosts : w.Hosts k n p) (options : MinifyOptions) (src : Text) :
    Spared k n p w ((session n p).minifier options src w).2 := by
  change Spared k n p w (p.minify.run options src w).2
  cases p.minify <;> exact .of_eq hosts rfl rfl

theorem hosts_run_watch (hosts : w.Hosts k n p) (ctx : Context Stage) :
    ((Stage.watch k).run ctx w).2.Hosts k n p :=
  ⟨(List.length_modify ..).symm ▸ hosts.list, hosts.project⟩

/-- Turns of the minifier, of the stage that a server has for a watch list, and of stages that spare
the list. -/
def Heeds (k : Nat) : Turn Stage → Prop
  | .stage _ stage => stage = Stage.watch k ∨ stage.Spares k
  | .minifier _ => True

variable {send : Change → Run World Unit} {config : Option (FileConfig Stage)}
variable {h : Handler Stage} {t : Turn Stage} {ts : List (Turn Stage)} {src : Text}

theorem hosts_turn (h : Handler Stage) (src : Text) (heeds : Heeds k t) (hosts : w.Hosts k n p) :
    ((session n p).turn h src t w).2.Hosts k n p := by
  cases t with
  | minifier options => exact (spared_minifier hosts options src).hosts
  | stage phase stage =>
    obtain rfl | spares := heeds
    · exact hosts_run_watch hosts (h.context src)
    · exact (spared_run spares hosts (h.context src)).hosts

theorem hosts_take (h : Handler Stage) (src : Text) (heeds : ∀ t ∈ ts, Heeds k t)
    (hosts : w.Hosts k n p) :
    ((session n p).take h ts src w).2.Hosts k n p := by
  induction ts generalizing src w with
  | nil => exact hosts
  | cons t ts ih =>
    have first := hosts_turn h src (heeds t List.mem_cons_self) hosts
    cases turned : (session n p).turn h src t w with | mk answer w' =>
    rw [turned] at first
    cases answer with
    | error message =>
      rw [Session.take_cons_error turned]
      exact first
    | ok out =>
      rw [Session.take_cons_ok turned]
      exact ih out (fun t member => heeds t (List.mem_cons_of_mem _ member)) first

/-- Where the list and the project are, such turns mind the list and the registry. -/
theorem minds_turn (heeds : Heeds k t) (hosts : w.Hosts k n p) :
    LiveServer.Minds ⟨session n p, send, config⟩ (Stage.watch k) (watched k) h t w
      ((session n p).turn h src t w).2 := by
  cases t with
  | minifier options =>
    have spared := spared_minifier hosts options src
    exact ⟨fun phase same => (by cases same), fun _ => spared.lists, spared.leads⟩
  | stage phase stage =>
    obtain rfl | spares := heeds
    · refine ⟨fun _ _ => watched_run_watch hosts.list (h.context src), fun other => ?_, .refl⟩
      exact absurd rfl (other phase)
    · have spared := spared_run spares hosts (h.context src)
      refine ⟨fun phase' same => ?_, fun _ => spared.lists, spared.leads⟩
      cases same
      exact absurd rfl spares.1

/-- An event whose turns heed the watch list is orderly, in any world that has the list and the
project. -/
theorem session_orderly (hosts : w.Hosts k n p) {e : LiveServer.Event Stage}
    (heed : ∀ h src, LiveServer.Attempts ⟨session n p, send, config⟩ e h src →
      ∀ t ∈ (session n p).due h src w, Heeds k t) :
    LiveServer.Orderly ⟨session n p, send, config⟩ (Stage.watch k) (watched k) e w := by
  intro h src attempts earlier t later out left split taken
  have heeds := heed h src attempts
  change (session n p).due h src w = _ at split
  change (session n p).take h earlier src w = _ at taken
  rw [split] at heeds
  have begun : left.Hosts k n p := by
    have kept := hosts_take h src (fun t member => heeds t (List.mem_append_left _ member)) hosts
    rwa [taken] at kept
  exact minds_turn (heeds t (List.mem_append_right _ List.mem_cons_self)) begun

end World

namespace Workspace

/-- The servers of a workspace send aside of all watch lists. -/
theorem liveServer_sendsAside {s : Server} {l : LiveServer Stage World} {ws ws' : Workspace}
    (made : liveServer s ws = (.ok l, ws')) (k : Nat) : l.SendsAside (World.watched k) := by
  rw [liveServer, get_bind] at made
  cases found : ws.world.projects[s.project]? with
  | none =>
    rw [found] at made
    cases made
  | some p =>
    rw [found] at made
    cases made
    exact fun m w => ⟨rfl, .refl⟩

end Workspace
end LiveMarkup
