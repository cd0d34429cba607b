import LiveMarkup.Proofs.Handler.Inherited
import LiveMarkup.Workspace.World

/-!
What the stages of a workspace go by. They act on the registries of the projects that the names of
sessions stand for, and neither what they answer nor what they ask for depends on whether a project
is live.

* `World.inSight`: what there is to go by;
* `World.inSight_tell`: what a request leaves to go by;
* `World.session_governed`: stages and minifiers go by nothing else.
-/

namespace LiveMarkup

/-- What a request leaves is the same, apart from that, whether the project is live or not. -/
theorem Registry.serve_enableLive {σ : Type} (table : StageTable σ) (root : Text) (r : Registry σ)
    (request : Request σ) :
    (r.enableLive.serve table root request).2.enableLive =
      (r.serve table root request).2.enableLive := by
  cases request with
  | addPre refs =>
    rw [serve, serve, addPre, addPre]
    cases table.resolveAll root root refs <;> rfl
  | addPost refs =>
    rw [serve, serve, addPost, addPost]
    cases table.resolveAll root root refs <;> rfl
  | configure | reset | enableLive | settings | isLive | stages => rfl

/-- A project as it is when it is live. -/
def Project.lit (p : Project) : Project :=
  { p with registry := p.registry.enableLive }

namespace World

open Session

/-- What stages go by: the names of the sessions, and the projects as if all were live. -/
def inSight (w : World) : Naming Nat × List Project :=
  (w.sessions, w.projects.map Project.lit)

variable {w w' : World}

/-- Where the same is in sight, there are the same projects, apart from whether they are live. -/
theorem project_inSight (same : w'.inSight = w.inSight) (n : Nat) :
    w'.projects[n]? = none ∧ w.projects[n]? = none ∨
      ∃ p' p, w'.projects[n]? = some p' ∧ w.projects[n]? = some p ∧ p'.lit = p.lit := by
  have projects := congrArg (fun sight => sight.2[n]?) same
  simp only [inSight, List.getElem?_map] at projects
  cases there : w'.projects[n]? with
  | none =>
    rw [there, Option.map_none, eq_comm, Option.map_eq_none_iff] at projects
    exact Or.inl ⟨rfl, projects⟩
  | some p' =>
    rw [there, Option.map_some, eq_comm, Option.map_eq_some_iff] at projects
    obtain ⟨p, here, alike⟩ := projects
    exact Or.inr ⟨p', p, rfl, here, alike.symm⟩

theorem registry_inSight (same : w'.inSight = w.inSight) (n : Nat) :
    (w'.registry n).enableLive = (w.registry n).enableLive := by
  unfold registry
  obtain ⟨there, here⟩ | ⟨p', p, there, here, alike⟩ := project_inSight same n
  · rw [there, here]
  · rw [there, here]
    exact congrArg Project.registry alike

theorem inSight_setRegistry (n : Nat) (r : Registry Stage) (w : World) :
    (w.setRegistry n r).inSight =
      (w.inSight.1, w.inSight.2.modify n fun p => { p with registry := r.enableLive }) := by
  refine Prod.ext rfl (List.ext_getElem? fun m => ?_)
  simp only [inSight, setRegistry, List.getElem?_map, List.getElem?_modify]
  cases w.projects[m]? with
  | none => rfl
  | some p => split <;> rfl

theorem inSight_tell (same : w'.inSight = w.inSight) (request : Text × Registry.Request Stage) :
    (w'.tell request).inSight = (w.tell request).inSight := by
  obtain ⟨name, request⟩ := request
  have sessions : w'.sessions = w.sessions := congrArg Prod.fst same
  rw [tell, tell, sessions]
  cases w.sessions.get? name with
  | none => exact same
  | some n =>
    dsimp only [ask]
    obtain ⟨there, here⟩ | ⟨p', p, there, here, alike⟩ := project_inSight same n
    · rw [there, here]
      exact same
    · have served : (p'.registry.serve p'.table p'.root request).2.enableLive =
          (p.registry.serve p.table p.root request).2.enableLive := by
        rw [← Registry.serve_enableLive p'.table, ← Registry.serve_enableLive p.table]
        exact congrArg (fun q : Project => (q.registry.serve q.table q.root request).2.enableLive)
          alike
      rw [there, here]
      dsimp only
      rw [inSight_setRegistry, inSight_setRegistry, served, same]

theorem alignedBy_inSight (act : Act Stage) (ctx : Context Stage) :
    AlignedBy inSight (act.run ctx) := by
  intro w w' same
  cases act with
  | failIf piece message =>
    rw [Act.run, Act.run]
    cases Text.occursIn piece ctx.src <;> exact ⟨rfl, same⟩
  | ask requests =>
    refine ⟨rfl, ?_⟩
    change (requests.foldl tell w').inSight = (requests.foldl tell w).inSight
    induction requests generalizing w w' with
    | nil => exact same
    | cons request requests ih => exact ih _ _ (inSight_tell same request)
  | trim | stripComments | watch | keep | append | prepend | const | replace | upper | banner
  | rename | fail | probe => exact ⟨rfl, same⟩

/-- Stages and minifiers go by what they are asked with and by what is in sight, where it cannot be
seen whether a project is live. -/
theorem session_governed (n : Nat) (p : Project) : (session n p).lit.GovernedBy inSight where
  registry _ _ same := registry_inSight same n
  stage := by
    rintro ⟨name, noted, act⟩ ctx w w' same
    refine alignedBy_inSight act ctx _ _ ?_
    split <;> exact same
  minifier := by
    intro options src w w' same
    have ran (w : World) : (session n p).lit.minifier options src w = p.minify.run options src w :=
      rfl
    rw [ran, ran]
    cases p.minify <;> exact ⟨rfl, same⟩

end World
end LiveMarkup
