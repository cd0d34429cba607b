import LiveMarkup.Workspace

/-!
What the operations on the sessions of a workspace come to. A session that is known by its name goes
on to its project, and a name that stands for nothing changes nothing.
-/

namespace LiveMarkup

namespace World

variable {w : World} {n : Nat} {p : Project}

theorem registry_of_project (found : w.projects[n]? = some p) : w.registry n = p.registry := by
  rw [registry, found]
  rfl

theorem projects_setRegistry (n m : Nat) (r : Registry Stage) :
    (w.setRegistry n r).projects[m]? =
      if n = m then w.projects[m]?.map fun p => { p with registry := r } else w.projects[m]? := by
  rw [setRegistry, List.getElem?_modify]
  split <;> simp

theorem setRegistry_self (found : w.projects[n]? = some p) : w.setRegistry n p.registry = w := by
  have same : (w.setRegistry n p.registry).projects = w.projects := by
    apply List.ext_getElem?
    intro m
    rw [projects_setRegistry]
    split
    · rename_i here
      rw [← here, found]
      rfl
    · rfl
  exact congrArg (fun projects => { w with projects }) same

end World

namespace Workspace

section

variable {α β : Type} {x : Op α} {f : α → Op β} {ws ws' : Workspace} {a : α}

theorem bind_ok (h : x ws = (.ok a, ws')) : (x >>= f) ws = f a ws' := by
  have begun : (x >>= f) ws = ExceptT.bindCont f (x ws).1 (x ws).2 := rfl
  rw [begun, h]
  rfl

theorem get_bind (f : Workspace → Op β) (ws : Workspace) : (get >>= f) ws = f ws ws := rfl

theorem bind_error {e : Refusal} (h : x ws = (.error e, ws')) : (x >>= f) ws = (.error e, ws') := by
  have begun : (x >>= f) ws = ExceptT.bindCont f (x ws).1 (x ws).2 := rfl
  rw [begun, h]
  rfl

theorem named_of_some {names : Naming α} {name : Text} (known : names.get? name = some a)
    (ws : Workspace) : named names name ws = (.ok a, ws) := by
  rw [named, known]
  rfl

theorem named_of_none {names : Naming α} {name : Text} (unknown : names.get? name = none)
    (ws : Workspace) : named names name ws = (.error .unknown, ws) := by
  rw [named, unknown]
  rfl

end

variable {ws : Workspace} {session name : Text} {n : Nat} {p : Project}

theorem shareSession_of_known (known : ws.world.sessions.get? session = some n) (name : Text) :
    shareSession session name ws = (.ok (), { ws with
      world := { ws.world with sessions := ws.world.sessions.give name n } }) := by
  rw [shareSession, get_bind, bind_ok (named_of_some known ws)]
  rfl

theorem shareSession_of_unknown (unknown : ws.world.sessions.get? session = none) (name : Text) :
    shareSession session name ws = (.error .unknown, ws) := by
  rw [shareSession, get_bind, bind_error (named_of_none unknown ws)]

theorem project_of_known (known : ws.world.sessions.get? session = some n)
    (found : ws.world.projects[n]? = some p) : project session ws = (.ok (n, p), ws) := by
  rw [project, get_bind, bind_ok (named_of_some known ws), found]
  rfl

theorem project_of_unknown (unknown : ws.world.sessions.get? session = none) :
    project session ws = (.error .unknown, ws) := by
  rw [project, get_bind, bind_error (named_of_none unknown ws)]

/-- What a session answers when its registry is asked. -/
def answer : Registry.Reply Stage → Except Refusal (Registry.Reply Stage)
  | .failed e => .error (.failed e)
  | reply => .ok reply

theorem ask_of_known (known : ws.world.sessions.get? session = some n)
    (found : ws.world.projects[n]? = some p) (request : Registry.Request Stage) :
    ask session request ws = (answer (p.registry.serve p.table p.root request).1,
      { ws with world :=
          ws.world.setRegistry n (p.registry.serve p.table p.root request).2 }) := by
  have served : ws.world.ask n request = ((p.registry.serve p.table p.root request).1,
      ws.world.setRegistry n (p.registry.serve p.table p.root request).2) := by
    rw [World.ask, found]
  rw [ask, bind_ok (project_of_known known found)]
  dsimp only
  rw [get_bind, served]
  generalize (p.registry.serve p.table p.root request).1 = reply
  cases reply <;> rfl

theorem ask_of_unknown (unknown : ws.world.sessions.get? session = none)
    (request : Registry.Request Stage) : ask session request ws = (.error .unknown, ws) := by
  rw [ask, bind_error (project_of_unknown unknown)]

end Workspace
end LiveMarkup
