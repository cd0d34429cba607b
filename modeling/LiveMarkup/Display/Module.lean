import LiveMarkup.Text

/-!
Modules on display: each holds a source and the listeners that are told when it changes.
-/

namespace LiveMarkup.Display

/-- Who is told of a new source: a listener with a script of its own, or a sink, which shows the
source. Both are known by number. -/
inductive Target where
  | script (number : Nat)
  | sink (number : Nat)
  deriving DecidableEq, Repr

structure Listener where
  id : Nat
  target : Target
  deriving DecidableEq, Repr

/-- A module: its source, its listeners in the order in which they came, and the number that the
next one gets. The numbers know no bound here; a counter of 64 bits gives the same ones to the first
2⁶⁴ listeners of a module, and no module gets to have more. -/
structure Module where
  src : Text
  listeners : List Listener := []
  nextId : Nat := 0
  deriving DecidableEq, Repr

/-- Whether a target can still be told: a sink has to exist, and a script never ends. -/
def Target.isLive (sinkLives : Nat → Bool) : Target → Bool
  | script _ => true
  | sink n => sinkLives n

namespace Module

def attach (target : Target) (m : Module) : Module :=
  { m with listeners := m.listeners ++ [⟨m.nextId, target⟩], nextId := m.nextId + 1 }

def has (id : Nat) (m : Module) : Bool :=
  m.listeners.any (·.id == id)

def detach (id : Nat) (m : Module) : Module :=
  { m with listeners := m.listeners.filter (·.id != id) }

/-- Takes a new source and lets go of the sinks that are gone. -/
def update (sinkLives : Nat → Bool) (src : Text) (m : Module) : Module :=
  { m with src, listeners := m.listeners.filter (·.target.isLive sinkLives) }

/-- Who is to be told of an update, in order. -/
def targets (m : Module) : List Target :=
  m.listeners.map (·.target)

end Module
end LiveMarkup.Display
