import LiveMarkup.Display.Client
import LiveMarkup.Display.Module
import LiveMarkup.Display.Step
import LiveMarkup.Naming
import LiveMarkup.Unicode.Debug

/-!
The scene of a display: modules, sinks, the handles of sinks in modules, and one client.

Names own what they stand for. A module lives as long as a name or an update in progress holds it,
and a sink as long as a name does; listeners, handles and bindings hold neither. What has been given
a number keeps it, so a dead module is told from a new one of the same name.
-/

namespace LiveMarkup.Display

/-- A sink in a module, by their numbers and that of the listener. -/
structure Handle where
  module : Nat
  id : Nat
  sink : Nat
  deriving DecidableEq, Repr

/-- A listener that does steps of its own, for a number of runs that is left. -/
structure Script where
  id : Text
  actions : List Step
  left : Nat

/-- What listeners are seen to do. -/
inductive Note where
  | told (id text : Text)
  | did (id word : Text) (answer : Answer)
  deriving DecidableEq, Repr

structure Scene where
  modules : List Module := []
  names : Naming Nat := {}
  /-- The modules that were made under the names, whatever the names stand for now. -/
  origins : Naming Nat := {}
  /-- The modules that updates in progress hold. -/
  held : List Nat := []
  sinks : List Text := []
  sinkNames : Naming Nat := {}
  handles : Naming Handle := {}
  ids : Naming Nat := {}
  client : Client := {}
  scripts : List Script := []
  notes : List Note := []

namespace Scene

def moduleLives (sc : Scene) (n : Nat) : Bool :=
  sc.names.values.contains n || sc.held.contains n

def sinkLives (sc : Scene) (n : Nat) : Bool :=
  sc.sinkNames.values.contains n

/-- The module of a name, with its number. -/
def module? (sc : Scene) (m : Text) : Option (Nat × Module) := do
  let n ← sc.names.get? m
  some (n, ← sc.modules[n]?)

/-- The number and the content of a sink. -/
def sink? (sc : Scene) (s : Text) : Option (Nat × Text) := do
  let n ← sc.sinkNames.get? s
  some (n, ← sc.sinks[n]?)

def srcOf (sc : Scene) (n : Nat) : Text :=
  (sc.modules[n]?.map (·.src)).getD []

def modifyModule (n : Nat) (f : Module → Module) (sc : Scene) : Scene :=
  { sc with modules := sc.modules.modify n f }

/-- Shows a content in a sink, if it lives. -/
def fill (n : Nat) (content : Text) (sc : Scene) : Scene :=
  if sc.sinkLives n then { sc with sinks := sc.sinks.set n content } else sc

def note (n : Note) (sc : Scene) : Scene :=
  { sc with notes := sc.notes ++ [n] }

def addScript (s : Script) (sc : Scene) : Scene :=
  { sc with scripts := sc.scripts ++ [s] }

/-- Puts a module in the scene under a name. -/
def addModule (m src : Text) (sc : Scene) : Scene :=
  { sc with
    modules := sc.modules ++ [{ src }]
    names := sc.names.give m sc.modules.length
    origins := sc.origins.give m sc.modules.length }

def addSink (s : Text) (sc : Scene) : Scene :=
  { sc with
    sinks := sc.sinks ++ [[]]
    sinkNames := sc.sinkNames.give s sc.sinks.length }

/-- Attaches a listener to a module and gives a name to its number. -/
def attach (n : Nat) (m : Module) (id : Text) (target : Target) (sc : Scene) : Scene :=
  { sc.modifyModule n (·.attach target) with ids := sc.ids.give id m.nextId }

/-- Binds a receiver to a key and gives a name to its number. -/
def bind (key id : Text) (receiver : Receiver) (sc : Scene) : Scene :=
  { sc with
    client := sc.client.bind key receiver
    ids := sc.ids.give id sc.client.nextId }

/-- Puts a sink in a module: it shows the source, and will show what comes after it. -/
def insert (n : Nat) (m : Module) (k : Nat) (h : Text) (sc : Scene) : Scene :=
  let sc := (sc.fill k m.src).attach n m h (.sink k)
  { sc with handles := sc.handles.give h ⟨n, m.nextId, k⟩ }

/-- Takes a sink out of its module and clears it, as far as both live. -/
def remove (h : Handle) (sc : Scene) : Scene :=
  let sc := if sc.moduleLives h.module then sc.modifyModule h.module (·.detach h.id) else sc
  sc.fill h.sink []

/-- What a reader of the source code of a module is shown. -/
def debugText (m : Module) : Text :=
  "RuntimeModule \x7b src: ".toList ++ Unicode.debugQuote m.src ++ ", listeners: ".toList ++
    (toString m.listeners.length).toList ++ " \x7d".toList

/-- A visit to a client. A listener that only hears comes under a key, an event of the key is begun,
and the listener is sent away twice: what it hears, whether it was there either time, and how many
are left under the key. -/
def visit (key payload : Text) (c : Client) : Answer :=
  let id := c.nextId
  let bound := (c.bind key (.script 0)).prune (fun _ => true) key
  let heard := ((bound.under key).filter (·.id == id)).map fun _ => payload
  let gone := bound.release key id
  .shared heard (bound.has key id) (gone.has key id) ((gone.release key id).under key).length

/-- The answer does not tell how many visits there were before: they leave no bindings, and the
number of the next is not seen. -/
theorem visit_eq (key payload : Text) (n : Nat) :
    visit key payload ⟨[], n⟩ = .shared [payload] true false 0 := by
  simp [visit, Client.bind, Client.prune, Client.under, Client.has, Client.release, Receiver.isLive]

/-- Does a step that tells no listener of anything. The client that the whole process shares is only
visited, so a new one stands for it. -/
def act (sc : Scene) : Step → Answer × Scene
  | .module m src => (.nothing, sc.addModule m src)
  | .cloneModule m clone =>
    match sc.names.get? m with
    | some n => (.nothing, { sc with names := sc.names.give clone n })
    | none => (.unknown, sc)
  | .dropModule m =>
    (.flag (sc.names.has m), { sc with names := sc.names.forget m })
  | .weak m =>
    match sc.origins.get? m with
    | some n => (.weak (if sc.moduleLives n then some (sc.srcOf n) else none), sc)
    | none => (.unknown, sc)
  | .src m =>
    match sc.module? m with
    | some (_, md) => (.text md.src, sc)
    | none => (.unknown, sc)
  | .display m =>
    match sc.module? m with
    | some (_, md) => (.text md.src, sc)
    | none => (.unknown, sc)
  | .debug m =>
    match sc.module? m with
    | some (_, md) => (.text (debugText md), sc)
    | none => (.unknown, sc)
  | .count m =>
    match sc.module? m with
    | some (_, md) => (.number md.listeners.length, sc)
    | none => (.unknown, sc)
  | .onChange m id actions runs =>
    match sc.module? m with
    | some (n, md) =>
      (.id md.nextId,
        (sc.attach n md id (.script sc.scripts.length)).addScript ⟨id, actions, runs⟩)
    | none => (.unknown, sc)
  | .offChange m id =>
    match sc.module? m, sc.ids.get? id with
    | some (n, md), some i => (.flag (md.has i), sc.modifyModule n (·.detach i))
    | _, _ => (.unknown, sc)
  | .sink s => (.nothing, sc.addSink s)
  | .dropSink s =>
    (.flag (sc.sinkNames.has s), { sc with sinkNames := sc.sinkNames.forget s })
  | .content s =>
    match sc.sink? s with
    | some (_, content) => (.text content, sc)
    | none => (.unknown, sc)
  | .render s content =>
    match sc.sink? s with
    | some (k, _) => (.text content, sc.fill k content)
    | none => (.unknown, sc)
  | .insert m s h =>
    match sc.module? m, sc.sink? s with
    | some (n, md), some (k, _) => (.id md.nextId, sc.insert n md k h)
    | _, _ => (.unknown, sc)
  | .remove h =>
    match sc.handles.get? h with
    | some handle =>
      (.nothing, { sc with handles := sc.handles.forget h }.remove handle)
    | none => (.unknown, sc)
  | .dropHandle h =>
    (.flag (sc.handles.has h), { sc with handles := sc.handles.forget h })
  | .on key id actions runs =>
    (.id sc.client.nextId,
      (sc.bind key id (.script sc.scripts.length)).addScript ⟨id, actions, runs⟩)
  | .off key id =>
    match sc.ids.get? id with
    | some i => (.flag (sc.client.has key i), { sc with client := sc.client.release key i })
    | none => (.unknown, sc)
  | .bind uid m id =>
    match sc.names.get? m with
    | some n => (.id sc.client.nextId, sc.bind (Change.keyOf uid) id (.module n))
    | none => (.unknown, sc)
  | .listeners key => (.number (sc.client.under key).length, sc)
  | .shared key payload => (visit key payload {}, sc)
  | .update .. => (.unknown, sc)
  | .emit .. => (.unknown, sc)
  | .receive _ => (.unknown, sc)
  | .listen _ => (.unknown, sc)
  | .other _ => (.unknown, sc)

end Scene
end LiveMarkup.Display
