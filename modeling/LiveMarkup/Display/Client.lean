import LiveMarkup.Live.Change

/-!
Clients: who is told of the events that come in under a key.
-/

namespace LiveMarkup.Display

/-- Who is told of an event: a listener with a script of its own, or a module, which takes what is
told as its source. Both are known by number. -/
inductive Receiver where
  | script (number : Nat)
  | module (number : Nat)
  deriving DecidableEq, Repr

structure Binding where
  id : Nat
  key : Text
  receiver : Receiver
  deriving DecidableEq, Repr

/-- The bindings of a client in the order in which they came; all keys share their numbers. As those
of the listeners of a module, they know no bound here, and are those of a counter of 64 bits as long
as there were fewer than 2⁶⁴ bindings. -/
structure Client where
  bindings : List Binding := []
  nextId : Nat := 0
  deriving DecidableEq, Repr

/-- Whether a receiver can still be told. -/
def Receiver.isLive (moduleLives : Nat → Bool) : Receiver → Bool
  | script _ => true
  | module n => moduleLives n

namespace Client

def bind (key : Text) (receiver : Receiver) (c : Client) : Client where
  bindings := c.bindings ++ [⟨c.nextId, key, receiver⟩]
  nextId := c.nextId + 1

def has (key : Text) (id : Nat) (c : Client) : Bool :=
  c.bindings.any fun b => b.key == key && b.id == id

def release (key : Text) (id : Nat) (c : Client) : Client :=
  { c with bindings := c.bindings.filter fun b => ! (b.key == key && b.id == id) }

/-- The bindings of a key. -/
def under (key : Text) (c : Client) : List Binding :=
  c.bindings.filter (·.key == key)

/-- Lets go of the modules under a key that are gone. -/
def prune (moduleLives : Nat → Bool) (key : Text) (c : Client) : Client :=
  { c with
    bindings := c.bindings.filter fun b => b.key != key || b.receiver.isLive moduleLives }

/-- Who is to be told of an event, in order. -/
def receivers (key : Text) (c : Client) : List Receiver :=
  (c.under key).map (·.receiver)

end Client
end LiveMarkup.Display
