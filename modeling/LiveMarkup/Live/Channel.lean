import LiveMarkup.Live.Change

/-!
Channels inside of a process. A channel keeps the newest messages for readers that are late, and a
reader that is too late goes on with the oldest message that is kept.

The ring in which messages are kept is that of the library for broadcasts, and two of its rules are
assumed as it documents them: the space asked for, which is for 100 messages, is rounded up to a
power of two, and a reader whose next message is gone is told so once and put in front of the
oldest one that is kept. That such a notice is skipped, and the read made again, is the channel's
own doing: `next` and `read` are the notice and the second read in one.
-/

namespace LiveMarkup

/-- A channel with the number of messages sent so far, the newest of them in order, and for each
reader the number of messages that are behind it. -/
structure Channel where
  space : Text
  isOpen : Bool := true
  sent : Nat := 0
  kept : List Change := []
  readers : List (Text × Nat) := []
  deriving DecidableEq, Repr

/-- What a reader finds. -/
inductive Reading where
  | message (c : Change)
  | pending
  | ended
  deriving DecidableEq, Repr

namespace Channel

/-- The namespace of channels that are given none. -/
def defaultSpace : Text :=
  "markmod".toList

/-- How many messages are kept: the 100 that are asked for, rounded up by the library. -/
def capacity : Nat := 128

/-- The subject under which changes are sent in a namespace. -/
def subject (space : Text) : Text :=
  space ++ ".change".toList

def broadcast (c : Channel) (m : Change) : Channel :=
  let kept := c.kept ++ [m]
  { c with sent := c.sent + 1, kept := kept.drop (kept.length - capacity) }

/-- A new reader sees what is sent from now on. -/
def subscribe (c : Channel) (reader : Text) : Channel :=
  { c with readers := (reader, c.sent) :: c.readers.filter (·.1 != reader) }

def unsubscribe (c : Channel) (reader : Text) : Channel :=
  { c with readers := c.readers.filter (·.1 != reader) }

def close (c : Channel) : Channel :=
  { c with isOpen := false }

/-- The number of the oldest message that is kept. -/
def oldest (c : Channel) : Nat :=
  c.sent - c.kept.length

def position? (c : Channel) (reader : Text) : Option Nat :=
  (c.readers.find? (·.1 == reader)).map (·.2)

/-- The number of the message that a reader comes to next. One that lags is moved by the library. -/
def next (c : Channel) (behind : Nat) : Nat :=
  max behind c.oldest

/-- One read by a reader, with the notice that it lags passed over; a reader that has not subscribed
finds the end. -/
def read (c : Channel) (reader : Text) : Reading × Channel :=
  match c.position? reader with
  | none => (.ended, c)
  | some behind =>
    let n := c.next behind
    match c.kept[n - c.oldest]? with
    | some m =>
      (.message m,
        { c with readers := (reader, n + 1) :: c.readers.filter (·.1 != reader) })
    | none => (if c.isOpen then .pending else .ended, c)

/-- Reads all that can be read now, up to a limit, and says whether the end was found. -/
def drain (c : Channel) (reader : Text) : Nat → List Change × Bool × Channel
  | 0 => ([], false, c)
  | limit + 1 =>
    match c.read reader with
    | (.message m, c) =>
      let (ms, ended, c) := c.drain reader limit
      (m :: ms, ended, c)
    | (.pending, c) => ([], false, c)
    | (.ended, c) => ([], true, c)

theorem position?_subscribe (c : Channel) (reader : Text) :
    (c.subscribe reader).position? reader = some c.sent := by
  simp [subscribe, position?]

end Channel
end LiveMarkup
