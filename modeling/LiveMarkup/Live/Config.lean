import LiveMarkup.Live.Channel

/-!
Where live messages go: the address of a message server, and the namespace in which they are sent.
-/

namespace LiveMarkup

structure LiveConfig where
  url : Text
  space : Text
  deriving DecidableEq, Repr

namespace LiveConfig

def defaultUrl : Text :=
  "nats://localhost:4222".toList

/-- The variable that names the server. -/
def urlVariable : Text :=
  "NATS_URL".toList

/-- The variable that names the namespace. -/
def spaceVariable : Text :=
  "MARKMOD_NAMESPACE".toList

/-- What the variables of an environment say, or else what is usual. -/
def ofVariables (value? : Text → Option Text) : LiveConfig where
  url := (value? urlVariable).getD defaultUrl
  space := (value? spaceVariable).getD Channel.defaultSpace

end LiveConfig
end LiveMarkup
