import LiveMarkup.Live.Change

/-!
What can be done with a display, and what is answered to it. Everything goes by names, and the
listeners that a step attaches do steps themselves.
-/

namespace LiveMarkup.Display

inductive Step where
  | module (m src : Text)
  | cloneModule (m clone : Text)
  | dropModule (m : Text)
  | weak (m : Text)
  | src (m : Text)
  | display (m : Text)
  | debug (m : Text)
  | count (m : Text)
  | update (m src : Text)
  | onChange (m id : Text) (actions : List Step) (runs : Nat)
  | offChange (m id : Text)
  | sink (s : Text)
  | dropSink (s : Text)
  | content (s : Text)
  | render (s content : Text)
  | insert (m s h : Text)
  | remove (h : Text)
  | dropHandle (h : Text)
  | on (key id : Text) (actions : List Step) (runs : Nat)
  | off (key id : Text)
  | emit (key payload : Text)
  | receive (change : Change)
  | bind (uid m id : Text)
  | listeners (key : Text)
  | listen (changes : List Change)
  | shared (key payload : Text)
  | other (word : Text)
  deriving Inhabited

/-- What is answered to a step. -/
inductive Answer where
  | nothing
  | unknown
  | flag (value : Bool)
  | text (t : Text)
  | number (n : Nat)
  | id (n : Nat)
  | weak (src : Option Text)
  | shared (seen : List Text) (off again : Bool) (count : Nat)
  deriving DecidableEq, Repr

namespace Step

/-- The word for a step. -/
def word : Step → Text
  | module .. => "module".toList
  | cloneModule .. => "clone_module".toList
  | dropModule .. => "drop_module".toList
  | weak .. => "weak".toList
  | src .. => "src".toList
  | display .. => "display".toList
  | debug .. => "debug".toList
  | count .. => "count".toList
  | update .. => "update".toList
  | onChange .. => "on_change".toList
  | offChange .. => "off_change".toList
  | sink .. => "sink".toList
  | dropSink .. => "drop_sink".toList
  | content .. => "content".toList
  | render .. => "render".toList
  | insert .. => "insert".toList
  | remove .. => "remove".toList
  | dropHandle .. => "drop_handle".toList
  | on .. => "on".toList
  | off .. => "off".toList
  | emit .. => "emit".toList
  | receive .. => "receive".toList
  | bind .. => "bind".toList
  | listeners .. => "listeners".toList
  | listen .. => "listen".toList
  | shared .. => "global".toList
  | other word => word

mutual

/-- How much a step can set going: itself, its events, and all runs of a script that it brings. -/
def weight : Step → Nat
  | onChange _ _ actions runs => 1 + runs * (1 + weightOfAll actions)
  | on _ _ actions runs => 1 + runs * (1 + weightOfAll actions)
  | emit .. => 2
  | receive _ => 2
  | listen changes => 1 + changes.length
  | _ => 1

def weightOfAll : List Step → Nat
  | [] => 0
  | s :: ss => weight s + weightOfAll ss

end

end Step
end LiveMarkup.Display
