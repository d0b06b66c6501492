import ShaderLowering.Error
import ShaderLowering.Log.Line
import ShaderLowering.Names.Member

/-!
# The journal of a lowering

What happens while a method is lowered, as events in order, and how each event
is logged.

## Main definitions

* `Event` — what happens.
* `Event.line` — the log line of an event.
-/

namespace ShaderLowering

/-- What happens while a method is lowered. -/
inductive Event where
  /-- The lowering of a method begins. -/
  | started (method : String)
  /-- A member is captured under a name that was free. -/
  | captured (method : String) (member : Member) (name : String)
  /-- A member is captured under a name that another member keeps. -/
  | collided (method : String) (name : String) (bound : Member)
  /-- A method is lowered, with a number of captures. -/
  | finished (method : String) (captures : Nat)
  /-- A method cannot be lowered. -/
  | failed (method : String) (cause : LoweringError)
deriving DecidableEq, Repr

namespace Event

/-- The level at which an event is logged. -/
def level : Event → Level
  | started _ => .trace
  | collided .. => .warn
  | captured .. | finished .. | failed .. => .debug

/-- An event in words. -/
def text : Event → String
  | started method => "rewriting " ++ method
  | captured method member name => method ++ ": captured " ++ member.qualified ++ " as " ++ name
  | collided method name bound =>
    method ++ ": capture name " ++ name ++ " already bound to " ++ bound.qualified
      ++ ", keeping the first binding"
  | finished method captures =>
    "translated " ++ method ++ " (" ++ toString captures ++ " captured members)"
  | failed method cause => method ++ " is not translatable: " ++ cause.message

/-- The log line of an event. -/
def line (e : Event) : String :=
  logLine e.level "ShaderSyntaxRewriter" e.text

end Event

end ShaderLowering
