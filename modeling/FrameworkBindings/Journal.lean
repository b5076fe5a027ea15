/-!
# The journal

What a run has to say while it works, in order.  Events are values like any other; whoever runs the
program decides which of them to show.

* `Level` — how much an event matters; `Level.shows` compares.
* `Event` — a level and a message.

Keeping events as data has two uses.  The loading of entries stays a function that can be reasoned
about, as nothing is written while it runs; and what it says can be compared event by event.  The
wish for more or fewer events is no part of a run: all are kept, and the limit is applied when they
are shown.
-/

namespace FrameworkBindings

/-- How much an event matters, from what ends a run to what interests only who wrote the program. -/
inductive Level where
  | error
  | warn
  | info
  | debug
  | trace
deriving DecidableEq

namespace Level

/-- The word for a level, as it stands in front of the message. -/
def word : Level → String
  | error => "ERROR"
  | warn => "WARN"
  | info => "INFO"
  | debug => "DEBUG"
  | trace => "TRACE"

/-- The place in the order from the most to the least severe, by which levels are compared. -/
def rank : Level → Nat
  | error => 0
  | warn => 1
  | info => 2
  | debug => 3
  | trace => 4

/-- Whether a reader who asked for `limit` sees events of this level; more severe ones are always
shown. -/
def shows (limit level : Level) : Bool := level.rank ≤ limit.rank

end Level

/-- Something worth telling, with how much it matters. -/
structure Event where
  level : Level
  message : String

/-- The level and the message on one line, as an event is printed. -/
def Event.line (event : Event) : String :=
  event.level.word ++ " " ++ event.message

/-- The events so far, the first of them first. -/
abbrev Journal := Array Event

end FrameworkBindings
