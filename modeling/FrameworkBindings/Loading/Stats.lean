/-!
# Counters of a load

* `LoadStats` — what a load has counted.
* `LoadStats.counters` — the counters by name, in the order in which reports list them.

Entries are counted when they are begun, and by kind; methods when it is known what became of them.
A method is counted once, as placed, as declared twice or as left over, and those that had to wait
are counted for that as well, so there are two accounts of them which have to agree in the end.
-/

namespace FrameworkBindings

/-- What a load has counted since it began; no counter ever goes down. -/
structure LoadStats where
  entries : Nat := 0
  structs : Nat := 0
  protocols : Nat := 0
  unions : Nat := 0
  files : Nat := 0
  ignored : Nat := 0
  /-- Methods that went to their entity while it was loaded. -/
  methods : Nat := 0
  /-- Methods that wait for their entity. -/
  deferred : Nat := 0
  /-- Waiting methods that found their entity in the end. -/
  attached : Nat := 0
  /-- Waiting methods whose entity never came, or holds no methods. -/
  unattached : Nat := 0
  freeFunctions : Nat := 0
  duplicateMethods : Nat := 0
  /-- Signatures that were kept as unknown types because they did not parse.  Their members are
  loaded and counted like any others. -/
  malformed : Nat := 0
deriving DecidableEq

/-- The counters by name, in the order in which they are told. -/
def LoadStats.counters (stats : LoadStats) : List (String × Nat) := [
  ("entries", stats.entries),
  ("structs", stats.structs),
  ("protocols", stats.protocols),
  ("unions", stats.unions),
  ("files", stats.files),
  ("ignored", stats.ignored),
  ("methods", stats.methods),
  ("deferred", stats.deferred),
  ("attached", stats.attached),
  ("unattached", stats.unattached),
  ("free_functions", stats.freeFunctions),
  ("duplicate_methods", stats.duplicateMethods),
  ("malformed", stats.malformed)]

end FrameworkBindings
