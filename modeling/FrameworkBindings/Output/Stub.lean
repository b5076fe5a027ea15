import FrameworkBindings.Output.Crossing

/-!
# Stubs of free functions

A free function becomes a Go function of its signature that does nothing yet; calling through is
left to the user.  Functions come in order of names, and of several with one Go name only the first
counts.

* `stub` — one function with its verdict and its text.
* `stubs` — all functions, in order.

Two names may become one Go name, as `NSBeep` and `nSBeep` do.  A name is taken as soon as a
function has come by it, before it is known whether that function can be written; the list of taken
names is therefore the Go names of all functions before, and needs no look at their verdicts.
-/

namespace FrameworkBindings.Output

/-- The text of a stub: a comment on where it is declared, the signature, and a body that panics. -/
def stubText (f : Routine) (signature : String) : String :=
  unlines [
    "",
    comment f.head,
    "func " ++ Identifier.exported f.name ++ signature ++ " \x7b",
    "\tpanic(\"not implemented\")",
    "\x7d"]

/-- The stub of a function, where `taken` are the Go names of the functions before it.  It is
refused if its name is taken or its signature is not complete, in this order. -/
def stub (store : Store) (taken : List String) (f : Routine) : Handled :=
  let goName := Identifier.exported f.name
  if taken.contains goName then
    .refuse f.name ⟨.duplicate, goName ++ " is already declared"⟩
  else
    let spelling := f.prototype.spelling store
    if spelling.complete then ⟨f.name, .written, stubText f spelling.text⟩
    else
      .refuse f.name
        ⟨.unrepresentableType, "signature has no Go spelling: " ++ spelling.text⟩

/-- The stubs of functions, one after the other, each of which takes its name. -/
def stubsFrom (store : Store) (taken : List String) : List Routine → List Handled
  | [] => []
  | f :: functions =>
    stub store taken f :: stubsFrom store (Identifier.exported f.name :: taken) functions

/-- The functions of a store in order of names; those of one name stay in the order of loading. -/
def sortedFunctions (store : Store) : List Routine :=
  store.functions.mergeSort fun f g => Store.textLe f.name g.name

/-- The stubs of all free functions, in order of names and with no name taken at first. -/
def stubs (store : Store) : List Handled :=
  stubsFrom store [] (sortedFunctions store)

end FrameworkBindings.Output
