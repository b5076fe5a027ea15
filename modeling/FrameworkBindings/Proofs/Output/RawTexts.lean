import Mathlib.Algebra.BigOperators.Group.List.Basic
import FrameworkBindings.Proofs.Output.LineFeeds
import FrameworkBindings.Proofs.Signature.Origins

/-!
# Raw texts in spellings

The Go name of a type is put together from words of its own and from texts that the type holds.
Names of entities and parameters are made identifiers before.  Everything else goes in as it was
written in the documentation.

* `rawText?` — what a node puts in as it was written, other than its name; `rawTexts` for a type.
* `lineFeeds_spelling` — the line feeds of a spelling are those of the names and the raw texts, and
  `lineFeeds_of_worded` — those of the raw texts, where names have none.
* `lineFeeds_toNative`, `lineFeeds_toHost` — casts add no line feeds to an expression.

**Node by node.**  A spelling follows the type, so its line feeds are a sum over the nodes of the
type, each of which puts in its own (`feeds`).  Marks like stars and brackets put in none, and each
part of a type is spelled once.

**Casts.**  A cast puts the expression between fixed words and the Go name of an entity or of a
primitive.  The first is an identifier; the second is one of a fixed list, as other names have no
cast.  So a raw text never gets into an expression.
-/

namespace FrameworkBindings

open Text

variable {store : Store}

namespace NativeType

/-- The name that a node puts into a spelling. -/
def nameText? : NativeType → Option String
  | .primitive name | .named name => some name
  | _ => none

/-- What a node puts into a spelling as it was written, other than its name: the size of an array,
the comment on what was not understood, and the reference id of an entity without a name. -/
def rawText? (store : Store) : NativeType → Option String
  | .array _ size => some size
  | .unknown _ comment => some comment
  | .entity id => (store.entity? id).bind fun entity =>
      if entity.name = "" then some entity.head.refid else none
  | _ => none

/-- The raw texts in a type, from its nodes in order. -/
def rawTexts (store : Store) (t : NativeType) : List String := t.nodes.filterMap (rawText? store)

/-- The line feeds that a node puts into a spelling, by its name and by its raw text. -/
def feeds (store : Store) (node : NativeType) : Nat :=
  (nameText? node).elim 0 lineFeeds + (rawText? store node).elim 0 lineFeeds

/-! ## Spellings -/

lemma sum_map_flatMap {α β : Type} (xs : List α) (g : α → List β) (f : β → Nat) :
    ((xs.flatMap g).map f).sum = (xs.map fun x => ((g x).map f).sum).sum := by
  rw [List.map_flatMap, List.flatMap_def, List.sum_flatten, List.map_map]
  rfl

/-- A missing type is spelled with its comment, which goes in as it is. -/
lemma lineFeeds_missing (comment : String) :
    lineFeeds (Spelling.missing comment).text = lineFeeds comment := by
  rw [Spelling.missing]
  split
  · next h =>
      rw [h]
      rfl
  · simp [anyName, lineFeeds]

/-- A mark in front of a spelling adds its own. -/
lemma lineFeeds_after (text : String) (spelling : Spelling) :
    lineFeeds (spelling.after text).text = lineFeeds text + lineFeeds spelling.text :=
  lineFeeds_append text spelling.text

lemma lineFeeds_label (id : EntityId) : lineFeeds id.label = 0 := by
  rw [EntityId.label, lineFeeds_append, lineFeeds_toString]
  rfl

lemma lineFeeds_paramLabel (anyNamed : Bool) (place : Nat) (name : String) :
    lineFeeds (paramLabel anyNamed place name) = 0 := by
  unfold paramLabel
  split
  · split
    · simp only [lineFeeds_append, lineFeeds_toString]
      rfl
    · rfl
  · simp only [lineFeeds_append, Identifier.lineFeeds_unexported]
    rfl

/-- The names of parameters add no line feeds, so those of parameters are those of their types. -/
lemma lineFeeds_paramSpellings (anyNamed : Bool) (place : Nat) (params : List (Param NativeType)) :
    (paramSpellings store anyNamed place params).map (fun s => lineFeeds s.text) =
      params.map fun p => lineFeeds (p.type.spelling store).text := by
  induction params generalizing place with
  | nil => rfl
  | cons p params ih =>
      rw [paramSpellings, List.map_cons, List.map_cons, ih, lineFeeds_after, lineFeeds_paramLabel,
        Nat.zero_add]

/-- A signature adds up its parameters and its result, as what stands between them has none. -/
lemma lineFeeds_signature (params : List Spelling) (result : Option Spelling) :
    lineFeeds (Spelling.signature params result).text =
      (params.map fun s => lineFeeds s.text).sum + result.elim 0 fun r => lineFeeds r.text := by
  have hcomma : lineFeeds ", " = 0 := rfl
  have hparams := lineFeeds_intercalate hcomma (params.map Spelling.text)
  rw [List.map_map] at hparams
  simp only [Spelling.signature, lineFeeds_append, hparams]
  cases result with
  | none => simp [lineFeeds]; rfl
  | some r => simp [lineFeeds]; rfl

/-- An entity is spelled by an identifier, or by its reference id if it has no name. -/
lemma lineFeeds_entity (id : EntityId) :
    lineFeeds (store.spelling id).text = feeds store (.entity id) := by
  simp only [Store.spelling, feeds, nameText?, rawText?, Option.elim_none, Nat.zero_add]
  cases store.entity? id with
  | none => exact (lineFeeds_missing _).trans (lineFeeds_label id)
  | some entity =>
      rw [Option.bind_some]
      cases hhost : entity.head.hostName with
      | none =>
          have hname : entity.name = "" := Declaration.hostName_eq_none_iff.1 hhost
          simp only [Declaration.spelling, hhost, if_pos hname, Option.elim_some,
            lineFeeds_missing, lineFeeds_append]
          exact Nat.zero_add _
      | some name =>
          have hname : entity.name ≠ "" := fun hempty => by
            rw [Declaration.hostName_eq_none_iff.2 hempty] at hhost
            contradiction
          simp only [Declaration.spelling, hhost, if_neg hname, Option.elim_none]
          exact Declaration.lineFeeds_hostName hhost

/-- **The line feeds of a spelling are those that its nodes put in.**  By induction on the type. -/
lemma lineFeeds_spelling (store : Store) (t : NativeType) :
    lineFeeds (t.spelling store).text = (t.nodes.map (feeds store)).sum := by
  induction t using NativeType.recursion with
  | primitive name | named name => rfl
  | string =>
      rw [spelling, nodes]
      rfl
  | unknown raw comment =>
      rw [spelling, lineFeeds_missing]
      simp [nodes, feeds, nameText?, rawText?]
  | entity id =>
      rw [spelling, lineFeeds_entity]
      rfl
  | pointer e ih =>
      rw [spelling, lineFeeds_after, ih]
      rfl
  | array e size ih =>
      rw [spelling, lineFeeds_after, ih, nodes, List.map_cons, List.sum_cons, lineFeeds_append,
        lineFeeds_append]
      simp [feeds, nameText?, rawText?, lineFeeds]
  | const e ih | strong e ih | nullable e _ ih | external e ih =>
      rw [spelling, ih, nodes, List.map_cons, List.sum_cons]
      exact (Nat.zero_add _).symm
  | function result params ihr ihp =>
      have hresult : (result.map fun r => r.spelling store).elim 0 (fun r => lineFeeds r.text) =
          ((result.toList.flatMap nodes).map (feeds store)).sum := by
        cases result with
        | none => rfl
        | some r => simp [ihr r rfl]
      have hparams : (params.map fun p => lineFeeds (p.type.spelling store).text).sum =
          ((params.flatMap fun p => p.type.nodes).map (feeds store)).sum := by
        rw [sum_map_flatMap]
        exact congrArg List.sum (List.map_congr_left ihp)
      rw [spelling_function, lineFeeds_after, Prototype.spelling, lineFeeds_signature,
        lineFeeds_paramSpellings, hresult, hparams, nodes_function, List.map_cons, List.sum_cons,
        List.map_append, List.sum_append, Nat.add_comm (List.sum _)]
      rfl

/-- Where names have no line feeds, those of a spelling are the ones in the raw texts. -/
lemma lineFeeds_of_worded {t : NativeType}
    (h : ∀ node ∈ t.nodes, ∀ name ∈ nameText? node, lineFeeds name = 0) :
    lineFeeds (t.spelling store).text = ((t.rawTexts store).map lineFeeds).sum := by
  rw [lineFeeds_spelling, rawTexts]
  generalize t.nodes = nodes at h
  induction nodes with
  | nil => rfl
  | cons node nodes ih =>
      obtain ⟨hnode, hnodes⟩ := List.forall_mem_cons.1 h
      have hname : (nameText? node).elim 0 lineFeeds = 0 := by
        cases hname : nameText? node with
        | none => rfl
        | some name => exact hnode name hname
      rw [List.map_cons, List.sum_cons, ih hnodes, feeds, hname, Nat.zero_add]
      cases hraw : rawText? store node with
      | none => rw [List.filterMap_cons_none hraw, Option.elim_none, Nat.zero_add]
      | some raw =>
          rw [List.filterMap_cons_some hraw, List.map_cons, List.sum_cons, Option.elim_some]

/-! ## Casts -/

end NativeType

lemma Entity.lineFeeds_toNative {entity : Entity} {expression cast : String}
    (h : entity.toNative expression = some cast) : lineFeeds cast = lineFeeds expression := by
  cases entity with
  | union d => contradiction
  | record d | protocol d =>
      obtain ⟨name, -, rfl⟩ := Option.map_eq_some_iff.1 h
      rfl

lemma Entity.lineFeeds_toHost {entity : Entity} {expression cast : String}
    (h : entity.toHost expression = some cast) : lineFeeds cast = lineFeeds expression := by
  cases entity with
  | union d => contradiction
  | record d =>
      obtain ⟨name, hname, rfl⟩ := Option.map_eq_some_iff.1 h
      simp only [lineFeeds_append, Declaration.lineFeeds_hostName hname]
      simp [lineFeeds]
  | protocol d =>
      obtain ⟨name, -, rfl⟩ := Option.map_eq_some_iff.1 h
      rfl

namespace NativeType

/-- Handing a value over adds no line feeds to the expression. -/
lemma lineFeeds_toNative {t : NativeType} {expression cast : String}
    (h : t.toNative store expression = some cast) : lineFeeds cast = lineFeeds expression := by
  induction t using NativeType.recursion with
  | primitive name => rw [← Option.some.inj h]
  | string =>
      rw [← Option.some.inj h, lineFeeds_append, lineFeeds_append]
      exact Nat.zero_add _
  | named _ | unknown _ _ | function _ _ _ _ => simp [toNative] at h
  | entity id =>
      obtain ⟨entity, -, hcast⟩ := Option.bind_eq_some_iff.1 h
      exact Entity.lineFeeds_toNative hcast
  | pointer _ ih | array _ _ ih | const _ ih | strong _ ih | nullable _ _ ih | external _ ih =>
      exact ih h

/-- The cast of a primitive adds no line feeds to the expression, since the words around it are
fixed. -/
lemma lineFeeds_primitiveToHost {name expression cast : String}
    (h : primitiveToHost name expression = some cast) : lineFeeds cast = lineFeeds expression := by
  unfold primitiveToHost at h
  split at h
  all_goals first | contradiction | (cases h; simp [lineFeeds])

/-- Making a value adds no line feeds to the expression. -/
lemma lineFeeds_toHost {t : NativeType} {expression cast : String}
    (h : t.toHost store expression = some cast) : lineFeeds cast = lineFeeds expression := by
  induction t using NativeType.recursion with
  | primitive name => exact lineFeeds_primitiveToHost h
  | string =>
      rw [← Option.some.inj h, lineFeeds_append]
      rfl
  | named _ | unknown _ _ | function _ _ _ _ => simp [toHost] at h
  | entity id =>
      obtain ⟨entity, -, hcast⟩ := Option.bind_eq_some_iff.1 h
      exact Entity.lineFeeds_toHost hcast
  | pointer _ ih | array _ _ ih | const _ ih | strong _ ih | nullable _ _ ih | external _ ih =>
      exact ih h

end NativeType

end FrameworkBindings
