import Mathlib.Data.List.Forall2
import Mathlib.Data.List.Induction
import FrameworkBindings.Proofs.Loading.Contribution
import FrameworkBindings.Proofs.Store.Definitions

/-!
# Histories of a store

Whatever a store is asked to do, in any order and also in vain, its answers follow from what it was
asked: which reference ids were mentioned, which definition of each came first, and which methods
were offered to a slot.

**Operations.**  `Operation` is what can be asked, `Store.perform` does it and `Store.after` does
one after the other.  A reference id need not be that of the entity that is defined for it.

**What a history says.**  `mentions`, `firstDefinitions` and `offers` read a list of operations
without any store.

**One operation.**  Slots keep their reference ids (`prefix_perform`), definitions stay and take
methods (`definition?_perform`), and what awaits its definition gets nothing else
(`getElem?_perform`).

**All operations.**  `Recounts` is what every operation keeps (`Recounts.perform`): the slots are
those of the reference ids that were mentioned, the definitions those that were made first.

**Answers.**  **`answers_after`**: what the store answers in the end, as a function of its history.

The invariant speaks of heads only, since methods go on being added to what is defined.  What an
entity holds in the end is told separately, from the point in the history at which it was defined:
`definition?_after` follows it from there to the end.
-/

namespace FrameworkBindings

open Loading

/-! ## Operations -/

/-- What a store can be asked to do.  These are all the ways in which a store changes. -/
inductive Operation where
  /-- Give a slot to a reference id. -/
  | intern (refid : String)
  /-- Fill the slot of a reference id. -/
  | define (refid : String) (entity : Entity)
  /-- Offer a method to what is in a slot. -/
  | attach (id : EntityId) (method : Routine)
  | addFunction (function : Routine)
  | addFile (file : Declaration)

namespace Operation

/-- The reference id that the operation mentions, if it does; a refused definition has mentioned it
too. -/
def refid? : Operation → Option String
  | intern refid | define refid _ => some refid
  | attach _ _ | addFunction _ | addFile _ => none

/-- The definition that the operation would make, if it is not refused. -/
def definition? : Operation → Option (String × Entity)
  | define refid entity => some (refid, entity)
  | intern _ | attach _ _ | addFunction _ | addFile _ => none

/-- The method that the operation offers to the slot, which need not exist. -/
def offer? (id : EntityId) : Operation → Option Routine
  | attach other method => if other = id then some method else none
  | intern _ | define _ _ | addFunction _ | addFile _ => none

end Operation

/-- The reference ids that a history mentions. -/
def mentions (history : List Operation) : List String := history.filterMap Operation.refid?

/-- A list of definitions with one more, unless its reference id has one.  This is the rule by which
a store takes definitions, told without a store. -/
def withDefinition (made : List (String × Entity)) (d : String × Entity) : List (String × Entity) :=
  if d.1 ∈ made.map Prod.fst then made else made ++ [d]

/-- For each reference id the first definition in a history, in the order of the history. -/
def firstDefinitions (history : List Operation) : List (String × Entity) :=
  (history.filterMap Operation.definition?).foldl withDefinition []

/-- The methods that a history offers to the slot. -/
def offers (id : EntityId) (history : List Operation) : List Routine :=
  history.filterMap (Operation.offer? id)

namespace Store

/-- What comes of an operation: the slot that it gives or fills, or why it is refused, and the store
as it is then. -/
def perform (store : Store) : Operation → Except StoreError (Option EntityId) × Store
  | .intern refid => (.ok (some (store.intern refid).1), (store.intern refid).2)
  | .define refid entity =>
    ((store.install refid entity).1.map some, (store.install refid entity).2)
  | .attach id method => (.ok none, store.attach id method)
  | .addFunction f => (.ok none, store.addFunction f)
  | .addFile file =>
    match store.addFile file with
    | .ok after => (.ok none, after)
    | .error e => (.error e, store)

/-- The store after a history, whatever came of the single operations. -/
def after (store : Store) (history : List Operation) : Store :=
  history.foldl (fun store op => (store.perform op).2) store

variable {store : Store} {id : EntityId} {refid : String} {entity : Entity} {op : Operation}
  {history : List Operation}

@[simp]
lemma after_nil (store : Store) : store.after [] = store := rfl

@[simp]
lemma after_cons (store : Store) (op : Operation) (history : List Operation) :
    store.after (op :: history) = (store.perform op).2.after history := rfl

lemma after_append (store : Store) (history more : List Operation) :
    store.after (history ++ more) = (store.after history).after more :=
  List.foldl_append

/-! ## One operation -/

/-- Files and free functions play no part in what a store knows of entities. -/
lemma slots_perform_addFile (store : Store) (file : Declaration) :
    (store.perform (.addFile file)).2.slots = store.slots ∧
      (store.perform (.addFile file)).2.order = store.order := by
  rw [perform, addFile_eq]
  split_ifs <;> exact ⟨rfl, rfl⟩

lemma refids_install (store : Store) (refid : String) (entity : Entity) :
    (store.install refid entity).2.refids = (store.intern refid).2.refids := by
  rw [install_eq]
  split_ifs
  · rfl
  · exact refids_fill (store.getElem?_refids_intern refid) entity

/-- Only mentions touch the reference ids, and they add at most one at the end. -/
lemma refids_perform (store : Store) (op : Operation) :
    (store.perform op).2.refids =
      op.refid?.elim store.refids fun refid => (store.intern refid).2.refids := by
  cases op with
  | intern refid => rfl
  | define refid entity => exact store.refids_install refid entity
  | attach id method => exact store.refids_attach id method
  | addFunction f => rfl
  | addFile file => exact congrArg (·.toList.map Slot.refid) (store.slots_perform_addFile file).1

lemma prefix_perform (store : Store) (op : Operation) :
    store.refids <+: (store.perform op).2.refids := by
  rw [refids_perform]
  cases op.refid? with
  | none => exact List.prefix_rfl
  | some refid => exact store.prefix_intern refid

lemma mem_refids_perform (store : Store) (op : Operation) (r : String) :
    r ∈ (store.perform op).2.refids ↔ r ∈ store.refids ∨ op.refid? = some r := by
  rw [refids_perform]
  cases op.refid? with
  | none => simp
  | some refid =>
      rw [Option.elim_some, refids_intern]
      split_ifs with hmem
      · grind
      · grind

lemma Coherent.perform (h : store.Coherent) (op : Operation) :
    (store.perform op).2.Coherent := by
  cases op with
  | intern refid => exact h.intern refid
  | define refid entity => exact h.install refid entity
  | attach id method => exact h.attach id method
  | addFunction f => exact h.of_slots rfl rfl
  | addFile file =>
      obtain ⟨hslots, horder⟩ := store.slots_perform_addFile file
      exact h.of_slots hslots horder

/-- A definition is refused, and nothing changes, if the slot is filled. -/
lemma perform_define_of_some (h : store.lookup refid = some id)
    (hdef : (store.definition? id).isSome = true) (entity : Entity) :
    store.perform (.define refid entity) = (.error (.duplicateDefinition refid), store) := by
  have hintern : store.intern refid = (id, store) := by rw [intern, h]
  rw [perform, install_eq, hintern, if_pos hdef]
  rfl

/-- A definition fills a slot that is free, and the store answers with that slot. -/
lemma perform_define_of_none (hfree : store.definition? (store.intern refid).1 = none)
    (entity : Entity) :
    store.perform (.define refid entity) =
      (.ok (some (store.intern refid).1),
        (store.intern refid).2.fill (store.intern refid).1 refid entity) := by
  rw [perform, install_eq, if_neg (by simp [hfree])]
  rfl

/-- Nothing changes when an operation is refused, so histories with and without it lead to the same
store. -/
lemma snd_perform_of_error {e : StoreError} (h : (store.perform op).1 = .error e) :
    (store.perform op).2 = store := by
  cases op with
  | intern refid => contradiction
  | define refid entity =>
      by_cases hfree : store.definition? (store.intern refid).1 = none
      · rw [perform_define_of_none hfree] at h
        contradiction
      · -- the slot is there, so that interning has not changed the store either
        obtain ⟨found, hfound⟩ := Option.ne_none_iff_exists'.1 hfree
        cases hlookup : store.lookup refid with
        | some id =>
            have hid : (store.intern refid).1 = id := by rw [intern, hlookup]
            rw [perform_define_of_some hlookup (by rw [← hid, hfound]; rfl)]
        | none =>
            have hid : (store.intern refid).1 = ⟨store.size⟩ := by rw [intern, hlookup]
            exact absurd (hid ▸ slot_lt_of_definition? hfound) (Nat.lt_irrefl _)
  | attach id method => contradiction
  | addFunction f => contradiction
  | addFile file =>
      rw [perform] at h ⊢
      cases hfile : store.addFile file with
      | ok after => rw [hfile] at h; contradiction
      | error e => rfl

/-- A definition stays and takes the methods that are offered to its slot; nothing else touches
it. -/
lemma definition?_perform (h : store.definition? id = some entity) (op : Operation) :
    (store.perform op).2.definition? id =
      some (entity.extend [] [] (op.offer? id).toList) := by
  cases op with
  | intern refid => rw [perform, definition?_intern, h, Operation.offer?, Option.toList_none,
      Entity.extend_nil]
  | define refid other =>
      rw [Operation.offer?, Option.toList_none, Entity.extend_nil]
      by_cases hfree : store.definition? (store.intern refid).1 = none
      · have hid : id ≠ (store.intern refid).1 := by
          rintro rfl
          rw [hfree] at h
          contradiction
        rw [perform_define_of_none hfree, definition?_fill (store.slot_intern_lt refid),
          if_neg hid, definition?_intern, h]
      · have hsome : (store.definition? (store.intern refid).1).isSome = true := by
          simpa [Option.isSome_iff_ne_none] using hfree
        rw [perform, install_eq, if_pos hsome, definition?_intern, h]
  | attach other method =>
      rw [perform, definition?_attach, h, Operation.offer?]
      by_cases hid : other = id
      · rw [if_pos hid.symm, if_pos hid, Option.map_some, Entity.attach_eq]
        rfl
      · rw [if_neg fun heq => hid heq.symm, if_neg hid, Option.toList_none, Entity.extend_nil]
  | addFunction f => rw [Operation.offer?, Option.toList_none, Entity.extend_nil, ← h]; rfl
  | addFile file =>
      rw [Operation.offer?, Option.toList_none, Entity.extend_nil, ← h, definition?, definition?,
        (store.slots_perform_addFile file).1]

/-- Interning changes no slot that is there, as a new one comes behind the others. -/
lemma getElem?_intern {slot : Slot} (h : store.slots[id.slot]? = some slot) (refid : String) :
    (store.intern refid).2.slots[id.slot]? = some slot := by
  rcases store.getElem?_slots_intern refid id.slot with hsame | ⟨hnone, _⟩
  · rw [hsame, h]
  · rw [hnone] at h
    contradiction

/-- What awaits its definition takes methods, and nothing else happens to it. -/
lemma getElem?_perform {methods : List Routine}
    (h : store.slots[id.slot]? = some (.undefined refid methods))
    (hop : ∀ entity, op ≠ .define refid entity) :
    (store.perform op).2.slots[id.slot]? =
      some (.undefined refid (methods ++ novel methods (op.offer? id).toList)) := by
  have hkept : ∀ slots : Array Slot, slots[id.slot]? = some (.undefined refid methods) →
      slots[id.slot]? = some (.undefined refid (methods ++ novel methods [])) := by
    intro slots hslots
    rw [hslots, novel, List.append_nil]
  cases op with
  | intern other => exact hkept _ (getElem?_intern h other)
  | define other entity =>
      have hinterned := getElem?_intern h other
      rw [perform, install_eq]
      split_ifs
      · exact hkept _ hinterned
      · have hslot : (store.intern other).1.slot ≠ id.slot := by
          intro hsame
          have hother := store.getElem?_refids_intern other
          rw [hsame, getElem?_refids, hinterned] at hother
          exact hop entity (congrArg (Operation.define · entity) (Option.some.inj hother).symm)
        refine hkept _ ?_
        rw [fill, Array.getElem?_setIfInBounds_ne hslot, hinterned]
  | attach other method =>
      rw [perform, attach, Array.getElem?_modify, Operation.offer?]
      by_cases hid : other = id
      · subst hid
        rw [if_pos rfl, if_pos rfl, h, Option.map_some, Slot.attach, Option.toList_some, novel]
        split_ifs <;> simp [novel]
      · have hslot : other.slot ≠ id.slot := by
          intro hsame
          exact hid (by cases other; cases id; simp_all)
        rw [if_neg hslot, if_neg hid]
        exact hkept _ h
  | addFunction f => exact hkept _ h
  | addFile file => exact hkept _ ((store.slots_perform_addFile file).1 ▸ h)

/-! ## All operations -/

/-- Slots are not renumbered: those that there are keep their reference ids for good. -/
lemma prefix_after (store : Store) (history : List Operation) :
    store.refids <+: (store.after history).refids := by
  induction history generalizing store with
  | nil => exact List.prefix_rfl
  | cons op history ih => exact (store.prefix_perform op).trans (ih _)

lemma offers_cons (id : EntityId) (op : Operation) (history : List Operation) :
    offers id (op :: history) = (op.offer? id).toList ++ offers id history := by
  rw [offers, List.filterMap_cons, ← offers]
  cases op.offer? id <;> rfl

/-- A definition stays for good and takes the methods that are offered to its slot. -/
lemma definition?_after (h : store.definition? id = some entity) (history : List Operation) :
    (store.after history).definition? id = some (entity.extend [] [] (offers id history)) := by
  induction history generalizing store entity with
  | nil => rw [after_nil, h, offers, List.filterMap_nil, Entity.extend_nil]
  | cons op history ih =>
      rw [after_cons, ih (definition?_perform h op), offers_cons, Entity.extend_extend]
      rfl

/-- Until it is defined, an entity takes the methods that are offered to its slot. -/
lemma getElem?_after {methods : List Routine}
    (h : store.slots[id.slot]? = some (.undefined refid methods))
    (hhistory : ∀ entity, .define refid entity ∉ history) :
    (store.after history).slots[id.slot]? =
      some (.undefined refid (methods ++ novel methods (offers id history))) := by
  induction history generalizing store methods with
  | nil => rw [after_nil, h, offers, List.filterMap_nil, novel, List.append_nil]
  | cons op history ih =>
      have hop : ∀ entity, op ≠ .define refid entity := by
        rintro entity rfl
        exact hhistory entity (by simp)
      rw [after_cons, ih (getElem?_perform h hop) fun entity hmem =>
        hhistory entity (List.mem_cons_of_mem _ hmem), offers_cons, novel_append,
        List.append_assoc]

/-! ## What a history says -/

lemma mentions_append (history : List Operation) (op : Operation) :
    mentions (history ++ [op]) = mentions history ++ op.refid?.toList := by
  rw [mentions, List.filterMap_append, ← mentions]
  cases h : op.refid? <;> simp [h]

lemma firstDefinitions_append (history : List Operation) (op : Operation) :
    firstDefinitions (history ++ [op]) =
      op.definition?.elim (firstDefinitions history)
        (withDefinition (firstDefinitions history)) := by
  rw [firstDefinitions, List.filterMap_append, List.foldl_append, ← firstDefinitions]
  cases h : op.definition? <;> simp [h]

/-- A reference id has a first definition if it has one at all. -/
lemma mem_firstDefinitions (history : List Operation) (refid : String) :
    refid ∈ (firstDefinitions history).map Prod.fst ↔ ∃ entity, .define refid entity ∈ history := by
  induction history using List.reverseRecOn with
  | nil => simp [firstDefinitions]
  | append_singleton history op ih =>
      rw [firstDefinitions_append]
      cases op with
      | define other entity =>
          rw [Operation.definition?, Option.elim_some, withDefinition]
          split_ifs with hmem
          · have hcovered : refid = other → ∃ entity, .define refid entity ∈ history :=
              fun hrefid => ih.1 (hrefid ▸ hmem)
            grind
          · simp only [List.map_append, List.mem_append, ih]
            grind
      | intern _ | attach _ _ | addFunction _ | addFile _ =>
          simp [Operation.definition?, ih]

/-! ## The invariant -/

lemma eq_of_lookup_eq {other : String} (h : store.lookup refid = some id)
    (hother : store.lookup other = some id) : refid = other :=
  Option.some.inj ((getElem?_refids_of_lookup h).symm.trans (getElem?_refids_of_lookup hother))

/-- What the store knows is what the history says: the reference ids in the slots are those that
were mentioned, and what is defined is, slot by slot, what was defined first. -/
structure Recounts (history : List Operation) (store : Store) : Prop where
  coherent : store.Coherent
  mem_refids : ∀ r, r ∈ store.refids ↔ r ∈ mentions history
  made : store.ordered.map (fun p => (some p.1, p.2.head)) =
    (firstDefinitions history).map fun d => (store.lookup d.1, d.2.head)

namespace Recounts

/-- A slot is filled just if its reference id has been defined. -/
lemma isSome_definition?_iff (h : Recounts history store) (hid : store.lookup refid = some id) :
    (store.definition? id).isSome = true ↔ refid ∈ (firstDefinitions history).map Prod.fst := by
  rw [Option.isSome_iff_exists, List.mem_map]
  constructor
  · rintro ⟨entity, hentity⟩
    have hmem := List.mem_map_of_mem (f := fun p => (some p.1, p.2.head))
      ((mem_ordered h.coherent).2 hentity)
    rw [h.made, List.mem_map] at hmem
    obtain ⟨d, hd, heq⟩ := hmem
    exact ⟨d, hd, eq_of_lookup_eq (congrArg Prod.fst heq) hid⟩
  · rintro ⟨d, hd, rfl⟩
    have hmem := List.mem_map_of_mem (f := fun d => (store.lookup d.1, d.2.head)) hd
    rw [← h.made, List.mem_map] at hmem
    obtain ⟨p, hp, heq⟩ := hmem
    obtain rfl : p.1 = id := Option.some.inj ((congrArg Prod.fst heq).trans hid)
    exact ⟨p.2, (mem_ordered h.coherent).1 hp⟩

/-- What is defined has a slot, in which its definition is. -/
lemma exists_lookup (h : Recounts history store) {d : String × Entity}
    (hd : d ∈ firstDefinitions history) : ∃ id, store.lookup d.1 = some id := by
  have hmem := List.mem_map_of_mem (f := fun d => (store.lookup d.1, d.2.head)) hd
  rw [← h.made, List.mem_map] at hmem
  obtain ⟨p, _, heq⟩ := hmem
  exact ⟨p.1, (congrArg Prod.fst heq).symm⟩

/-- A definition can be made just if none has been made for its reference id. -/
lemma definition?_intern_eq_none_iff (h : Recounts history store) (refid : String) :
    store.definition? (store.intern refid).1 = none ↔
      refid ∉ (firstDefinitions history).map Prod.fst := by
  cases hlookup : store.lookup refid with
  | some id =>
      rw [← h.isSome_definition?_iff hlookup, intern, hlookup, Bool.not_eq_true,
        Option.isSome_eq_false_iff, Option.isNone_iff_eq_none]
  | none =>
      refine iff_of_true ?_ fun hmem => ?_
      · rw [intern, hlookup, definition?, size, Array.getElem?_size]
        rfl
      · obtain ⟨d, hd, rfl⟩ := List.mem_map.1 hmem
        obtain ⟨id, hid⟩ := h.exists_lookup hd
        rw [hlookup] at hid
        contradiction

/-- The definitions are in the same slots when the store has grown, as slots are added behind
them. -/
lemma made_of_grown (h : Recounts history store) {other : Store}
    (hgrown : store.refids <+: other.refids) :
    store.ordered.map (fun p => (some p.1, p.2.head)) =
      (firstDefinitions history).map fun d => (other.lookup d.1, d.2.head) := by
  rw [h.made]
  refine List.map_congr_left fun d hd => ?_
  obtain ⟨id, hid⟩ := h.exists_lookup hd
  rw [hid, lookup_of_grown hgrown hid]

/-- An operation that defines nothing leaves the definitions as they are, up to methods. -/
lemma heads_perform (h : store.Coherent) (op : Operation)
    (horder : (store.perform op).2.order = store.order) :
    (store.perform op).2.ordered.map (fun p => (some p.1, p.2.head)) =
      store.ordered.map fun p => (some p.1, p.2.head) := by
  rw [ordered, ordered, horder, List.map_filterMap, List.map_filterMap]
  refine List.filterMap_congr fun id hid => ?_
  obtain ⟨entity, hentity⟩ := Option.isSome_iff_exists.1 ((h.mem_order id).1 hid)
  rw [definition?_perform hentity op, hentity]
  simp

/-- One more operation is recounted as well. -/
lemma perform (h : Recounts history store) (op : Operation) :
    Recounts (history ++ [op]) (store.perform op).2 where
  coherent := h.coherent.perform op
  mem_refids := by
    intro r
    rw [mem_refids_perform, h.mem_refids, mentions_append, List.mem_append, Option.mem_toList]
  made := by
    have hmade := h.made_of_grown (store.prefix_perform op)
    rw [firstDefinitions_append]
    cases op with
    | intern refid =>
        have hslots := heads_perform h.coherent (.intern refid)
          (by rw [Store.perform, intern_frame])
        exact hslots.trans hmade
    | attach id method => exact (heads_perform h.coherent (.attach id method) rfl).trans hmade
    | addFunction f => exact hmade
    | addFile file =>
        have hslots := heads_perform h.coherent (.addFile file) (store.slots_perform_addFile file).2
        exact hslots.trans hmade
    | define refid entity =>
        rw [Operation.definition?, Option.elim_some, withDefinition]
        split_ifs with hmem
        · -- there is a definition, so that this one is refused
          refine (heads_perform h.coherent (.define refid entity) ?_).trans hmade
          have hsome : (store.definition? (store.intern refid).1).isSome = true := by
            rw [Option.isSome_iff_ne_none, Ne, h.definition?_intern_eq_none_iff refid, not_not]
            exact hmem
          rw [Store.perform, install_eq, if_pos hsome]
          rw [intern_frame]
        · have hfree := (h.definition?_intern_eq_none_iff refid).2 hmem
          have hslot := store.getElem?_refids_intern refid
          have hlookup : ((store.intern refid).2.fill (store.intern refid).1 refid entity).lookup
              refid = some (store.intern refid).1 := by
            rw [lookup_eq_idxOf?, refids_fill hslot, ← lookup_eq_idxOf?, lookup_intern]
          rw [perform_define_of_none hfree] at hmade ⊢
          rw [ordered_fill (h.coherent.intern refid) (store.slot_intern_lt refid)
            (by rw [definition?_intern, hfree]), ordered_intern, List.map_append, List.map_append,
            ← hmade]
          simp [hlookup]

end Recounts

/-- **The store after a history knows what the history says**, by induction from the end of the
history. -/
lemma recounts_after (history : List Operation) :
    Recounts history (({} : Store).after history) := by
  induction history using List.reverseRecOn with
  | nil =>
      exact ⟨.empty, fun r => Iff.rfl, rfl⟩
  | append_singleton history op ih =>
      rw [after_append]
      exact ih.perform op

/-! ## Views -/

/-- The order of the entities in the output: by Go name, then by reference id, then by slot.  Two
entities that were installed under others' reference ids may get as far as the slot. -/
def Precedes (p q : EntityId × Entity) : Prop :=
  (sortKey p.2).1 < (sortKey q.2).1 ∨ (sortKey p.2).1 = (sortKey q.2).1 ∧
    ((sortKey p.2).2 < (sortKey q.2).2 ∨
      (sortKey p.2).2 = (sortKey q.2).2 ∧ p.1.slot < q.1.slot)

lemma sorted_pairwise (store : Store) : store.sorted.Pairwise Precedes := by
  have hsorted := pairwise_mergeSort_of_pairwise entityLe_trans entityLe_total
    store.definitions_pairwise
  refine hsorted.imp fun {p q} hpq => ?_
  obtain ⟨hle, hties⟩ := hpq
  rw [entityLe_iff] at hle hties
  rcases hle with hname | ⟨hname, hrefid⟩
  · exact .inl hname
  · refine .inr ⟨hname, ?_⟩
    by_cases hback : (sortKey q.2).2 ≤ (sortKey p.2).2
    · exact .inr ⟨String.le_antisymm hrefid hback, hties (.inr ⟨hname.symm, hback⟩)⟩
    · exact .inl (String.not_le.1 hback)

lemma mem_sorted : (id, entity) ∈ store.sorted ↔ store.definition? id = some entity := by
  rw [sorted, List.mem_mergeSort, mem_definitions]

/-- What is awaited is listed in order and once. -/
lemma unresolved_pairwise (h : store.Coherent) : store.unresolved.Pairwise (· < ·) := by
  have hnodup : store.unresolved.Nodup := by
    rw [unresolved, (List.mergeSort_perm _ _).nodup_iff]
    exact h.nodup.sublist (List.filter_sublist.map Slot.refid)
  have htrans : ∀ a b c, textLe a b = true → textLe b c = true → textLe a c = true :=
    fun a b c => textLe_trans
  have hsorted : store.unresolved.Pairwise fun a b => textLe a b = true :=
    List.pairwise_mergeSort htrans textLe_total _
  refine (hsorted.and hnodup).imp fun {a b} hab => ?_
  exact String.not_le.1 fun hba => hab.2 (String.le_antisymm (textLe_iff.1 hab.1) hba)

lemma mem_unresolved (h : store.Coherent) :
    refid ∈ store.unresolved ↔ ∃ id, store.lookup refid = some id ∧ store.isDefined id = false := by
  simp only [unresolved, List.mem_mergeSort, List.mem_map, List.mem_filter]
  constructor
  · rintro ⟨slot, ⟨hslot, hfree⟩, rfl⟩
    obtain ⟨i, hi⟩ := List.mem_iff_getElem?.1 hslot
    rw [Array.getElem?_toList] at hi
    refine ⟨⟨i⟩, (lookup_eq_some_iff h.nodup).2 ?_, ?_⟩
    · rw [getElem?_refids, hi]
      rfl
    · rw [isDefined, hi]
      simpa using hfree
  · rintro ⟨id, hid, hfree⟩
    have hrefid := getElem?_refids_of_lookup hid
    rw [getElem?_refids, Option.map_eq_some_iff] at hrefid
    obtain ⟨slot, hslot, rfl⟩ := hrefid
    rw [isDefined, hslot] at hfree
    refine ⟨slot, ⟨?_, by simpa using hfree⟩, rfl⟩
    rw [← Array.getElem?_toList] at hslot
    exact List.mem_of_getElem? hslot

/-! ## The answers -/

/-- What is known of something that awaits its definition. -/
lemma entity?_of_undefined {methods : List Routine}
    (h : store.slots[id.slot]? = some (.undefined refid (novel [] methods))) :
    store.entity? id = some ((Entity.placeholder refid).extend [] [] methods) := by
  rw [entity?, h]
  rfl

/-- What a store answers after a history that began with nothing: each field is one question that it
can be asked. -/
structure Answers (history : List Operation) (store : Store) : Prop where
  /-- The reference ids that were mentioned have slots, and no others. -/
  known : ∀ refid, (∃ id, store.lookup refid = some id) ↔ refid ∈ mentions history
  injective : ∀ refid other id, store.lookup refid = some id → store.lookup other = some id →
    refid = other
  /-- All slots are slots of reference ids. -/
  onto : ∀ id, (∃ refid, store.lookup refid = some id) ↔ id.slot < store.size
  /-- The slot of a reference id is the same ever after. -/
  lasting : ∀ more refid id, store.lookup refid = some id →
    (store.after more).lookup refid = some id
  /-- Mentioning a reference id gives its slot. -/
  given : ∀ op id, (store.perform op).1 = .ok (some id) →
    ∃ refid, op.refid? = some refid ∧ (store.perform op).2.lookup refid = some id
  /-- A slot has been filled if its reference id has been defined. -/
  isDefined_iff : ∀ refid id, store.lookup refid = some id →
    (store.isDefined id = true ↔ ∃ entity, .define refid entity ∈ history)
  /-- The first definition of a reference id is what there is, with the methods that came later. -/
  filled : ∀ before refid entity rest, history = before ++ .define refid entity :: rest →
    (∀ entity', .define refid entity' ∉ before) →
      ∃ id, store.lookup refid = some id ∧ store.isDefined id = true ∧
        store.entity? id = some (entity.extend [] [] (offers id rest))
  /-- What has only been mentioned is a placeholder, with the methods that came later. -/
  awaited : ∀ before refid rest, history = before ++ .intern refid :: rest →
    refid ∉ mentions before → (∀ entity, .define refid entity ∉ rest) →
      ∃ id, store.lookup refid = some id ∧ store.isDefined id = false ∧
        store.entity? id = some ((Entity.placeholder refid).extend [] [] (offers id rest))
  /-- What is defined stays so, and gets nothing but methods. -/
  kept : ∀ more id entity, store.isDefined id = true → store.entity? id = some entity →
    (store.after more).isDefined id = true ∧
      (store.after more).entity? id = some (entity.extend [] [] (offers id more))
  /-- A second definition of a reference id is refused, and no other. -/
  refuses_iff : ∀ refid entity e, (store.perform (.define refid entity)).1 = .error e ↔
    e = .duplicateDefinition refid ∧ ∃ entity', .define refid entity' ∈ history
  /-- What is refused changes nothing. -/
  unchanged : ∀ op e, (store.perform op).1 = .error e → (store.perform op).2 = store
  /-- Of several definitions under a name the first is found. -/
  findByName_eq : ∀ name, store.findByName name = if name = "" then none
    else ((firstDefinitions history).find? (·.2.name == name)).bind fun d => store.lookup d.1
  unresolved_pairwise : store.unresolved.Pairwise (· < ·)
  mem_unresolved : ∀ refid, refid ∈ store.unresolved ↔
    ∃ id, store.lookup refid = some id ∧ store.isDefined id = false
  sorted_pairwise : store.sorted.Pairwise Precedes
  sorted_nodup : (store.sorted.map Prod.fst).Nodup
  mem_sorted : ∀ id entity, (id, entity) ∈ store.sorted ↔
    store.isDefined id = true ∧ store.entity? id = some entity

lemma definition?_eq_some_iff_isDefined :
    store.definition? id = some entity ↔
      store.isDefined id = true ∧ store.entity? id = some entity := by
  constructor
  · intro h
    rw [isDefined_eq, h]
    exact ⟨rfl, entity?_of_definition? h⟩
  · rintro ⟨hdef, hentity⟩
    rw [isDefined_eq] at hdef
    obtain ⟨found, hfound⟩ := Option.isSome_iff_exists.1 hdef
    rw [hfound, ← entity?_of_definition? hfound, hentity]

/-- Mentioning a reference id gives its slot, whether it had one before or not. -/
lemma lookup_of_perform (h : (store.perform op).1 = .ok (some id)) :
    ∃ refid, op.refid? = some refid ∧ (store.perform op).2.lookup refid = some id := by
  cases op with
  | intern refid =>
      obtain rfl : (store.intern refid).1 = id := by simpa [perform] using h
      exact ⟨refid, rfl, store.lookup_intern refid⟩
  | define refid entity =>
      refine ⟨refid, rfl, ?_⟩
      rw [perform, install_eq] at h ⊢
      split_ifs at h ⊢
      · contradiction
      · obtain rfl : (store.intern refid).1 = id := by simpa [Except.map] using h
        rw [lookup_eq_idxOf?, refids_fill (store.getElem?_refids_intern refid),
          ← lookup_eq_idxOf?, lookup_intern]
  | attach _ _ => simp [perform] at h
  | addFunction _ => simp [perform] at h
  | addFile file =>
      rw [perform, addFile_eq] at h
      split_ifs at h
      all_goals simp at h

namespace Recounts

lemma findByName_eq (h : Recounts history store) (name : String) :
    store.findByName name = if name = "" then none
      else ((firstDefinitions history).find? (·.2.name == name)).bind
        fun d => store.lookup d.1 := by
  have hmade := congrArg (List.find? (·.2.name == name)) h.made
  rw [List.find?_map, List.find?_map] at hmade
  have hfound := congrArg (Option.bind · Prod.fst) hmade
  simp only [Option.bind_map] at hfound
  rw [Store.findByName_eq h.coherent]
  split_ifs with hname
  · rfl
  · rw [Option.map_eq_bind]
    exact hfound

/-- A definition is refused just if there is one for its reference id in the history. -/
lemma perform_define_eq_error_iff (h : Recounts history store) {e : StoreError} :
    (store.perform (.define refid entity)).1 = .error e ↔
      e = .duplicateDefinition refid ∧ ∃ entity', .define refid entity' ∈ history := by
  rw [← mem_firstDefinitions]
  by_cases hmem : refid ∈ (firstDefinitions history).map Prod.fst
  · obtain ⟨d, hd, rfl⟩ := List.mem_map.1 hmem
    obtain ⟨id, hid⟩ := h.exists_lookup hd
    rw [perform_define_of_some hid ((h.isSome_definition?_iff hid).2 hmem)]
    simp [hmem, eq_comm]
  · rw [perform_define_of_none ((h.definition?_intern_eq_none_iff refid).2 hmem)]
    simp [hmem]

/-- The first definition of a reference id is there afterwards, with what was attached to it. -/
lemma exists_filled (h : Recounts history store)
    (hfirst : ∀ entity', .define refid entity' ∉ history) (entity : Entity)
    (rest : List Operation) :
    ∃ id, (store.after (.define refid entity :: rest)).lookup refid = some id ∧
      (store.after (.define refid entity :: rest)).definition? id =
        some (entity.extend [] [] (offers id rest)) := by
  have hmem : refid ∉ (firstDefinitions history).map Prod.fst := by
    rw [mem_firstDefinitions]
    exact fun ⟨entity', hentity'⟩ => hfirst entity' hentity'
  have hfree := (h.definition?_intern_eq_none_iff refid).2 hmem
  have hlookup : (store.perform (.define refid entity)).2.lookup refid =
      some (store.intern refid).1 := by
    have hgiven := lookup_of_perform (congrArg Prod.fst (perform_define_of_none hfree entity))
    obtain ⟨other, hother, hlookup⟩ := hgiven
    cases hother
    exact hlookup
  have hfilled : (store.perform (.define refid entity)).2.definition? (store.intern refid).1 =
      some entity := by
    rw [perform_define_of_none hfree, definition?_fill (store.slot_intern_lt refid), if_pos rfl]
  exact ⟨(store.intern refid).1, lookup_of_grown (prefix_after _ rest) hlookup,
    definition?_after hfilled rest⟩

/-- What is mentioned and not defined is a placeholder, with what was attached to it. -/
lemma exists_awaited (h : Recounts history store) (hnew : refid ∉ mentions history)
    {rest : List Operation} (hrest : ∀ entity, .define refid entity ∉ rest) :
    ∃ id, (store.after (.intern refid :: rest)).lookup refid = some id ∧
      (store.after (.intern refid :: rest)).slots[id.slot]? =
        some (.undefined refid (novel [] (offers id rest))) := by
  have hfresh : refid ∉ store.refids := fun hmem => hnew ((h.mem_refids refid).1 hmem)
  have hslot : (store.intern refid).2.slots[(store.intern refid).1.slot]? =
      some (.undefined refid []) := by
    rw [intern_eq, if_neg hfresh]
    exact Array.getElem?_push_size
  exact ⟨(store.intern refid).1,
    lookup_of_grown (prefix_after _ rest) (store.lookup_intern refid), getElem?_after hslot hrest⟩

end Recounts

/-- **A store answers what follows from its history**: reference ids and slots correspond for good,
each slot is filled once, by the first definition of its reference id, the views by name, of what is
awaited and in order list just what there is, and what is refused changes nothing. -/
theorem answers_after (history : List Operation) :
    Answers history (({} : Store).after history) where
  known := by
    intro refid
    rw [← (recounts_after history).mem_refids, ← Option.ne_none_iff_exists', Ne,
      lookup_eq_none_iff, not_not]
  injective := fun refid other id => eq_of_lookup_eq
  onto := by
    intro id
    refine ⟨fun ⟨refid, hid⟩ => slot_lt_of_lookup hid, fun hlt => ?_⟩
    rw [← length_refids] at hlt
    exact ⟨_, (lookup_eq_some_iff (recounts_after history).coherent.nodup).2
      (List.getElem?_eq_getElem hlt)⟩
  lasting := fun more refid id => lookup_of_grown (prefix_after _ more)
  given := fun op id => lookup_of_perform
  isDefined_iff := by
    intro refid id hid
    rw [isDefined_eq, (recounts_after history).isSome_definition?_iff hid, mem_firstDefinitions]
  filled := by
    rintro before refid entity rest rfl hfirst
    obtain ⟨id, hid, hdef⟩ := (recounts_after before).exists_filled hfirst entity rest
    rw [after_append]
    exact ⟨id, hid, definition?_eq_some_iff_isDefined.1 hdef⟩
  awaited := by
    rintro before refid rest rfl hnew hrest
    obtain ⟨id, hid, hslot⟩ := (recounts_after before).exists_awaited hnew hrest
    rw [after_append]
    refine ⟨id, hid, ?_, entity?_of_undefined hslot⟩
    rw [isDefined, hslot]
    rfl
  kept := by
    intro more id entity hdef hentity
    rw [← definition?_eq_some_iff_isDefined]
    exact definition?_after (definition?_eq_some_iff_isDefined.2 ⟨hdef, hentity⟩) more
  refuses_iff := fun refid entity e => (recounts_after history).perform_define_eq_error_iff
  unchanged := fun op e => snd_perform_of_error
  findByName_eq := (recounts_after history).findByName_eq
  unresolved_pairwise := unresolved_pairwise (recounts_after history).coherent
  mem_unresolved := fun refid => mem_unresolved (recounts_after history).coherent
  sorted_pairwise := sorted_pairwise _
  sorted_nodup := by
    rw [sorted, ((List.mergeSort_perm _ _).map Prod.fst).nodup_iff, List.Nodup, List.pairwise_map]
    exact (definitions_pairwise _).imp fun hlt heq => absurd (heq ▸ hlt) (Nat.lt_irrefl _)
  mem_sorted := fun id entity => mem_sorted.trans definition?_eq_some_iff_isDefined

end Store

end FrameworkBindings
