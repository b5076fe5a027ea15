import FrameworkBindings.Proofs.Loading.Index
import FrameworkBindings.Proofs.Loading.Settling

/-!
# The ledger of a load

No function of the documentation is lost or counted twice.  A function that an entry lists goes one
of six ways.  It is free, it joins the entity under which it is listed, or it finds its name taken
there; otherwise it waits, and the second pass lets it join its receiver, finds its name taken, or
finds nobody to take it.

* `listedFunctions` — the functions that an entry lists.
* `Effect.Accounts` — an effect whose counters say where functions went.  Effects are appended and
  numbers added (`Accounts.append`); `accounts_entryEffect` is the effect of an entry.
* `Loader.Balanced` — the counters of a loader agree with its store and with the functions listed so
  far.  An entry keeps this (`Balanced.loadEntry`), and so does the second pass
  (`Balanced.finish`).
* **`ledger_of_loads`** — the balance after any sequence of entries.

**Counters against lists.**  Each balance has a counter on one side and something that is there on
the other: methods in the store, free functions, waiting methods, functions in documents.  No
balance compares counters with each other alone, but for that of the entries by kind.

**Successful loads.**  An entry that is refused half way leaves functions of its first sections in
the loader, but its entity, with the methods that were counted for it, is gone.  So the balance is
one of entries that were loaded.

**The second pass.**  It is counted entity by entity (`settlementOf`), and summed up method by
method (`settles_settlementOf`): each one is attached, a duplicate, or taken by nobody.
-/

namespace FrameworkBindings

open Document Loading

/-! ## What is counted -/

/-- The functions in a function section; in sections of any other kind there are none. -/
def Loading.sectionFunctions (s : Section) : List Member :=
  match s.sectionKind with
  | .functions _ => functionMembers s
  | _ => []

/-- The functions that an entry lists, if it stands for an entity or a file.  Nothing is looked at
under an entry that is ignored. -/
def Loading.listedFunctions (entry : IndexEntry) (compound : Compound) : List Member :=
  if entry.compoundKind = .other then [] else compound.sections.flatMap sectionFunctions

/-- How many methods an entity has; none, if its kind has no methods. -/
def Entity.methodCount (entity : Entity) : ℕ := (entity.methods?.getD []).length

/-- How many methods the entities of a store have, slots that were never defined included. -/
def Store.methodCount (store : Store) : ℕ :=
  (store.slots.toList.map fun slot => slot.entity.methodCount).sum

namespace LoadStats

/-- How many entries were counted by kind, those that were ignored included. -/
def kinds (s : LoadStats) : ℕ := s.structs + s.protocols + s.unions + s.files + s.ignored

/-- How many functions were counted where they ended.  Deferred methods are not among them, as they
have not ended anywhere yet. -/
def placed (s : LoadStats) : ℕ :=
  s.methods + s.attached + s.unattached + s.duplicateMethods + s.freeFunctions

/-- What is counted by kind adds up as counters do. -/
lemma kinds_add (s t : LoadStats) : (s + t).kinds = s.kinds + t.kinds := by
  simp only [kinds, counters_add]
  omega

/-- What is counted where it ended adds up as counters do. -/
lemma placed_add (s t : LoadStats) : (s + t).placed = s.placed + t.placed := by
  simp only [placed, counters_add]
  omega

end LoadStats

/-! ## Methods of a store -/

namespace Entity

variable {attributes : List Attribute} {properties : List Property} {functions : List Routine}

/-- An entity takes as many methods as are counted when they are offered while it is loaded. -/
lemma methodCount_extend (entity : Entity) :
    (entity.extend attributes properties functions).methodCount =
      entity.methodCount + (attachCounts entity functions).methods := by
  rw [methodCount, methods?_extend, methodCount, attachCounts]
  cases entity.methods? with
  | none => rfl
  | some methods => simp

/-- In the second pass the same is counted under another name. -/
lemma attached_settleCounts (entity : Entity) :
    (settleCounts entity functions).attached = (attachCounts entity functions).methods := by
  rw [settleCounts, attachCounts]
  cases entity.methods? <;> rfl

end Entity

namespace Store

/-- Where no method came before its entity, slots that were never defined have none. -/
lemma sum_methodCount_slots {entry : Slot × ℕ → Option (EntityId × Entity)}
    (hundefined : ∀ refid methods slot, entry (.undefined refid methods, slot) = none)
    (hdefined : ∀ entity refid slot, entry (.defined entity refid, slot) = some (⟨slot⟩, entity))
    (slots : List Slot)
    (hbare : ∀ slot ∈ slots, slot.isDefined = false → slot = .awaited slot.refid) (start : ℕ) :
    (((slots.zipIdx start).filterMap entry).map fun p => p.2.methodCount).sum =
      (slots.map fun slot => slot.entity.methodCount).sum := by
  induction slots generalizing start with
  | nil => rfl
  | cons slot slots ih =>
      rw [List.zipIdx_cons, List.map_cons, List.sum_cons,
        ← ih (fun other hother => hbare other (by simp [hother])) (start + 1),
        List.filterMap_cons]
      cases slot with
      | undefined refid methods =>
          rw [hundefined, hbare (.undefined refid methods) (by simp) rfl]
          exact (zero_add _).symm
      | defined entity refid =>
          rw [hdefined]
          rfl

/-- The methods of a store are those of its definitions, where no method came before its entity. -/
lemma methodCount_eq {store : Store} (h : store.Consistent) :
    store.methodCount = (store.ordered.map fun p => p.2.methodCount).sum := by
  have hbare : ∀ slot ∈ store.slots.toList, slot.isDefined = false →
      slot = .awaited slot.refid := by
    intro slot hslot
    obtain ⟨i, hi⟩ := List.mem_iff_getElem?.1 hslot
    exact h.bare i slot (by simpa using hi)
  have hdefinitions : (store.definitions.map fun p => p.2.methodCount).sum = store.methodCount :=
    sum_methodCount_slots (fun _ _ _ => rfl) (fun _ _ _ => rfl) store.slots.toList hbare 0
  rw [← hdefinitions]
  exact ((definitions_perm h.toCoherent).map _).sum_eq

/-- The second pass adds the methods that it counts as attached. -/
lemma methodCount_settled {store : Store} (h : store.Consistent) (functions : List Routine) :
    (store.mapEntities (store.settled functions)).methodCount =
      store.methodCount + (store.settlementOf functions).attached := by
  have hsum : ∀ ps : List (EntityId × Entity),
      ((ps.map fun p => settleCounts p.2 (store.bound functions p.1)).sum).attached =
        (ps.map fun p => (attachCounts p.2 (store.bound functions p.1)).methods).sum := by
    intro ps
    induction ps with
    | nil => rfl
    | cons p ps ih =>
        simp only [List.map_cons, List.sum_cons, LoadStats.counters_add, ih,
          Entity.attached_settleCounts]
  have hattached : (store.settlementOf functions).attached =
      ((store.ordered.map fun p => settleCounts p.2 (store.bound functions p.1)).sum).attached := by
    simp only [settlementOf, LoadStats.counters_add, add_zero]
  rw [methodCount_eq (h.mapEntities (head_settled store functions)), methodCount_eq h,
    ordered_mapEntities, List.map_map, hattached, hsum, ← List.sum_map_add]
  refine congrArg List.sum (List.map_congr_left fun p _ => ?_)
  exact Entity.methodCount_extend p.2

end Store

/-! ## Effects -/

/-- The counters of the effect say where functions went: `functions` of them, of which `joined` to
an entity. -/
structure Effect.Accounts (e : Effect) (functions joined : ℕ) : Prop where
  entries : e.counts.entries = e.counts.kinds
  placed : e.counts.placed + e.waiting.length = functions
  deferred : e.counts.deferred = e.waiting.length
  joined : e.counts.methods + e.counts.attached = joined
  free : e.counts.freeFunctions = e.free.length

/-- Effects that account for their functions do so one behind the other. -/
lemma Effect.Accounts.append {e e' : Effect} {m n i j : ℕ} (h : e.Accounts m i)
    (h' : e'.Accounts n j) : (e ++ e').Accounts (m + n) (i + j) := by
  obtain ⟨hentries, hplaced, hdeferred, hjoined, hfree⟩ := h
  obtain ⟨hentries', hplaced', hdeferred', hjoined', hfree'⟩ := h'
  constructor <;> simp only [Effect.append_def, LoadStats.counters_add, LoadStats.kinds_add,
    LoadStats.placed_add, List.length_append] <;> omega

namespace Loading

variable {ν : String → EntityId} {entry : IndexEntry} {compound : Compound} {entity : Entity}

lemma accounts_entryCounts (entry : IndexEntry) :
    ({ counts := entryCounts entry } : Effect).Accounts 0 0 := by
  unfold entryCounts
  cases entry.compoundKind <;> exact ⟨rfl, rfl, rfl, rfl, rfl⟩

lemma accounts_reading (refids : List String) (faults : ℕ) :
    (reading refids faults).Accounts 0 0 :=
  ⟨rfl, rfl, rfl, rfl, rfl⟩

/-- Every function is free, the entity's own or somebody else's. -/
lemma length_places (name : String) (functions : List Routine) :
    (freeOf functions).length + (ownOf name functions).length
      + (waitingOf name functions).length = functions.length := by
  induction functions with
  | nil => rfl
  | cons f functions ih =>
      simp only [freeOf, ownOf, waitingOf, bne, List.filter_cons, List.length_cons] at ih ⊢
      cases hfree : f.isFree <;> cases hname : f.receiver == name <;> simp <;> omega

/-- Every function of a file is free or somebody's, and none is both. -/
lemma length_filed (functions : List Routine) :
    (freeOf functions).length + (boundOf functions).length = functions.length := by
  have hcount := List.length_eq_countP_add_countP (l := functions) fun f => f.isFree
  simp only [Bool.not_eq_true, Bool.decide_eq_false] at hcount
  rw [freeOf, boundOf, ← List.countP_eq_length_filter, ← List.countP_eq_length_filter, hcount]

/-- What is offered to an entity that holds methods joins it or is a duplicate. -/
lemma accounts_placing {functions : List Routine} (h : entity.methods? = none → functions = []) :
    (placing entity functions).Accounts functions.length
      (attachCounts entity (ownOf entity.name functions)).methods := by
  have hlength := length_places entity.name functions
  unfold placing attachCounts
  cases hmethods : entity.methods? with
  | none =>
      obtain rfl := h hmethods
      exact ⟨rfl, rfl, rfl, rfl, rfl⟩
  | some methods =>
      have hnovel := length_novel_le methods (ownOf entity.name functions)
      constructor <;> simp only [LoadStats.kinds, LoadStats.placed, LoadStats.counters_add] <;>
        omega

/-- The functions of a file are free or wait; none of them joins anything yet. -/
lemma accounts_filing (functions : List Routine) :
    (filing functions).Accounts functions.length 0 := by
  have hlength := length_filed functions
  refine ⟨rfl, ?_, rfl, rfl, rfl⟩
  simp only [filing, LoadStats.placed]
  omega

/-! ## Entries -/

/-- An entity without methods lists no functions, if it can hold all its sections. -/
lemma routinesOf_eq_nil {sections : List Section} (hmethods : entity.methods? = none)
    (hfits : sections.findSome? (misfit entity) = none) : routinesOf ν sections = [] := by
  have hlacks : entity.kind.hosts .methods = false := by
    rw [← Entity.isSome_methods?, hmethods]
    rfl
  exact flatMap_eq_nil_of_lacks hfits hlacks fun s => sectionRoutines_eq_nil

/-- Every listed function is read as one, whatever its text is. -/
lemma length_routinesOf (ν : String → EntityId) (sections : List Section) :
    (routinesOf ν sections).length = (sections.flatMap sectionFunctions).length := by
  rw [routinesOf, List.length_flatMap, List.length_flatMap]
  refine congrArg List.sum (List.map_congr_left fun s _ => ?_)
  unfold sectionRoutines sectionFunctions
  cases s.sectionKind with
  | functions isStatic => exact List.length_map _
  | attributes _ _ | properties | other => rfl

/-- An entry starts from an entity without methods, so that all it has in the end were counted. -/
lemma methodCount_blank (h : blank? entry compound = some entity) : entity.methodCount = 0 := by
  rw [Entity.methodCount, (members_of_blank h).2.2, List.length_nil]

/-- **The effect of an entry accounts for the functions it lists.**  The methods that join an entity
are those of the entity that is defined in the end. -/
lemma accounts_entryEffect (h : Fits entry compound) :
    (entryEffect ν entry compound).Accounts (listedFunctions entry compound).length
      (((entityOf? ν entry compound).map Entity.methodCount).getD 0) := by
  have hcounts := accounts_entryCounts entry
  unfold entryEffect listedFunctions entityOf?
  cases hblank : blank? entry compound with
  | some entity =>
      have hother : entry.compoundKind ≠ .other := by
        intro hkind
        rw [blank?_of_other hkind] at hblank
        contradiction
      have hplacing : (placing entity (routinesOf ν compound.sections)).Accounts
          (routinesOf ν compound.sections).length
          (attachCounts entity (ownOf entity.name (routinesOf ν compound.sections))).methods :=
        accounts_placing fun hmethods => routinesOf_eq_nil hmethods (h entity hblank)
      have hjoined : (entityFrom ν entity compound.sections).methodCount =
          (attachCounts entity (ownOf entity.name (routinesOf ν compound.sections))).methods := by
        rw [entityFrom, Entity.methodCount_extend, methodCount_blank hblank, zero_add]
      have hwhole := hcounts.append ((accounts_reading
        (compound.sections.flatMap sectionRefids) (compound.sections.map sectionFaults).sum).append
          hplacing)
      simp only [zero_add, length_routinesOf, ← hjoined] at hwhole
      rw [if_neg hother]
      exact hwhole
  | none =>
      by_cases hfile : entry.compoundKind = .file
      · have hwhole := hcounts.append ((accounts_reading
          (compound.sections.flatMap functionRefids)
          (compound.sections.map functionFaults).sum).append
            (accounts_filing (routinesOf ν compound.sections)))
        simp only [zero_add, length_routinesOf] at hwhole
        simp only [hfile, if_true, reduceCtorEq, if_false]
        exact hwhole
      · have hother : entry.compoundKind = .other := by
          unfold blank? at hblank
          split at hblank <;> simp_all
        simp only [hother, reduceCtorEq, if_false, if_true]
        exact hcounts

end Loading

/-! ## Loaders -/

namespace Loader

/-- Entries loaded one after the other, all of them successfully, from one loader to another. -/
inductive Loads : Loader → List (IndexEntry × Compound) → Loader → Prop where
  | nil {l : Loader} : Loads l [] l
  | cons {l l' l'' : Loader} {entry : IndexEntry} {compound : Compound}
      {documents : List (IndexEntry × Compound)}
      (hentry : l.loadEntry entry compound = (.ok (), l')) (hrest : Loads l' documents l'') :
      Loads l ((entry, compound) :: documents) l''

/-- The counters agree with the store, and with the number of functions listed so far.  Waiting
methods are listed and not yet placed. -/
structure Balanced (l : Loader) (functions : ℕ) : Prop where
  consistent : l.store.Consistent
  entries : l.stats.entries = l.stats.kinds
  placed : l.stats.placed + l.pending.length = functions
  joined : l.stats.methods + l.stats.attached = l.store.methodCount
  free : l.stats.freeFunctions = l.store.functions.length

namespace Balanced

variable {l l' : Loader} {functions : ℕ} {entry : IndexEntry} {compound : Compound}

/-- A new loader is balanced, as everything is zero. -/
lemma fresh (journal : Journal) : Balanced { journal } 0 :=
  ⟨.empty, rfl, rfl, rfl, rfl⟩

/-- **An entry that is loaded keeps the balance**, and the methods that it leaves waiting are
counted as deferred. -/
theorem loadEntry (h : Balanced l functions)
    (hentry : l.loadEntry entry compound = (.ok (), l')) :
    Balanced l' (functions + (listedFunctions entry compound).length) ∧
      (l.stats.deferred = l.pending.length → l'.stats.deferred = l'.pending.length) := by
  have hnumbered := l'.store.numberedBy_numbering
  generalize l'.store.numbering = ν at hnumbered
  have hstep : EntryStep ν l entry compound (.ok ()) l' := by
    have hloaded := l.loadEntry_step (ν := ν) entry compound
    rw [hentry] at hloaded
    exact hloaded hnumbered
  rcases adds_of_step hstep h.consistent hnumbered with ⟨_, hadmits, hadds⟩ | ⟨hfails, _⟩
  · obtain ⟨hentries, hplaced, hdeferred, hjoined, hfree⟩ := accounts_entryEffect (ν := ν)
      hadmits.fits
    have hcount : l'.store.methodCount = l.store.methodCount +
        ((entityOf? ν entry compound).map Entity.methodCount).getD 0 := by
      rw [Store.methodCount_eq hadds.consistent, Store.methodCount_eq h.consistent, hadds.ordered]
      cases entityOf? ν entry compound <;> simp
    have hpending := congrArg List.length hadds.pending
    have hfunctions := congrArg List.length hadds.functions
    rw [List.length_append] at hpending hfunctions
    have hbefore := h.entries
    have hplacedBefore := h.placed
    have hjoinedBefore := h.joined
    have hfreeBefore := h.free
    refine ⟨⟨hadds.consistent, ?_, ?_, ?_, ?_⟩, ?_⟩ <;> simp only [hadds.stats,
      LoadStats.counters_add, LoadStats.kinds_add, LoadStats.placed_add] <;> omega
  · contradiction

end Balanced

end Loader

/-! ## The second pass -/

namespace Store

/-- What the second pass counts is where the waiting methods ended, and nothing else. -/
structure Settles (s : LoadStats) (functions : ℕ) : Prop where
  entries : s.entries = 0
  kinds : s.kinds = 0
  methods : s.methods = 0
  free : s.freeFunctions = 0
  placed : s.placed = functions

/-- What is settled adds up, over entities as over methods. -/
lemma Settles.add {s t : LoadStats} {m n : ℕ} (h : Settles s m) (h' : Settles t n) :
    Settles (s + t) (m + n) := by
  obtain ⟨hentries, hkinds, hmethods, hfree, hplaced⟩ := h
  obtain ⟨hentries', hkinds', hmethods', hfree', hplaced'⟩ := h'
  constructor <;> simp only [LoadStats.counters_add, LoadStats.kinds_add, LoadStats.placed_add] <;>
    omega

/-- An entity settles all that it is offered: it takes a method, or finds its name taken, or can
take none. -/
lemma settles_settleCounts (entity : Entity) (functions : List Routine) :
    Settles (settleCounts entity functions) functions.length := by
  unfold settleCounts
  cases entity.methods? with
  | none => exact ⟨rfl, rfl, rfl, rfl, by simp [LoadStats.placed]⟩
  | some methods =>
      have hnovel := length_novel_le methods functions
      refine ⟨rfl, rfl, rfl, rfl, ?_⟩
      simp only [LoadStats.placed]
      omega

lemma settles_single {store : Store} (h : store.Consistent) (f : Routine) :
    Settles (store.settlementOf [f]) 1 := by
  rw [settlementOf_single h]
  cases hfind : store.findByName f.receiver with
  | none => exact ⟨rfl, rfl, rfl, rfl, rfl⟩
  | some id =>
      obtain ⟨entity, hentity, _⟩ := exists_definition_of_findByName hfind
      simp only [hentity, Option.map_some, Option.getD_some]
      exact settles_settleCounts entity [f]

/-- **Every waiting method ends somewhere**: it is attached, its name is taken, or nobody takes
it. -/
lemma settles_settlementOf {store : Store} (h : store.Consistent) (functions : List Routine) :
    Settles (store.settlementOf functions) functions.length := by
  induction functions generalizing store with
  | nil =>
      have hnone : store.settlementOf [] = 0 := by
        have hzero : (store.ordered.map fun p => settleCounts p.2 (store.bound [] p.1)).sum = 0 :=
          List.sum_eq_zero fun c hc => by
            obtain ⟨p, _, rfl⟩ := List.mem_map.1 hc
            exact settleCounts_nil p.2
        rw [settlementOf, hzero, zero_add]
        rfl
      rw [hnone]
      exact ⟨rfl, rfl, rfl, rfl, rfl⟩
  | cons f functions ih =>
      have hnext := h.mapEntities (head_settled store [f])
      rw [settlementOf_cons, List.length_cons, add_comm _ 1]
      exact (settles_single h f).add (ih hnext)

end Store

namespace Loader

/-- **The second pass keeps the balance**: waiting methods become placed ones, one for one. -/
theorem Balanced.finish {l : Loader} {functions : ℕ} (h : Balanced l functions) :
    Balanced l.finish functions := by
  obtain ⟨hentries, hkinds, hmethods, hfree, hplaced⟩ :=
    Store.settles_settlementOf h.consistent l.pending
  have hstats := l.stats_finish h.consistent
  have hcount : l.finish.store.methodCount =
      l.store.methodCount + (l.store.settlementOf l.pending).attached := by
    rw [l.store_finish, Store.methodCount_settled h.consistent]
  have hfunctions : l.finish.store.functions = l.store.functions := by
    rw [l.store_finish]
    rfl
  have hconsistent : l.finish.store.Consistent := by
    rw [l.store_finish]
    exact h.consistent.mapEntities (Store.head_settled _ _)
  have hentriesBefore := h.entries
  have hplacedBefore := h.placed
  have hjoinedBefore := h.joined
  have hfreeBefore := h.free
  refine ⟨hconsistent, ?_, ?_, ?_, ?_⟩ <;> simp only [hstats, hcount, hfunctions,
    l.pending_finish, LoadStats.counters_add, LoadStats.kinds_add, LoadStats.placed_add,
    List.length_nil] <;> omega

/-- Entries keep the balance, one after the other.  By induction on the entries. -/
lemma Balanced.loads {l l' : Loader} {functions : ℕ} {documents : List (IndexEntry × Compound)}
    (hloads : Loads l documents l') (h : Balanced l functions)
    (hdeferred : l.stats.deferred = l.pending.length) :
    Balanced l' (functions + (documents.map fun d => (listedFunctions d.1 d.2).length).sum) ∧
      l'.stats.deferred = l'.pending.length := by
  induction hloads generalizing functions with
  | nil => exact ⟨h, hdeferred⟩
  | cons hentry _ ih =>
      obtain ⟨hbalanced, hwaiting⟩ := h.loadEntry hentry
      rw [List.map_cons, List.sum_cons, ← add_assoc]
      exact ih hbalanced (hwaiting hdeferred)

/-- **No function is lost or counted twice by a load.**  The entries are counted by kind, the
methods that wait are counted as deferred, and after the second pass every function that was listed
is counted once: as a method of the store, as a free function of the store, as a method whose name
was taken or as one that nobody took. -/
theorem ledger_of_loads {journal : Journal} {documents : List (IndexEntry × Compound)} {l : Loader}
    (h : Loads { journal } documents l) :
    l.stats.deferred = l.pending.length ∧
      l.finish.stats.entries = l.finish.stats.structs + l.finish.stats.protocols
        + l.finish.stats.unions + l.finish.stats.files + l.finish.stats.ignored ∧
      (documents.map fun d => (listedFunctions d.1 d.2).length).sum =
        l.finish.stats.methods + l.finish.stats.attached + l.finish.stats.unattached
          + l.finish.stats.duplicateMethods + l.finish.stats.freeFunctions ∧
      l.finish.store.methodCount = l.finish.stats.methods + l.finish.stats.attached ∧
      l.finish.store.functions.length = l.finish.stats.freeFunctions := by
  obtain ⟨hbalanced, hdeferred⟩ := (Balanced.fresh journal).loads h rfl
  have hfinished := hbalanced.finish
  have hplaced := hfinished.placed
  rw [l.pending_finish, List.length_nil, add_zero, zero_add] at hplaced
  exact ⟨hdeferred, hfinished.entries, hplaced.symm, hfinished.joined.symm, hfinished.free.symm⟩

/-- A file and a class with functions that go all six ways, and an entry that stands for nothing. -/
def sixWays : List (IndexEntry × Compound) := [
  (⟨"f", "NSView.h", "file"⟩, {
    sections := [{
      kind := "func"
      members := [
        { id := "b", kind := "function", name := "NSBeep", definition := "void NSBeep" },
        { id := "w", kind := "function", name := "window", definition := "id NSView::window" },
        { id := "g", kind := "function", name := "frame", definition := "id NSView::frame" },
        { id := "o", kind := "function", name := "open", definition := "void NSDoor::open" },
        { id := "x", kind := "variable", name := "NSApp" }] }] }),
  (⟨"n", "AppKit", "namespace"⟩, {}),
  (⟨"v", "NSView", "class"⟩, {
    sections := [{
      kind := "public-func"
      members := [
        { id := "h", kind := "function", name := "frame", definition := "id NSView::frame" },
        { id := "i", kind := "function", name := "frame", definition := "id NSView::frame" }] }] })]

/-- The loader after these entries, before the second pass. -/
def afterSixWays : Loader :=
  sixWays.foldl (fun l d => (l.loadEntry d.1 d.2).2) { journal := #[] }

/-- Each of the six functions goes another of the six ways, and the numbers are those of the
ledger. -/
theorem ledger_sixWays :
    Loads { journal := #[] } sixWays afterSixWays ∧
      afterSixWays.finish.stats = {
        entries := 3, structs := 1, files := 1, ignored := 1, methods := 1, deferred := 3
        attached := 1, unattached := 1, freeFunctions := 1, duplicateMethods := 2 } ∧
      afterSixWays.stats.deferred = afterSixWays.pending.length ∧ 3 = 1 + 0 + 0 + 1 + 1 ∧
      (sixWays.map fun d => (listedFunctions d.1 d.2).length).sum = 1 + 1 + 1 + 2 + 1 ∧
      afterSixWays.finish.store.methodCount = 1 + 1 ∧
      afterSixWays.finish.store.functions.length = 1 := by
  have hloads : Loads { journal := #[] } sixWays afterSixWays := by
    refine .cons (Prod.ext ?_ rfl) (.cons (Prod.ext ?_ rfl) (.cons (Prod.ext ?_ rfl) .nil)) <;>
      decide +kernel
  have hstats : afterSixWays.finish.stats = {
      entries := 3, structs := 1, files := 1, ignored := 1, methods := 1, deferred := 3
      attached := 1, unattached := 1, freeFunctions := 1, duplicateMethods := 2 } := by
    decide +kernel
  have hledger := ledger_of_loads hloads
  rw [hstats] at hledger
  exact ⟨hloads, hstats, hledger⟩

end Loader

end FrameworkBindings
