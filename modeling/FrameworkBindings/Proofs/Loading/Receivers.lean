import FrameworkBindings.Proofs.Loading.Attachment
import FrameworkBindings.Proofs.Loading.Image
import FrameworkBindings.Proofs.Loading.Ledger
import FrameworkBindings.Proofs.Text.Marks
import FrameworkBindings.Proofs.Text.Words

/-!
# Receivers

Whose member a function is can be read only from its definition, in front of the first `::`.

**Definitions.**  `Qualified` are the definitions of members of an entity: anything, a blank, the
name of the entity, perhaps the mark of a protocol, and blanks.  `receiverName_eq_iff` says that
from these, and from no others, the name is recovered, if it is one that can be (`IsReceiver`).

**Names that can be recovered.**  The receiver is the last word in front of the first `::`, so a
name has to be one word without a colon.  The word `-p` is excluded because behind a blank it is
taken for the mark of a protocol.  All other names can be recovered, whatever their characters.

**Entries.**  An entry gives its entity the same name, also where it carries the mark (`Titled`,
`name_of_titled`).  `Matches` says what becomes of the functions listed under it: those that name
the entity join it (`matched`, `defined`), and only the others wait (`waiting`).

**Refused entries.**  The counts hold however loading ends: of an entry that is refused half way the
sections before have been loaded, and their functions have found their places
(`loadEntry_places`).  That the entity has its methods is said only of entries that are loaded.

**`receiver_recovered`** puts both together, for every loader and every entry.
-/

namespace FrameworkBindings

namespace Loading

open Text

/-! ## Definitions -/

/-- The names that can be told from a definition: one word without colons, which is not taken for
the mark of a protocol. -/
structure IsReceiver (name : List Char) : Prop where
  ne_nil : name ≠ []
  ne_mark : name ≠ "-p".toList
  visible : ∀ c ∈ name, isBlank c = false
  colon_not_mem : ':' ∉ name

/-- What may stand in front of a receiver: nothing, or a text without `::` and a blank. -/
inductive IsLead : List Char → Prop where
  | nothing : IsLead []
  | text {p : List Char} {blank : Char} (hp : ¬ [':', ':'] <:+: p) (hblank : isBlank blank = true) :
      IsLead (p ++ [blank])

/-- The definitions of members of `name`: the name stands in front of the first `::`, perhaps with
the mark of a protocol, and with any blanks behind it. -/
inductive Qualified (name : List Char) : List Char → Prop where
  | plain {lead gap : List Char} (hlead : IsLead lead) (hgap : ∀ c ∈ gap, isBlank c = true)
      (member : List Char) : Qualified name (lead ++ name ++ gap ++ [':', ':'] ++ member)
  | marked {lead gap : List Char} (hlead : IsLead lead) (hgap : ∀ c ∈ gap, isBlank c = true)
      (member : List Char) :
      Qualified name (lead ++ name ++ protocolMark ++ gap ++ [':', ':'] ++ member)

variable {name definition lead text gap member : List Char}

/-! ## Words and marks -/

/-- Behind a blank, or at the beginning, a word without blanks is the last word. -/
lemma lastWord_append (hlead : ∀ c ∈ lead.getLast?, isBlank c = true)
    (hname : ∀ c ∈ name, isBlank c = false) : lastWord (lead ++ name) = name :=
  rtakeWhile_append (p := (! isBlank ·)) (by simpa using hname) (by simpa using hlead)

/-- In front of the last word there is nothing, or a blank. -/
lemma exists_lastWord (text : List Char) : ∃ lead, text = lead ++ lastWord text ∧
    ∀ c ∈ lead.getLast?, isBlank c = true := by
  refine ⟨(text.reverse.dropWhile (! isBlank ·)).reverse, ?_, fun c hc => ?_⟩
  · rw [lastWord, ← List.reverse_append, List.takeWhile_append_dropWhile, List.reverse_reverse]
  · have hdrop := List.head?_dropWhile_not (! isBlank ·) text.reverse
    rw [List.getLast?_reverse, Option.mem_def] at hc
    rw [hc] at hdrop
    simpa using hdrop

/-- The mark of a protocol is taken off where it stands, and only once. -/
lemma withoutProtocolMark_append (text : List Char) :
    withoutProtocolMark (text ++ protocolMark) = text := by
  rw [withoutProtocolMark, stripTrailing_eq_some_iff.2 rfl, Option.getD_some]

lemma withoutProtocolMark_eq_self (h : ¬ protocolMark <:+ text) :
    withoutProtocolMark text = text := by
  rw [withoutProtocolMark, stripTrailing_eq_none_iff.2 h, Option.getD_none]

/-- A text that ends in another word than `-p` does not end in the mark of a protocol. -/
lemma not_marked_of_lastWord (h : lastWord text ≠ "-p".toList) : ¬ protocolMark <:+ text := by
  rintro ⟨front, rfl⟩
  refine h ?_
  have hmark : front ++ protocolMark = front ++ [' '] ++ "-p".toList := by simp [protocolMark]
  rw [hmark, lastWord_append (by simp; decide) (by decide)]

/-- No blank is a colon, so blanks never make the mark of a receiver. -/
lemma not_mem_colons_of_isBlank {c : Char} (h : isBlank c = true) : c ∉ [':', ':'] := by
  intro hmem
  obtain rfl : c = ':' := by simpa using hmem
  revert h
  decide

/-- A lead is a text without `::` that ends in a blank, if it does not end at once. -/
lemma isLead_iff : IsLead lead ↔
    ¬ [':', ':'] <:+: lead ∧ ∀ c ∈ lead.getLast?, isBlank c = true := by
  constructor
  · rintro (_ | ⟨hp, hblank⟩)
    · simp
    · refine ⟨?_, by simpa using hblank⟩
      rw [infix_append_cons_iff (List.cons_ne_nil _ _) (not_mem_colons_of_isBlank hblank)]
      simp [hp]
  · rintro ⟨hcolons, hlast⟩
    cases lead using List.reverseRecOn with
    | nil => exact .nothing
    | append_singleton p blank =>
        exact .text (fun h => hcolons (h.trans (List.prefix_append p [blank]).isInfix))
          (hlast blank (by simp))

/-- Between a lead and a colon, a text without colons does not make a mark. -/
lemma IsLead.colons_not_infix (hlead : IsLead lead) (htext : ':' ∉ text) :
    ¬ [':', ':'] <:+: lead ++ text ++ [':'] := by
  have hrest : ¬ [':', ':'] <:+: text ++ [':'] := by
    intro hinner
    have hcount := hinner.sublist.count_le ':'
    rw [List.count_append, List.count_eq_zero.2 htext] at hcount
    exact absurd hcount (by decide)
  cases hlead with
  | nothing => simpa using hrest
  | text hp hblank =>
      rw [List.append_assoc, List.append_assoc, List.singleton_append,
        infix_append_cons_iff (List.cons_ne_nil _ _) (not_mem_colons_of_isBlank hblank)]
      exact not_or.2 ⟨hp, hrest⟩

/-! ## The receiver of a definition -/

/-- The receiver stands in front of the first `::`, so what follows does not matter, further `::`
included. -/
lemma receiver_append (h : ¬ [':', ':'] <:+: text ++ [':']) (member : List Char) :
    receiver (text ++ [':', ':'] ++ member) = lastWord (withoutProtocolMark (trimEnd text)) := by
  rw [receiver, (splitOnce_eq_some_iff (List.cons_ne_nil _ _)).2 ⟨rfl, h⟩]

namespace IsReceiver

variable (hname : IsReceiver name)
include hname

/-- Behind a lead the name is the last word. -/
lemma lastWord_lead (hlead : IsLead lead) : lastWord (lead ++ name) = name :=
  lastWord_append (isLead_iff.1 hlead).2 hname.visible

/-- The blanks behind the name are taken off first. -/
lemma trimEnd_eq (hgap : ∀ c ∈ gap, isBlank c = true) :
    trimEnd (lead ++ name ++ gap) = lead ++ name := by
  rw [trimEnd_append_blanks _ hgap]
  refine trimEnd_eq_self fun c hc => hname.visible c ?_
  rw [List.getLast?_append_of_ne_nil _ hname.ne_nil] at hc
  exact List.mem_of_mem_getLast? hc

/-- There is no colon in the name or in the blanks behind it. -/
lemma colon_not_mem_gap (hgap : ∀ c ∈ gap, isBlank c = true) : ':' ∉ name ++ gap := by
  rw [List.mem_append, not_or]
  exact ⟨hname.colon_not_mem, fun hmem => not_mem_colons_of_isBlank (hgap ':' hmem) (by simp)⟩

/-- A receiver is not taken for a mark, and one mark is taken off. -/
lemma receiver_of_qualified (h : Qualified name definition) : receiver definition = name := by
  cases h with
  | @plain lead gap hlead hgap member =>
      have hfirst := hlead.colons_not_infix (hname.colon_not_mem_gap hgap)
      rw [← List.append_assoc] at hfirst
      rw [receiver_append hfirst, hname.trimEnd_eq hgap, withoutProtocolMark_eq_self,
        hname.lastWord_lead hlead]
      exact not_marked_of_lastWord (by rw [hname.lastWord_lead hlead]; exact hname.ne_mark)
  | @marked lead gap hlead hgap member =>
      have hcolon : ':' ∉ name ++ (protocolMark ++ gap) := by
        have hgap' := hname.colon_not_mem_gap hgap
        simp only [List.mem_append, not_or] at hgap' ⊢
        exact ⟨hgap'.1, by decide, hgap'.2⟩
      have hfirst := hlead.colons_not_infix hcolon
      rw [← List.append_assoc, ← List.append_assoc] at hfirst
      have hmark : ∀ c ∈ (lead ++ name ++ protocolMark).getLast?, isBlank c = false := by
        rw [List.getLast?_append_of_ne_nil _ (by decide)]
        decide
      have htrim := trimEnd_append_blanks (lead ++ name ++ protocolMark) hgap
      rw [trimEnd_eq_self hmark] at htrim
      rw [receiver_append hfirst, htrim, withoutProtocolMark_append, hname.lastWord_lead hlead]

/-- A definition from which the name is recovered is one that it qualifies: what is in front of the
last word is a lead. -/
lemma qualified_of_receiver (h : receiver definition = name) : Qualified name definition := by
  unfold receiver at h
  split at h
  · exact absurd h.symm hname.ne_nil
  · rename_i qualifier member hsplit
    obtain ⟨rfl, hfirst⟩ := (splitOnce_eq_some_iff (List.cons_ne_nil _ _)).1 hsplit
    obtain ⟨gap, hgap, hblank⟩ := exists_trimEnd qualifier
    obtain ⟨lead, hlead, hlast⟩ := exists_lastWord (withoutProtocolMark (trimEnd qualifier))
    rw [h] at hlead
    have hisLead : lead <+: qualifier → IsLead lead := fun hfront => isLead_iff.2
      ⟨fun hinner => hfirst
        ((hinner.trans hfront.isInfix).trans (List.prefix_append _ _).isInfix), hlast⟩
    cases hstrip : stripTrailing protocolMark (trimEnd qualifier) with
    | none =>
        rw [withoutProtocolMark, hstrip, Option.getD_none] at hlead
        rw [hlead] at hgap
        rw [hgap] at hisLead ⊢
        exact .plain (hisLead ⟨name ++ gap, by simp⟩) hblank member
    | some bare =>
        rw [withoutProtocolMark, hstrip, Option.getD_some] at hlead
        rw [stripTrailing_eq_some_iff.1 hstrip, hlead] at hgap
        rw [hgap] at hisLead ⊢
        exact .marked (hisLead ⟨name ++ protocolMark ++ gap, by simp⟩) hblank member

end IsReceiver

/-- **A receiver is recovered from the definitions that it qualifies**, and from no others. -/
theorem receiverName_eq_iff {name : String} (hname : IsReceiver name.toList) (definition : String) :
    receiverName definition = name ↔ Qualified name.toList definition.toList := by
  have hreceiver : receiverName definition = name ↔ receiver definition.toList = name.toList := by
    rw [receiverName, ← String.toList_inj, String.toList_ofList]
  rw [hreceiver]
  exact ⟨hname.qualified_of_receiver, hname.receiver_of_qualified⟩

/-- Without `::` there is no receiver, which is how free functions are told. -/
lemma receiverName_of_unqualified {definition : String}
    (h : ¬ [':', ':'] <:+: definition.toList) : receiverName definition = "" := by
  rw [receiverName, receiver, splitOnce_eq_none_iff.2 h]

end Loading

open Document Loading

/-! ## Entries -/

namespace Loading

/-- The index gives the entity this name; that of a protocol may carry the mark. -/
def Titled (name : String) (entry : IndexEntry) : Prop :=
  entry.name = name ∨ entry.compoundKind = .protocol ∧ entry.name = name ++ " -p"

variable {ν : String → EntityId} {name : String} {entry : IndexEntry} {compound : Compound}
  {entity : Entity} {sections : List Section}

/-- A name that can be recovered has no mark to take off. -/
lemma protocolName_of_receiver (hname : IsReceiver name.toList) : protocolName name = name := by
  have hmark : ¬ protocolMark <:+ name.toList := fun hmarked =>
    absurd (hname.visible ' ' (hmarked.subset (by decide))) (by decide)
  rw [protocolName, withoutProtocolMark_eq_self hmark, String.ofList_toList]

/-- The index writes the mark with a blank before it, and it is taken off. -/
lemma protocolName_append (name : String) : protocolName (name ++ " -p") = name := by
  rw [protocolName, String.toList_append]
  exact (congrArg String.ofList (withoutProtocolMark_append name.toList)).trans
    String.ofList_toList

/-- The mark that the index puts behind the name of a protocol is not part of it. -/
lemma name_of_titled (hname : IsReceiver name.toList) (htitle : Titled name entry)
    (hblank : blank? entry compound = some entity) : entity.name = name := by
  have hhead := (objectHead?_of_blank hblank).1
  unfold objectHead? at hhead
  rcases htitle with rfl | ⟨hkind, htitle⟩
  · cases hkind : entry.compoundKind with
    | struct | interface | objectClass | union =>
        rw [hkind] at hhead
        exact (Prod.mk.inj (Option.some.inj hhead)).2.symm
    | protocol =>
        rw [hkind] at hhead
        exact (Prod.mk.inj (Option.some.inj hhead)).2.symm.trans (protocolName_of_receiver hname)
    | file | other =>
        rw [hkind] at hhead
        contradiction
  · rw [hkind, htitle] at hhead
    exact (Prod.mk.inj (Option.some.inj hhead)).2.symm.trans (protocolName_append name)

/-! ## Members -/

/-- The entity that a function is meant for, and the name it has there.  For placing it nothing else
is looked at. -/
def address (m : Member) : String × String := (receiverName m.definition, m.name)

/-- Building a function keeps its address, whatever the numbering. -/
lemma map_routinesOf (ν : String → EntityId) (sections : List Section) :
    (routinesOf ν sections).map (fun f => (f.receiver, f.name)) =
      (sections.flatMap sectionFunctions).map address := by
  rw [routinesOf, List.map_flatMap, List.map_flatMap]
  refine List.flatMap_congr fun s _ => ?_
  unfold sectionRoutines sectionFunctions
  cases s.sectionKind with
  | functions isStatic =>
      rw [List.map_map]
      rfl
  | attributes _ _ | properties | other => rfl

/-- Functions are told apart by their receivers as the members are from which they are read. -/
lemma map_filter_routinesOf (ν : String → EntityId) (sections : List Section) (p : String → Bool) :
    ((routinesOf ν sections).filter fun f => p f.receiver).map (fun f => (f.receiver, f.name)) =
      ((sections.flatMap sectionFunctions).filter fun m => p (receiverName m.definition)).map
        address := by
  have hroutines := congrArg (List.filter fun a => p a.1) (map_routinesOf ν sections)
  rw [List.filter_map, List.filter_map] at hroutines
  exact hroutines

/-- Every member that is listed becomes a function, with the same address. -/
lemma exists_routine_of_listed (ν : String → EntityId) {m : Member}
    (hm : m ∈ sections.flatMap sectionFunctions) :
    ∃ f ∈ routinesOf ν sections, (f.receiver, f.name) = address m := by
  rw [← List.mem_map, map_routinesOf]
  exact List.mem_map_of_mem hm

/-- Counting functions by their receivers is counting members by their definitions. -/
lemma length_filter_routinesOf (ν : String → EntityId) (sections : List Section)
    (p : String → Bool) :
    ((routinesOf ν sections).filter fun f => p f.receiver).length =
      (sections.flatMap sectionFunctions).countP fun m => p (receiverName m.definition) := by
  have hlength := congrArg List.length (map_filter_routinesOf ν sections p)
  rw [List.length_map, List.length_map] at hlength
  rw [hlength, List.countP_eq_length_filter]

end Loading

/-! ## Counters -/

/-- How many functions were matched with the entity under which they are listed, as its methods or
as duplicates. -/
def LoadStats.matched (s : LoadStats) : ℕ := s.methods + s.duplicateMethods

/-- Matches add up as counters do, over the sections of an entry. -/
lemma LoadStats.matched_add (s t : LoadStats) : (s + t).matched = s.matched + t.matched := by
  simp only [matched, counters_add]
  omega

namespace Loading

variable {ν : String → EntityId} {name : String} {entry : IndexEntry} {compound : Compound}
  {entity : Entity} {sections : List Section}

/-- Counting an entry counts no function, neither as matched nor as deferred. -/
lemma matched_entryCounts (entry : IndexEntry) :
    (entryCounts entry).matched = 0 ∧ (entryCounts entry).deferred = 0 := by
  unfold entryCounts
  split <;> exact ⟨rfl, rfl⟩

/-- An entity with methods takes every function that is its own, or finds it a duplicate. -/
lemma matched_attachCounts {functions : List Routine}
    (h : entity.methods? = none → functions = []) :
    (attachCounts entity functions).matched = functions.length := by
  unfold attachCounts
  cases hmethods : entity.methods? with
  | none => rw [h hmethods]; rfl
  | some methods => exact Nat.add_sub_cancel' (length_novel_le methods functions)

/-- What an entity is offered is not deferred, whether it takes it or not. -/
lemma deferred_attachCounts (entity : Entity) (functions : List Routine) :
    (attachCounts entity functions).deferred = 0 := by
  unfold attachCounts
  split <;> rfl

/-- What the sections of an entity count: own functions are matched, those of others are
deferred. -/
lemma counts_sectionsEffect (h : entity.methods? = none → routinesOf ν sections = []) :
    (sectionsEffect ν entity sections).counts.matched =
        (ownOf entity.name (routinesOf ν sections)).length ∧
      (sectionsEffect ν entity sections).counts.deferred =
        (waitingOf entity.name (routinesOf ν sections)).length := by
  have hown : entity.methods? = none → ownOf entity.name (routinesOf ν sections) = [] := by
    intro hnone
    rw [h hnone]
    rfl
  constructor
  · simp only [sectionsEffect, reading, placing, Effect.append_def, LoadStats.matched_add,
      matched_attachCounts hown]
    exact (zero_add _).trans (zero_add _)
  · simp only [sectionsEffect, reading, placing, Effect.append_def, LoadStats.counters_add,
      deferred_attachCounts]
    exact zero_add _

/-- The sections that are loaded ask for nothing that the entity lacks. -/
lemma routinesOf_held_eq_nil (hmethods : entity.methods? = none) :
    routinesOf ν (heldSections entity sections) = [] := by
  refine routinesOf_eq_nil hmethods (List.findSome?_eq_none_iff.2 fun s hs => ?_)
  simpa using List.mem_takeWhile_imp hs

/-- Of what is offered to an entity without methods, it takes one of every name. -/
lemma exists_novel_of_mem {functions : List Routine} {f : Routine} (hf : f ∈ functions) :
    ∃ g ∈ novel [] functions, g.name = f.name := by
  have hoffered : functions.any (·.name == f.name) = true :=
    List.any_eq_true.2 ⟨f, hf, beq_iff_eq.2 rfl⟩
  have htaken := any_append_novel [] functions f.name
  rw [List.nil_append, List.nil_append, hoffered] at htaken
  obtain ⟨g, hg, hname⟩ := List.any_eq_true.1 htaken
  exact ⟨g, hg, beq_iff_eq.1 hname⟩

/-- What loading an entity does with the functions that are listed under it: those that name it are
matched with it, and only those that name another entity wait. -/
structure Matches (name : String) (listed : List Member) (entry : IndexEntry) (l : Loader)
    (out : Except LoadError Unit × Loader) : Prop where
  /-- Every function that names the entity becomes a method of it or counts as a duplicate. -/
  matched : out.2.stats.matched =
    l.stats.matched + listed.countP fun m => receiverName m.definition = name
  /-- Only the functions that name another entity wait, behind the methods that did before. -/
  waiting : ∃ waiting, out.2.pending = l.pending ++ waiting ∧
    waiting.map (fun f => (f.receiver, f.name)) =
      (listed.filter fun m => receiverName m.definition ∉ ["", name]).map address
  deferred : out.2.stats.deferred =
    l.stats.deferred + listed.countP fun m => receiverName m.definition ∉ ["", name]
  /-- Once it is in the store, the entity has a method for every function that names it. -/
  defined : out.1 = .ok () → ∃ id definition, out.2.store.lookup entry.refid = some id ∧
    out.2.store.definition? id = some definition ∧ definition.name = name ∧
    ∀ m ∈ listed, receiverName m.definition = name →
      ∃ f ∈ definition.methods?.getD [], f.receiver = name ∧ f.name = m.name

end Loading

namespace Loader

variable {l : Loader} {entry : IndexEntry} {compound : Compound} {entity : Entity}

/-- However loading an entity ends, the functions of the sections before have found their places. -/
lemma loadEntry_places (hblank : blank? entry compound = some entity) :
    let out := (l.loadEntry entry compound).2
    let held := heldSections entity compound.sections
    out.pending = l.pending ++ waitingOf entity.name (routinesOf out.store.numbering held) ∧
      out.stats = l.stats +
        (entryCounts entry + (sectionsEffect out.store.numbering entity held).counts) := by
  have hstep := l.loadEntry_step entry compound (Store.numberedBy_numbering _)
  dsimp only
  generalize (l.loadEntry entry compound).2 = l', (l.loadEntry entry compound).1 = result at *
  have hplaces : ∀ {l₁ : Loader}, ({ counts := entryCounts entry } ++ sectionsEffect
      l'.store.numbering entity (heldSections entity compound.sections)).Takes l l₁ →
        l'.pending = l₁.pending → l'.stats = l₁.stats → l'.pending = l.pending ++ waitingOf
          entity.name (routinesOf l'.store.numbering (heldSections entity compound.sections)) ∧
        l'.stats = l.stats + (entryCounts entry + (sectionsEffect l'.store.numbering entity
          (heldSections entity compound.sections)).counts) := by
    intro l₁ htakes hpending hstats
    exact ⟨hpending.trans htakes.pending, hstats.trans htakes.stats⟩
  cases hstep with
  | misfit hentity _ htakes =>
      obtain rfl := Option.some.inj (hblank.symm.trans hentity)
      exact hplaces htakes rfl rfl
  | refused hentity hfits htakes =>
      obtain rfl := Option.some.inj (hblank.symm.trans hentity)
      rw [← heldSections_eq_self hfits] at htakes
      exact hplaces htakes rfl rfl
  | defined hentity hfits htakes _ _ hpending hstats =>
      obtain rfl := Option.some.inj (hblank.symm.trans hentity)
      rw [← heldSections_eq_self hfits] at htakes
      exact hplaces htakes hpending hstats
  | fileRefused hkind | filed hkind | ignored hkind => simp [blank?, hkind] at hblank

/-- Once it is loaded, the entity of an entry is in the slot of its reference id. -/
lemma exists_definition_of_ok (hblank : blank? entry compound = some entity)
    (hok : (l.loadEntry entry compound).1 = .ok ()) :
    let store := (l.loadEntry entry compound).2.store
    ∃ id, store.lookup entry.refid = some id ∧
      store.definition? id = some (entityFrom store.numbering entity compound.sections) := by
  obtain ⟨id, hdefine, -⟩ := loadEntry_ok hblank hok
  have hlookup := Store.lookup_of_define hdefine
  rw [entityFrom, Entity.refid_extend, (objectHead?_of_blank hblank).2] at hlookup
  refine ⟨id, hlookup, ?_⟩
  rw [Store.definition?_of_define hdefine, if_pos rfl]

/-- An entity that is in the store has a method of every name that its own functions have. -/
lemma exists_method_of_listed (ν : String → EntityId) {m : Member}
    (hblank : blank? entry compound = some entity)
    (hok : (l.loadEntry entry compound).1 = .ok ()) (hne : entity.name ≠ "")
    (hm : m ∈ compound.sections.flatMap sectionFunctions)
    (hreceiver : receiverName m.definition = entity.name) :
    ∃ f ∈ (entityFrom ν entity compound.sections).methods?.getD [],
      f.receiver = entity.name ∧ f.name = m.name := by
  obtain ⟨f, hf, haddress⟩ := exists_routine_of_listed ν hm
  obtain ⟨hfreceiver, hfname⟩ := Prod.mk.inj haddress
  rw [hreceiver] at hfreceiver
  have hown : f ∈ ownOf entity.name (routinesOf ν compound.sections) := by
    simp [ownOf, Routine.isFree, hf, hfreceiver, hne]
  have hmethods := (isImage_entityFrom (ν := ν) hblank ((loadEntry_ok_iff hblank).1 hok).1).methods
  rw [hmethods, ← novel_eq_eraseDupsBy]
  obtain ⟨g, hg, hgname⟩ := exists_novel_of_mem hown
  have hgown := (List.mem_filter.1 (mem_of_mem_novel hg)).2
  simp only [Bool.and_eq_true, beq_iff_eq] at hgown
  exact ⟨g, hg, hgown.2, hgname.trans hfname⟩

/-- The functions listed under an entity with a name are matched with it by that name. -/
lemma loadEntry_matches (hblank : blank? entry compound = some entity) (hne : entity.name ≠ "") :
    Matches entity.name ((heldSections entity compound.sections).flatMap sectionFunctions) entry l
      (l.loadEntry entry compound) := by
  obtain ⟨hpending, hstats⟩ := loadEntry_places (l := l) hblank
  have hlisted : entity.methods? = none → routinesOf (l.loadEntry entry compound).2.store.numbering
      (heldSections entity compound.sections) = [] := routinesOf_held_eq_nil
  obtain ⟨hmatched, hdeferred⟩ := counts_sectionsEffect hlisted
  obtain ⟨hentryMatched, hentryDeferred⟩ := matched_entryCounts entry
  have hown : ∀ r : String, (!(r == "") && r == entity.name) = decide (r = entity.name) := by
    intro r
    by_cases hr : r = entity.name <;> simp [hr, hne]
  have hothers : ∀ r : String,
      (!(r == "") && r != entity.name) = decide (r ∉ ["", entity.name]) := by
    intro r
    rw [Bool.eq_iff_iff]
    simp
  constructor
  · rw [hstats, LoadStats.matched_add, LoadStats.matched_add, hmatched, hentryMatched, zero_add]
    refine congrArg _
      ((length_filter_routinesOf _ _ fun r => !(r == "") && r == entity.name).trans ?_)
    simp only [hown]
  · refine ⟨_, hpending, ?_⟩
    refine (map_filter_routinesOf _ _ fun r => !(r == "") && r != entity.name).trans ?_
    simp only [hothers]
  · rw [hstats]
    simp only [LoadStats.counters_add, hdeferred, hentryDeferred, zero_add]
    refine congrArg _
      ((length_filter_routinesOf _ _ fun r => !(r == "") && r != entity.name).trans ?_)
    simp only [hothers]
  · intro hok
    obtain ⟨id, hlookup, hdefinition⟩ := exists_definition_of_ok hblank hok
    refine ⟨id, _, hlookup, hdefinition, entity.name_extend, fun m hm hreceiver => ?_⟩
    rw [heldSections_eq_self ((loadEntry_ok_iff hblank).1 hok).1] at hm
    exact exists_method_of_listed _ hblank hok hne hm hreceiver

/-- **The receiver is recovered from the definitions that it qualifies**, and from no others.
Whatever has been loaded before, the functions so defined under an entry of that name are matched
with its entity, and none of them is deferred. -/
theorem receiver_recovered :
    (∀ definition : String, ¬ [':', ':'] <:+: definition.toList → receiverName definition = "") ∧
    ∀ name : String, IsReceiver name.toList →
      (∀ definition : String,
        receiverName definition = name ↔ Qualified name.toList definition.toList) ∧
      ∀ (l : Loader) (entry : IndexEntry) (compound : Compound) (entity : Entity),
        blank? entry compound = some entity → Titled name entry →
          entity.name = name ∧
          Matches name ((heldSections entity compound.sections).flatMap sectionFunctions) entry l
            (l.loadEntry entry compound) := by
  refine ⟨fun definition => receiverName_of_unqualified, fun name hname =>
    ⟨receiverName_eq_iff hname, fun l entry compound entity hblank htitle => ?_⟩⟩
  obtain rfl := name_of_titled hname htitle hblank
  have hne : entity.name ≠ "" := fun hempty => hname.ne_nil (by rw [hempty]; rfl)
  exact ⟨rfl, loadEntry_matches hblank hne⟩

/-- A protocol with a method of its own, written with and without the mark, a method of a class, and
one whose definition names something else before it. -/
def helper : Compound where
  sections := [
    { kind := "public-func"
      members := [
        { kind := "function", name := "alertShowHelp:"
          definition := "(BOOL) NSAlertDelegate -p::alertShowHelp:" },
        { kind := "function", name := "close", definition := "void NSWindow  ::close" },
        { kind := "function", name := "alertShowHelp:"
          definition := "NSAlertDelegate::alertShowHelp:" },
        { kind := "function", name := "begin"
          definition := "(std::string) NSAlertDelegate -p::begin" }] }]

/-- Of the functions under the protocol the two that name it are matched, with the mark and without
it.  The other two wait, one of them because a `::` in front of the name ends the search early. -/
theorem receiver_recovered_helper :
    let out := ({} : Loader).loadEntry ⟨"d", "NSAlertDelegate -p", "protocol"⟩ helper
    ¬ [':', ':'] <:+: "void NSBeep(int : 3)".toList ∧
      receiverName "void NSBeep(int : 3)" = "" ∧
      IsReceiver "NSAlertDelegate".toList ∧
      Qualified "NSAlertDelegate".toList "(BOOL) NSAlertDelegate -p \t::alert::help:".toList ∧
      receiverName "(BOOL) NSAlertDelegate -p \t::alert::help:" = "NSAlertDelegate" ∧
      out.2.stats.matched = 2 ∧ out.2.stats.deferred = 2 ∧
      out.2.pending.map (fun f => (f.receiver, f.name)) =
        [("NSWindow", "close"), ("(std", "begin")] ∧
      ∃ id definition, out.2.store.definition? id = some definition ∧
        ∃ f ∈ definition.methods?.getD [], f.receiver = "NSAlertDelegate" ∧
          f.name = "alertShowHelp:" := by
  have hnone : ¬ [':', ':'] <:+: "void NSBeep(int : 3)".toList := by decide
  have hname : IsReceiver "NSAlertDelegate".toList :=
    ⟨by decide, by decide, by decide, by decide⟩
  have hlead : IsLead ("(BOOL)".toList ++ [' ']) := .text (by decide) (by decide)
  have hgap : ∀ c ∈ " \t".toList, Text.isBlank c = true := by decide
  have hqualified : Qualified "NSAlertDelegate".toList
      "(BOOL) NSAlertDelegate -p \t::alert::help:".toList :=
    .marked hlead hgap "alert::help:".toList
  obtain ⟨hunqualified, hrecovered⟩ := receiver_recovered
  obtain ⟨hdefinitions, hentries⟩ := hrecovered "NSAlertDelegate" hname
  obtain ⟨-, hmatches⟩ := hentries {} ⟨"d", "NSAlertDelegate -p", "protocol"⟩ helper _ rfl
    (.inr ⟨by decide, rfl⟩)
  obtain ⟨waiting, hpending, hwaiting⟩ := hmatches.waiting
  obtain ⟨id, definition, -, hdefinition, -, hmethods⟩ := hmatches.defined (by decide +kernel)
  refine ⟨hnone, hunqualified _ hnone, hname, hqualified, (hdefinitions _).2 hqualified,
    hmatches.matched.trans (by decide +kernel), hmatches.deferred.trans (by decide +kernel), ?_,
    id, definition, hdefinition, ?_⟩
  · rw [hpending]
    exact hwaiting.trans (by decide +kernel)
  · exact hmethods
      { kind := "function", name := "alertShowHelp:"
        definition := "NSAlertDelegate::alertShowHelp:" } (by decide +kernel) (by decide +kernel)

end Loader

end FrameworkBindings
