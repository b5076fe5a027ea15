import Mathlib.Data.List.Basic
import Mathlib.Tactic.Lemma
import FrameworkBindings.Store

/-!
# Sorting

The output lists entities by Go name and reference id, and functions by name.  Two facts make the
result independent of the order in which things came.

**No ties.**  If no two entries compare equal, every permutation of a list is sorted alike
(`mergeSort_eq_of_perm`).  Entities are of this kind, since their reference ids differ.

**Ties.**  Sorting is stable, so lists that agree key by key are sorted alike
(`mergeSort_eq_of_filter_eq`).  Functions of one name are of this kind: those of different names may
be mixed in any way, but two of one name have to come in the same order on both sides.

The orders of `Store` are total and transitive (`textLe_total`, `entityLe_total` and so on), which
is what both ask for.  They are Boolean functions, as sorting wants them, so each has a lemma that
says it as a proposition (`textLe_iff`, `entityLe_iff`), through which the order of texts is used.
-/

namespace FrameworkBindings

section Sorting

variable {α : Type} {le : α → α → Bool}

/-- Without ties, how a list was arranged does not matter to its sorted form, since there is only
one way to sort it. -/
lemma mergeSort_eq_of_perm {l l' : List α} (htrans : ∀ a b c, le a b → le b c → le a c)
    (htotal : ∀ a b, le a b || le b a)
    (hties : ∀ a ∈ l, ∀ b ∈ l, le a b → le b a → a = b) (h : l.Perm l') :
    l.mergeSort le = l'.mergeSort le := by
  have hsorted := List.pairwise_mergeSort htrans htotal l
  have hsorted' := List.pairwise_mergeSort htrans htotal l'
  have hperm : (l.mergeSort le).Perm (l'.mergeSort le) :=
    (l.mergeSort_perm le).trans (h.trans (l'.mergeSort_perm le).symm)
  refine hperm.eq_of_pairwise (fun a b ha hb => ?_) hsorted hsorted'
  exact hties a (List.mem_mergeSort.1 ha) b (h.mem_iff.2 (List.mem_mergeSort.1 hb))

/-- Sorting keeps the order of what has one key, which is what it means to be stable. -/
lemma filter_mergeSort {l : List α} {p : α → Bool} (htrans : ∀ a b c, le a b → le b c → le a c)
    (htotal : ∀ a b, le a b || le b a) (hp : ∀ a b, p a → p b → le a b) :
    (l.mergeSort le).filter p = l.filter p := by
  have hties : (l.filter p).Pairwise fun a b => le a b = true := by
    rw [List.pairwise_iff_forall_sublist]
    intro a b hsub
    have ha := hsub.subset (List.mem_cons_self ..)
    have hb := hsub.subset (List.mem_cons_of_mem _ (List.mem_cons_self ..))
    exact hp a b (List.mem_filter.1 ha).2 (List.mem_filter.1 hb).2
  have hsub := (List.sublist_mergeSort htrans htotal hties List.filter_sublist).filter p
  simp only [List.filter_filter, Bool.and_self] at hsub
  have hlength := ((l.mergeSort_perm le).filter p).length_eq
  exact (hsub.eq_of_length hlength.symm).symm

/-- Sorting puts the keys in order and, where keys tie, keeps the order that there was. -/
lemma pairwise_mergeSort_of_pairwise {l : List α} {r : α → α → Prop}
    (htrans : ∀ a b c, le a b → le b c → le a c) (htotal : ∀ a b, le a b || le b a)
    (h : l.Pairwise r) : (l.mergeSort le).Pairwise fun a b => le a b ∧ (le b a → r a b) := by
  rw [List.pairwise_iff_forall_sublist]
  intro a b hsub
  have hab := List.pairwise_iff_forall_sublist.1 (List.pairwise_mergeSort htrans htotal l) hsub
  refine ⟨hab, fun hba => ?_⟩
  have haa : le a a = true := by simpa using htotal a a
  -- `a` and `b` are neighbours also among what ties with `a`, where nothing has moved
  have hties := hsub.filter fun c => le a c && le c a
  rw [filter_mergeSort htrans htotal] at hties
  · simp only [List.filter_cons, haa, hab, hba, Bool.and_self, if_true, List.filter_nil] at hties
    exact List.pairwise_iff_forall_sublist.1 h (hties.trans List.filter_sublist)
  · intro c d hc hd
    simp only [Bool.and_eq_true] at hc hd
    exact htrans c a d hc.2 hd.1

/-- Sorted lists that agree key by key are equal: each is the concatenation of its parts of one key,
in the order of the keys. -/
lemma eq_of_filter_eq {β : Type} [DecidableEq β] {key : α → β} {l l' : List α}
    (hkey : ∀ a b, le a b → le b a → key a = key b) (hsorted : l.Pairwise fun a b => le a b = true)
    (hsorted' : l'.Pairwise fun a b => le a b = true)
    (h : ∀ k, l.filter (key · = k) = l'.filter (key · = k)) : l = l' := by
  have hmem : ∀ {m m' : List α} {a : α}, (∀ k, m.filter (key · = k) = m'.filter (key · = k)) →
      a ∈ m → a ∈ m' := by
    intro m m' a heq ha
    have hself : a ∈ m.filter (key · = key a) := List.mem_filter.2 ⟨ha, by simp⟩
    rw [heq] at hself
    exact (List.mem_filter.1 hself).1
  induction l generalizing l' with
  | nil =>
      refine (List.eq_nil_iff_forall_not_mem.2 fun a ha => ?_).symm
      exact absurd (hmem (fun k => (h k).symm) ha) (by simp)
  | cons a l ih =>
      cases l' with
      | nil => exact absurd (hmem h (List.mem_cons_self ..)) (by simp)
      | cons b l' =>
          have hab : key a = key b := by
            have ha := hmem h (List.mem_cons_self (a := a) (l := l))
            have hb := hmem (fun k => (h k).symm) (List.mem_cons_self (a := b) (l := l'))
            rcases List.mem_cons.1 ha with rfl | ha
            · rfl
            rcases List.mem_cons.1 hb with rfl | hb
            · rfl
            exact hkey a b ((List.pairwise_cons.1 hsorted).1 b hb)
              ((List.pairwise_cons.1 hsorted').1 a ha)
          have hhead : a = b := by
            have hfirst := h (key a)
            rw [List.filter_cons_of_pos (by simp),
              List.filter_cons_of_pos (by simp [hab])] at hfirst
            exact (List.cons.inj hfirst).1
          subst hhead
          refine congrArg (a :: ·) (ih (List.pairwise_cons.1 hsorted).2
            (List.pairwise_cons.1 hsorted').2 fun k => ?_)
          have hk := h k
          by_cases hak : key a = k
          · rw [List.filter_cons_of_pos (by simpa using hak),
              List.filter_cons_of_pos (by simpa using hak)] at hk
            exact (List.cons.inj hk).2
          · rwa [List.filter_cons_of_neg (by simpa using hak),
              List.filter_cons_of_neg (by simpa using hak)] at hk

/-- With ties, lists that agree key by key are sorted alike, by stability. -/
lemma mergeSort_eq_of_filter_eq {β : Type} [DecidableEq β] {key : α → β} {l l' : List α}
    (htrans : ∀ a b c, le a b → le b c → le a c) (htotal : ∀ a b, le a b || le b a)
    (hkey : ∀ a b, key a = key b ↔ le a b ∧ le b a)
    (h : ∀ k, l.filter (key · = k) = l'.filter (key · = k)) :
    l.mergeSort le = l'.mergeSort le := by
  refine eq_of_filter_eq (fun a b hab hba => (hkey a b).2 ⟨hab, hba⟩)
    (List.pairwise_mergeSort htrans htotal l) (List.pairwise_mergeSort htrans htotal l') fun k => ?_
  have hties : ∀ a b, decide (key a = k) → decide (key b = k) → le a b := by
    intro a b ha hb
    exact ((hkey a b).1 ((of_decide_eq_true ha).trans (of_decide_eq_true hb).symm)).1
  rw [filter_mergeSort htrans htotal hties, filter_mergeSort htrans htotal hties, h k]

end Sorting

/-! ## The orders of the output -/

namespace Store

lemma textLe_iff {a b : String} : textLe a b = true ↔ a ≤ b := by
  simp [textLe]

lemma textLe_trans {a b c : String} (hab : textLe a b = true) (hbc : textLe b c = true) :
    textLe a c = true :=
  textLe_iff.2 (String.le_trans (textLe_iff.1 hab) (textLe_iff.1 hbc))

lemma textLe_total (a b : String) : (textLe a b || textLe b a) = true := by
  simp only [Bool.or_eq_true, textLe_iff]
  exact String.le_total a b

lemma textLe_antisymm {a b : String} (hab : textLe a b = true) (hba : textLe b a = true) : a = b :=
  String.le_antisymm (textLe_iff.1 hab) (textLe_iff.1 hba)

lemma entityLe_iff {a b : EntityId × Entity} :
    entityLe a b = true ↔ (sortKey a.2).1 < (sortKey b.2).1 ∨
      (sortKey a.2).1 = (sortKey b.2).1 ∧ (sortKey a.2).2 ≤ (sortKey b.2).2 := by
  simp [entityLe, textLe]

lemma entityLe_trans (a b c : EntityId × Entity) (hab : entityLe a b = true)
    (hbc : entityLe b c = true) : entityLe a c = true := by
  rw [entityLe_iff] at *
  rcases hab with hab | ⟨hab, hab'⟩
  · rcases hbc with hbc | ⟨hbc, _⟩
    · exact .inl (String.lt_trans hab hbc)
    · exact .inl (hbc ▸ hab)
  · rcases hbc with hbc | ⟨hbc, hbc'⟩
    · exact .inl (hab ▸ hbc)
    · exact .inr ⟨hab.trans hbc, String.le_trans hab' hbc'⟩

lemma entityLe_total (a b : EntityId × Entity) : (entityLe a b || entityLe b a) = true := by
  rw [Bool.or_eq_true, entityLe_iff, entityLe_iff]
  rcases Std.lt_trichotomy (sortKey a.2).1 (sortKey b.2).1 with h | h | h
  · exact .inl (.inl h)
  · rcases String.le_total (sortKey a.2).2 (sortKey b.2).2 with h' | h'
    · exact .inl (.inr ⟨h, h'⟩)
    · exact .inr (.inr ⟨h.symm, h'⟩)
  · exact .inr (.inl h)

/-- Only entities of one reference id tie, and of those a store has one. -/
lemma refid_eq_of_entityLe {a b : EntityId × Entity} (hab : entityLe a b = true)
    (hba : entityLe b a = true) : a.2.refid = b.2.refid := by
  rw [entityLe_iff] at hab hba
  rcases hab with hab | ⟨hab, hab'⟩
  · rcases hba with hba | ⟨hba, _⟩
    · exact absurd (String.lt_trans hab hba) (String.lt_irrefl _)
    · exact absurd (hba ▸ hab) (String.lt_irrefl _)
  · rcases hba with hba | ⟨_, hba'⟩
    · exact absurd (hab ▸ hba) (String.lt_irrefl _)
    · exact String.le_antisymm hab' hba'

end Store

end FrameworkBindings
