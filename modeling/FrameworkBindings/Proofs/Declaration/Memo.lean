import Mathlib.Data.List.Basic
import Mathlib.Tactic.Lemma
import FrameworkBindings.Declaration.Memo

/-!
# Kept Go names are never stale

A declaration may be asked for its Go name before and after it is renamed or copied, and it must
give the one that its present name has.

**Calls.**  `Call` is what is done to declarations that keep their Go names; `after` is what calls
leave.  `declared` is what the same calls do to plain declarations, which keep nothing.

**One call.**  `Fresh` says that a declaration keeps nothing, or the Go name that it has now.  A
call leaves fresh declarations behind (`fresh_perform`), and does to them what it does to plain ones
(`map_toDeclaration_perform`).

**`hostName_current`** follows for every sequence of calls.

The invariant is on all declarations there are and not only on the one that is called, since a copy
takes over what the original keeps: if that were stale, so would be the copy, however it was asked.
Declarations are told apart by their places in a list, which never change; a copy gets the place at
the end.
-/

namespace FrameworkBindings

namespace Declaration

lemma hostName_withDetail (head : Declaration) (detail : Detail) :
    (head.withDetail detail).hostName = head.hostName := by
  cases detail <;> rfl

namespace Memo

variable {memo : Memo}

/-! ## One declaration -/

/-- Nothing is kept, or the Go name that the declaration has now.  This is all that is needed for
the answer to be right. -/
def Fresh (memo : Memo) : Prop :=
  ∀ host ∈ memo.kept, memo.toDeclaration.hostName = some host

lemma fresh_ofName (refid name : String) : (ofName refid name).Fresh :=
  fun _ hkept => absurd hkept (Option.not_mem_none _)

/-- A new name gives up the Go name that was kept, whatever it was. -/
lemma fresh_rename (memo : Memo) (name : String) : (memo.rename name).Fresh :=
  fun _ hkept => absurd hkept (Option.not_mem_none _)

lemma Fresh.withDetail (h : memo.Fresh) (detail : Detail) : (memo.withDetail detail).Fresh :=
  fun host hkept => (hostName_withDetail memo.toDeclaration detail).trans (h host hkept)

/-- Asking changes nothing but what is kept, so the declaration is the one it was. -/
lemma toDeclaration_hostName (memo : Memo) :
    memo.hostName.2.toDeclaration = memo.toDeclaration := by
  unfold hostName
  split
  · rfl
  · cases memo.kept <;> rfl

/-- A fresh declaration answers as if it kept nothing, and keeps the answer, unless there is
none. -/
lemma Fresh.hostName_eq (h : memo.Fresh) : memo.hostName =
    (memo.toDeclaration.hostName, { memo with kept := memo.toDeclaration.hostName }) := by
  unfold Memo.hostName
  split
  · rename_i hname
    have hnone : memo.toDeclaration.hostName = none := hostName_eq_none_iff.2 hname
    -- what was kept under an earlier name has been given up
    have hkept : memo.kept = none := by
      refine Option.eq_none_iff_forall_not_mem.2 fun host hhost => ?_
      rw [h host hhost] at hnone
      contradiction
    rw [hnone, ← hkept]
  · rename_i hname
    cases hkept : memo.kept with
    | some host =>
        rw [h host hkept]
        exact congrArg (Prod.mk (some host)) (by rw [← hkept])
    | none => rw [Declaration.hostName, if_neg hname]

lemma Fresh.hostName (h : memo.Fresh) : memo.hostName.2.Fresh := by
  rw [h.hostName_eq]
  exact fun host hkept => hkept

/-- Asking again gives the same answer and changes nothing more. -/
lemma Fresh.hostName_hostName (h : memo.Fresh) : memo.hostName.2.hostName = memo.hostName := by
  rw [h.hostName.hostName_eq, h.hostName_eq]

/-! ## Calls -/

/-- What is done to declarations, each of which is told by its place among those there are.  These
are all the ways in which a declaration comes to be or changes. -/
inductive Call where
  | make (refid name : String)
  | placeholder (refid : String)
  | hostName (place : ℕ)
  | rename (place : ℕ) (name : String)
  | clone (place : ℕ)
  | withDetail (place : ℕ) (detail : Detail)

namespace Call

/-- The declarations after a call.  A call for a place where there is none does nothing. -/
def perform (memos : List Memo) : Call → List Memo
  | make refid name => memos ++ [ofName refid name]
  | placeholder refid => memos ++ [Memo.placeholder refid]
  | hostName place => memos.modify place fun memo => memo.hostName.2
  | rename place name => memos.modify place (·.rename name)
  | clone place => memos ++ memos[place]?.toList
  | withDetail place detail => memos.modify place (·.withDetail detail)

/-- The same call for declarations that keep nothing: who asks them leaves them as they are. -/
def declare (heads : List Declaration) : Call → List Declaration
  | make refid name => heads ++ [{ refid, name }]
  | placeholder refid => heads ++ [{ refid, name := "" }]
  | hostName _ => heads
  | rename place name => heads.modify place (·.rename name)
  | clone place => heads ++ heads[place]?.toList
  | withDetail place detail => heads.modify place (·.withDetail detail)

end Call

/-- The declarations that calls leave behind, from nothing. -/
def after (calls : List Call) : List Memo :=
  calls.foldl Call.perform []

/-- The declarations that the same calls leave behind if nothing is kept. -/
def declared (calls : List Call) : List Declaration :=
  calls.foldl Call.declare []

/-! ## One call -/

variable {memos : List Memo}

/-- Changing one place and then forgetting what is kept is forgetting first, if the change does not
depend on it. -/
lemma map_modify {α β : Type} (g : α → β) {f : α → α} {f' : β → β} (h : ∀ a, g (f a) = f' (g a))
    (l : List α) (place : ℕ) : (l.modify place f).map g = (l.map g).modify place f' := by
  refine List.ext_getElem? fun i => ?_
  rw [List.getElem?_map, List.getElem?_modify, List.getElem?_modify, List.getElem?_map]
  cases l[i]? with
  | none => rfl
  | some a =>
      by_cases hi : place = i
      · simp [hi, h]
      · simp [hi]

lemma fresh_modify {f : Memo → Memo} (hf : ∀ memo, memo.Fresh → (f memo).Fresh)
    (h : ∀ memo ∈ memos, memo.Fresh) (place : ℕ) : ∀ memo ∈ memos.modify place f, memo.Fresh := by
  intro memo hmemo
  obtain ⟨i, hi⟩ := List.mem_iff_getElem?.1 hmemo
  rw [List.getElem?_modify] at hi
  obtain ⟨old, hold, rfl⟩ := Option.map_eq_some_iff.1 hi
  have hfresh := h old (List.mem_of_getElem? hold)
  split
  · exact hf old hfresh
  · exact hfresh

lemma map_toDeclaration_perform (memos : List Memo) (call : Call) :
    (call.perform memos).map toDeclaration = call.declare (memos.map toDeclaration) := by
  cases call with
  | make | placeholder => exact List.map_append
  | hostName place =>
      have hid : ∀ memo : Memo, memo.hostName.2.toDeclaration = id memo.toDeclaration :=
        toDeclaration_hostName
      exact (map_modify toDeclaration hid memos place).trans (List.modify_id _ _)
  | rename place name => exact map_modify toDeclaration (fun _ => rfl) memos place
  | withDetail place detail => exact map_modify toDeclaration (fun _ => rfl) memos place
  | clone place =>
      rw [Call.perform, Call.declare, List.map_append, List.getElem?_map, Option.toList_map]

/-- A call leaves fresh declarations behind, by cases on the call. -/
lemma fresh_perform (h : ∀ memo ∈ memos, memo.Fresh) (call : Call) :
    ∀ memo ∈ call.perform memos, memo.Fresh := by
  cases call with
  | make refid name =>
      exact List.forall_mem_append.2 ⟨h, List.forall_mem_singleton.2 (fresh_ofName refid name)⟩
  | placeholder refid =>
      exact List.forall_mem_append.2 ⟨h, List.forall_mem_singleton.2 (fresh_ofName refid "")⟩
  | clone place =>
      refine List.forall_mem_append.2 ⟨h, fun memo hmemo => ?_⟩
      exact h memo (List.mem_of_getElem? (Option.mem_toList.1 hmemo))
  | hostName place => exact fresh_modify (fun _ hmemo => hmemo.hostName) h place
  | rename place name => exact fresh_modify (fun memo _ => fresh_rename memo name) h place
  | withDetail place detail => exact fresh_modify (fun _ hmemo => hmemo.withDetail detail) h place

/-! ## Any calls -/

lemma map_toDeclaration_after (calls : List Call) :
    (after calls).map toDeclaration = declared calls :=
  (List.foldl_hom _ fun memos call => (map_toDeclaration_perform memos call).symm).symm

lemma fresh_after (calls : List Call) : ∀ memo ∈ after calls, memo.Fresh :=
  List.foldlRecOn (motive := fun memos : List Memo => ∀ memo ∈ memos, memo.Fresh) calls _
    (fun _ h => absurd h List.not_mem_nil) fun _ h call _ => fresh_perform h call

/-- **Kept Go names are never stale.**  Whatever is done to declarations and their copies, they are
those that there would be if nothing were kept.  Each answers with the Go name of the name that it
has now, and asked again it answers the same and stays as it is. -/
theorem hostName_current (calls : List Call) :
    (after calls).map toDeclaration = declared calls ∧
    ∀ memo ∈ after calls,
      memo.hostName.1 =
        (if memo.name = "" then none else some (Identifier.sanitize memo.name)) ∧
      memo.hostName.2.hostName = memo.hostName :=
  ⟨map_toDeclaration_after calls, fun memo hmemo =>
    have hfresh := fresh_after calls memo hmemo
    ⟨congrArg Prod.fst hfresh.hostName_eq, hfresh.hostName_hostName⟩⟩

/-- A class that is renamed after it was asked, between two copies of it, one without a name. -/
def renamed : List Call :=
  [.make "r1" "NSView(Layout)", .hostName 0, .clone 0, .rename 0 "NSWindow", .hostName 0,
    .rename 1 "", .hostName 1, .clone 0, .withDetail 2 (.access .owner), .rename 1 "NSView",
    .clone 1, .rename 1 "", .placeholder "r2"]

/-- After these calls each declaration has its own name and the Go name for it: the original answers
with its second name, the copies made before and after with what they were called last, and the two
without a name with none. -/
theorem hostName_current_renamed :
    (after renamed).map (fun memo => (memo.name, memo.hostName.1)) =
      [("NSWindow", some "NSWindow"), ("", none), ("NSWindow", some "NSWindow"),
        ("NSView", some "NSView"), ("", none)] := by
  obtain ⟨hdeclared, hcurrent⟩ := hostName_current renamed
  calc (after renamed).map (fun memo => (memo.name, memo.hostName.1))
      = (after renamed).map (fun memo => (memo.name, memo.toDeclaration.hostName)) :=
        List.map_congr_left fun memo hmemo => congrArg _ (hcurrent memo hmemo).1
    _ = (declared renamed).map (fun head => (head.name, head.hostName)) := by
        rw [← hdeclared, List.map_map]
        rfl
    _ = _ := by decide +kernel

/-- A name that is put in place without `rename` leaves the kept one stale. -/
example : { (ofName "r1" "NSView").hostName.2 with name := "NSWindow" : Memo }.hostName.1 =
    some "NSView" := by
  decide +kernel

end Memo

end Declaration

end FrameworkBindings
