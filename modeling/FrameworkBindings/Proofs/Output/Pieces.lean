import FrameworkBindings.Proofs.Output.BestEffort

/-!
# Where declarations stand in the file

The file is put together from texts, these from lines, and a member of an entity may be declared in
several places: a method of a protocol stands in the interface, among the methods that forward and
in the registration.

* `Stands` — a text is part of another one; `stands_join` and `stands_unlines` for texts put
  together.
* `declaration` — the texts that declare a member of an entity.
* **`stands_declaration`** — they are part of the text of the entity.

**What it is for.**  To say that a member is still declared when more has been loaded, one cannot
compare the texts of entities, which may have grown.  With the texts that declare the member it can
be said that they are the same, and that they stand in both files.

**No order.**  Being part of a text says nothing about where.  That declarations stand one behind
the other is another property, and implies this one.
-/

namespace FrameworkBindings.Output

/-! ## Parts of texts -/

/-- The piece is part of the whole, with anything before and behind it. -/
def Stands (piece whole : String) : Prop := ∃ before after, whole = before ++ piece ++ after

namespace Stands

variable {piece whole larger : String}

lemma refl (piece : String) : Stands piece piece := ⟨"", "", by simp⟩

lemma trans (h : Stands piece whole) (h' : Stands whole larger) : Stands piece larger := by
  obtain ⟨before, after, rfl⟩ := h
  obtain ⟨first, last, rfl⟩ := h'
  exact ⟨first ++ before, after ++ last, by simp only [String.append_assoc]⟩

lemma append_left (h : Stands piece whole) (before : String) : Stands piece (before ++ whole) :=
  h.trans ⟨before, "", by simp⟩

lemma append_right (h : Stands piece whole) (after : String) : Stands piece (whole ++ after) :=
  h.trans ⟨"", after, by simp⟩

end Stands

/-- A text is part of all texts joined, wherever in the list it is. -/
lemma stands_join {piece : String} {pieces : List String} (h : piece ∈ pieces) :
    Stands piece (String.join pieces) := by
  obtain ⟨before, after, rfl⟩ := List.append_of_mem h
  rw [String.join_append, String.join_cons]
  exact ((Stands.refl piece).append_right _).append_left _

/-- Lines are put together as their texts are. -/
lemma unlines_append (lines others : List String) :
    unlines (lines ++ others) = unlines lines ++ unlines others := by
  simp only [unlines, List.map_append, String.join_append]

/-- Lines that follow each other are part of a text of lines. -/
lemma stands_unlines {lines others : List String} (h : lines <:+: others) :
    Stands (unlines lines) (unlines others) := by
  obtain ⟨before, after, rfl⟩ := h
  exact ⟨unlines before, unlines after, by rw [unlines_append, unlines_append]⟩

/-! ## Declarations of members -/

variable {store : Store} {entity : Entity}

/-- The texts that declare a member of an entity: one for a member of a class, three for a method of
a protocol, and none for a method that is refused. -/
def declaration (store : Store) (entity : Entity) : Reported → List String
  | .property p => [(handledBy store entity (.property p)).text]
  | .method f =>
    match directionOf entity with
    | .call => [(handledBy store entity (.method f)).text]
    | .callback =>
      match accept store f with
      | .error _ => []
      | .ok a => [
          unlines (interfaceLines a),
          forwarder store (entity.head.hostName.getD "") a,
          unlines [registration (entity.head.hostName.getD "") a]]

/-- A method that is taken is among those of its protocol. -/
lemma mem_acceptedMethods {methods : List Routine} {f : Routine} {a : Accepted}
    (hf : f ∈ methods) (ha : accept store f = .ok a) : a ∈ acceptedMethods store methods :=
  List.mem_filterMap.2 ⟨f, hf, by rw [ha]; rfl⟩

/-- The text of a protocol consists of the interface, the struct that forwards, its methods and the
registration. -/
lemma text_bind {d : ProtocolDef} {name : String} (h : d.head.hostName = some name) :
    (emit store (.protocol d)).text =
      interfaceText d.head name (acceptedMethods store d.methods) ++ forwarderType d.head name
        ++ String.join ((acceptedMethods store d.methods).map (forwarder store name))
        ++ registrationText name (acceptedMethods store d.methods) := by
  simp only [emit, bind, h, EntityOutput.ofMembers]

lemma stands_interfaceLines (head : Declaration) (name : String) {a : Accepted}
    {accepted : List Accepted} (ha : a ∈ accepted) :
    Stands (unlines (interfaceLines a)) (interfaceText head name accepted) := by
  refine stands_unlines ?_
  have hmem : interfaceLines a <:+: accepted.flatMap interfaceLines :=
    List.infix_of_mem_flatten (List.mem_map_of_mem ha)
  exact hmem.trans ⟨_, _, rfl⟩

lemma stands_registration (name : String) {a : Accepted} {accepted : List Accepted}
    (ha : a ∈ accepted) :
    Stands (unlines [registration name a]) (registrationText name accepted) := by
  refine stands_unlines ?_
  obtain ⟨before, after, rfl⟩ := List.append_of_mem ha
  have hmem : [registration name a] <:+: (before ++ a :: after).map (registration name) :=
    ⟨before.map (registration name), after.map (registration name), by simp⟩
  exact hmem.trans ⟨_, _, rfl⟩

/-- **What declares a member is part of the text of its entity.** -/
theorem stands_declaration (hname : entity.name ≠ "") {m : Reported}
    (hm : m ∈ reportedMembers entity) {piece : String}
    (hpiece : piece ∈ declaration store entity m) :
    Stands piece (emit store entity).text := by
  obtain ⟨name, hhost⟩ := exists_hostName hname
  cases entity with
  | record d =>
      have hhost : d.head.hostName = some name := hhost
      have hpiece : piece = (handledBy store (.record d) m).text := by
        cases m <;> exact List.mem_singleton.1 hpiece
      rw [text_wrap hhost, hpiece]
      refine Stands.append_left (stands_join ?_) _
      exact List.mem_map_of_mem (List.mem_map_of_mem hm)
  | protocol d =>
      have hhost : d.head.hostName = some name := hhost
      obtain ⟨f, hf, rfl⟩ := List.mem_map.1 hm
      have hdirection : directionOf (.protocol d) = .callback := rfl
      rw [text_bind hhost]
      cases haccept : accept store f with
      | error refusal => simp [declaration, hdirection, haccept] at hpiece
      | ok a =>
          have ha := mem_acceptedMethods hf haccept
          simp only [declaration, hdirection, haccept, Entity.head, hhost, Option.getD_some,
            List.mem_cons, List.not_mem_nil, or_false] at hpiece
          rcases hpiece with rfl | rfl | rfl
          · exact (((stands_interfaceLines d.head name ha).append_right _).append_right
              _).append_right _
          · refine Stands.append_right (Stands.append_left (stands_join ?_) _) _
            exact List.mem_map_of_mem ha
          · exact (stands_registration name ha).append_left _
  | union d => contradiction

end FrameworkBindings.Output
