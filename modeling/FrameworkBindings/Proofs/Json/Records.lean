import Mathlib.Data.List.Perm.Basic
import FrameworkBindings.Json.Record
import FrameworkBindings.Proofs.Json.Writing

/-!
# Records in all their forms

One record can be written in many ways: with its keys in any order, without the fields that have
their defaults, with keys that mean nothing, or as the list of its fields.  A reader of records must
not see the difference.

* `Faithful` — what is read back from all the forms of something, and what is written in one of
  them.
* `Field`, `Records` — the fields of a record, and the forms that it has when these have theirs.
* **`Records.exists_fields?`** — in each form of a record its fields are found.
* **`faithful_record`** — what is read from the fields of a record is read from all its forms.

**Forms nest.**  A field of a record may be a record itself, with forms of its own, or a list of
such.  So the forms of a field are a parameter here, and a record is faithful if its fields are.
The documentation is then a tree of small facts, one for each record, with no proof that looks at
more than one level.

**Any order.**  What is given of an object is first listed in the order of the fields (`Gives`), and
the object is a permutation of that and of the unknown members.  The reader asks for a field by
filtering the members for its key; as keys are given once, the permutation does not matter to it.
-/

namespace FrameworkBindings.Json

/-! ## Forms -/

/-- `decode` reads all the forms of something alike, and `encode` writes one of them.  The forms
have to be readable as texts, too. -/
structure Faithful {α : Type} (decode : Value → Option α) (encode : α → Value)
    (form : α → Value → Prop) : Prop where
  decode_of_form {x : α} {v : Value} : form x v → decode v = some x
  form_encode (x : α) : form x (encode x)
  readable_of_form {x : α} {v : Value} : form x v → v.Readable

variable {α : Type} {decode : Value → Option α} {encode : α → Value} {form : α → Value → Prop}

/-- There is no form but the one that is written, as for a field without parts. -/
def Plain (encode : α → Value) (x : α) (v : Value) : Prop := v = encode x

/-- The forms of an optional value; `null` if there is none. -/
def Nullable (form : α → Value → Prop) : Option α → Value → Prop
  | none, v => v = .null
  | some x, v => form x v

/-- An array of forms, one for each of the items and in their order. -/
def Items (form : α → Value → Prop) (xs : List α) (v : Value) : Prop :=
  ∃ items, v = .array items ∧ List.Forall₂ form xs items

lemma faithful_plain (hdecode : ∀ x, decode (encode x) = some x)
    (hreadable : ∀ x, (encode x).Readable) : Faithful decode encode (Plain encode) where
  decode_of_form := by
    rintro x _ rfl
    exact hdecode x
  form_encode _ := rfl
  readable_of_form := by
    rintro x _ rfl
    exact hreadable x

/-- A form that can be read is not `null` if `null` cannot, so the two are told apart. -/
lemma Faithful.nullable (h : Faithful decode encode form) (hnull : decode .null = none) :
    Faithful (Value.nullable? decode) (fun value => value.elim .null encode) (Nullable form) where
  decode_of_form := by
    rintro (_ | x) v hv
    · subst hv; rfl
    · have hdecode := h.decode_of_form hv
      have hne : v ≠ .scalar .null := by
        rintro rfl
        exact Option.some_ne_none x (hdecode.symm.trans hnull)
      rw [Value.nullable?, hdecode, Option.map_some]
      exact hne
  form_encode
    | none => rfl
    | some x => h.form_encode x
  readable_of_form := by
    rintro (_ | x) v hv
    · subst hv; exact .scalar trivial
    · exact h.readable_of_form hv

lemma Faithful.items (h : Faithful decode encode form) :
    Faithful (Value.list? decode) (fun xs => .array (xs.map encode)) (Items form) where
  decode_of_form := by
    rintro xs _ ⟨items, rfl, hitems⟩
    show items.mapM decode = some xs
    induction hitems with
    | nil => rfl
    | cons hx _ ih => simp [h.decode_of_form hx, ih]
  form_encode xs :=
    ⟨_, rfl, List.forall₂_map_right_iff.2 (List.forall₂_same.2 fun x _ => h.form_encode x)⟩
  readable_of_form := by
    rintro xs _ ⟨items, rfl, hitems⟩
    refine .array ?_
    induction hitems with
    | nil => exact nofun
    | cons hx _ ih => exact List.forall_mem_cons.2 ⟨h.readable_of_form hx, ih⟩

/-! ## Records -/

/-- A field of a record: what is written in it, and what else may stand there.  What it holds is not
kept, only its forms. -/
structure Field where
  name : String
  written : Value
  form : Value → Prop
  /-- Whether the field may be left out. -/
  isDefault : Prop
  form_written : form written
  readable_of_form {v : Value} : form v → v.Readable

/-- The field `name` of a record that has `x` there; it may be left out if `x` is the default. -/
def Faithful.field (h : Faithful decode encode form) (name : String) (default x : α) : Field where
  name := name
  written := encode x
  form := form x
  isDefault := x = default
  form_written := h.form_encode x
  readable_of_form := h.readable_of_form

/-- Members for the fields in their order, perhaps without some that have their defaults. -/
inductive Gives : List Field → List (Literal × Value) → Prop where
  | nil : Gives [] []
  | given {f : Field} {fields : List Field} {v : Value} {members : List (Literal × Value)}
      (h : f.form v) (rest : Gives fields members) :
      Gives (f :: fields) ((some f.name, v) :: members)
  | dropped {f : Field} {fields : List Field} {members : List (Literal × Value)}
      (h : f.isDefault) (rest : Gives fields members) : Gives (f :: fields) members

/-- Items for the fields in their order, perhaps without the last if these have their defaults. -/
inductive Enumerates : List Field → List Value → Prop where
  | stop {fields : List Field} (h : ∀ f ∈ fields, f.isDefault) : Enumerates fields []
  | item {f : Field} {fields : List Field} {v : Value} {items : List Value} (h : f.form v)
      (rest : Enumerates fields items) : Enumerates (f :: fields) (v :: items)

/-- A member with a scalar for its value whose key means nothing, as a later version might add. -/
def IsUnknown (fields : List Field) (m : Literal × Value) : Prop :=
  ∃ key scalar, m = (some key, .scalar scalar) ∧ scalar.Readable ∧ key ∉ fields.map Field.name

/-- The forms of a record: an object with its members in any order, or a list of its fields. -/
inductive Records (fields : List Field) : Value → Prop where
  | object {given unknown members : List (Literal × Value)} (hgiven : Gives fields given)
      (hunknown : ∀ m ∈ unknown, IsUnknown fields m)
      (hperm : members.Perm (given ++ unknown)) : Records fields (.object members)
  | array {items : List Value} (h : Enumerates fields items) : Records fields (.array items)

/-- What is found of a field is one of its forms; if nothing is, then it has its default. -/
def Field.Allows (f : Field) : Option Value → Prop
  | some v => f.form v
  | none => f.isDefault

variable {fields : List Field} {members : List (Literal × Value)} {items : List Value} {v : Value}

/-- What is written of a field is read back, and what is not written is its default. -/
lemma Faithful.optional (h : Faithful decode encode form) {get : String → Option Value}
    {name : String} {default x : α} (hget : (h.field name default x).Allows (get name)) :
    Json.optional get name default decode = some x := by
  rw [Json.optional]
  cases hv : get name with
  | none =>
      rw [hv] at hget
      exact congrArg some (Eq.symm hget)
  | some v =>
      rw [hv] at hget
      exact h.decode_of_form hget

/-! ### What is found in an object -/

/-- A member with another key is no answer to a question for the field. -/
lemma filter_eq_nil_of_not_mem {name : String} (h : some name ∉ members.map (·.1)) :
    members.filter (·.1 == some name) = [] := by
  refine List.filter_eq_nil_iff.2 fun m hm hname => h ?_
  exact List.mem_map.2 ⟨m, hm, beq_iff_eq.1 hname⟩

lemma Gives.mem_names (h : Gives fields members) {key : Literal}
    (hkey : key ∈ members.map (·.1)) : key ∈ (fields.map Field.name).map some := by
  induction h with
  | nil => contradiction
  | given _ _ ih =>
      rcases List.mem_cons.1 hkey with rfl | hkey
      · exact List.mem_cons_self ..
      · exact List.mem_cons_of_mem _ (ih hkey)
  | dropped _ _ ih => exact List.mem_cons_of_mem _ (ih hkey)

/-- Each field is given once, or not at all, and then it has its default. -/
lemma Gives.exists_filter (h : Gives fields members) (hnames : (fields.map Field.name).Nodup) :
    ∀ f ∈ fields, ∃ got : Option Value, f.Allows got ∧
      members.filter (·.1 == some f.name) = (got.map fun v => (some f.name, v)).toList := by
  induction h with
  | nil => exact nofun
  | @given f fields v members hv rest ih =>
      obtain ⟨hf, hnames⟩ := List.nodup_cons.1 hnames
      have hother : members.filter (·.1 == some f.name) = [] := by
        refine filter_eq_nil_of_not_mem fun hkey => hf ?_
        simpa using rest.mem_names hkey
      refine List.forall_mem_cons.2 ⟨⟨some v, hv, ?_⟩, fun g hg => ?_⟩
      · rw [List.filter_cons_of_pos (by simp), hother]
        rfl
      · obtain ⟨got, hgot, hfilter⟩ := ih hnames g hg
        have hne : f.name ≠ g.name := fun heq => hf (heq ▸ List.mem_map_of_mem hg)
        refine ⟨got, hgot, ?_⟩
        rw [List.filter_cons_of_neg (by simpa using hne), hfilter]
  | @dropped f fields members hdefault rest ih =>
      obtain ⟨hf, hnames⟩ := List.nodup_cons.1 hnames
      refine List.forall_mem_cons.2 ⟨⟨none, hdefault, ?_⟩, ih hnames⟩
      refine filter_eq_nil_of_not_mem fun hkey => hf ?_
      simpa using rest.mem_names hkey

/-- In an object the order of the members does not matter, nor do the unknown ones. -/
lemma exists_fields?_object {given unknown : List (Literal × Value)}
    (hnames : (fields.map Field.name).Nodup) (hgiven : Gives fields given)
    (hunknown : ∀ m ∈ unknown, IsUnknown fields m) (hperm : members.Perm (given ++ unknown)) :
    ∃ get, (Value.object members).fields? (fields.map Field.name) = some get ∧
      ∀ f ∈ fields, f.Allows (get f.name) := by
  have hfilter : ∀ f ∈ fields, ∃ got : Option Value, f.Allows got ∧
      members.filter (·.1 == some f.name) = (got.map fun v => (some f.name, v)).toList := by
    intro f hf
    obtain ⟨got, hgot, hgiven⟩ := hgiven.exists_filter hnames f hf
    have hnone : unknown.filter (·.1 == some f.name) = [] := by
      refine filter_eq_nil_of_not_mem fun hkey => ?_
      obtain ⟨m, hm, hkey⟩ := List.mem_map.1 hkey
      obtain ⟨key, scalar, rfl, _, hnot⟩ := hunknown m hm
      exact hnot (Option.some_inj.1 hkey ▸ List.mem_map_of_mem hf)
    have hperm := hperm.filter (·.1 == some f.name)
    rw [List.filter_append, hnone, List.append_nil, hgiven] at hperm
    refine ⟨got, hgot, ?_⟩
    cases got with
    | none => exact hperm.eq_nil
    | some v => exact List.perm_singleton.1 hperm
  have htexts : ∀ m ∈ members, m.1.isSome = true := by
    intro m hm
    rcases List.mem_append.1 (hperm.mem_iff.1 hm) with hm | hm
    · have hkey := hgiven.mem_names (List.mem_map_of_mem hm)
      obtain ⟨name, _, hname⟩ := List.mem_map.1 hkey
      rw [← hname]
      rfl
    · obtain ⟨key, scalar, rfl, _⟩ := hunknown m hm
      rfl
  have honce : ∀ name ∈ fields.map Field.name, members.countP (·.1 == some name) ≤ 1 := by
    intro name hname
    obtain ⟨f, hf, rfl⟩ := List.mem_map.1 hname
    obtain ⟨got, _, hgot⟩ := hfilter f hf
    rw [List.countP_eq_length_filter, hgot]
    exact Option.length_toList_le
  refine ⟨_, if_pos ?_, fun f hf => ?_⟩
  · rw [Bool.and_eq_true, List.all_eq_true, List.all_eq_true]
    exact ⟨htexts, fun name hname => decide_eq_true (honce name hname)⟩
  · obtain ⟨got, hallows, hgot⟩ := hfilter f hf
    show f.Allows ((members.find? (·.1 == some f.name)).map (·.2))
    rw [← List.head?_filter, hgot]
    cases got <;> exact hallows

/-! ### What is found in a list -/

lemma Enumerates.length_le (h : Enumerates fields items) : items.length ≤ fields.length := by
  induction h with
  | stop => exact Nat.zero_le _
  | item _ _ ih => exact Nat.succ_le_succ ih

/-- In a list the place says which field it is. -/
lemma Enumerates.allows_lookup (h : Enumerates fields items)
    (hnames : (fields.map Field.name).Nodup) :
    ∀ f ∈ fields, f.Allows (((fields.map Field.name).zip items).lookup f.name) := by
  induction h with
  | stop hdefault =>
      intro f hf
      rw [List.zip_nil_right]
      exact hdefault f hf
  | @item f fields v items hv _ ih =>
      obtain ⟨hf, hnames⟩ := List.nodup_cons.1 hnames
      rw [List.map_cons, List.zip_cons_cons]
      refine List.forall_mem_cons.2 ⟨?_, fun g hg => ?_⟩
      · rw [List.lookup_cons_self]
        exact hv
      · have hne : g.name ≠ f.name := fun heq => hf (heq ▸ List.mem_map_of_mem hg)
        rw [List.lookup_cons, beq_eq_false_iff_ne.2 hne]
        exact ih hnames g hg

/-! ### The forms of a record -/

/-- **In every form of a record its fields are found**, or they have their defaults.  After this it
does not matter which form it was. -/
theorem Records.exists_fields? (h : Records fields v) (hnames : (fields.map Field.name).Nodup) :
    ∃ get, v.fields? (fields.map Field.name) = some get ∧ ∀ f ∈ fields, f.Allows (get f.name) := by
  cases h with
  | object hgiven hunknown hperm => exact exists_fields?_object hnames hgiven hunknown hperm
  | array h =>
      exact ⟨_, if_pos (by rw [List.length_map]; exact h.length_le), h.allows_lookup hnames⟩

/-- An object that gives the fields and has no other members is a form of the record. -/
lemma Gives.records {given : List (Literal × Value)} (h : Gives fields given)
    (hperm : members.Perm given) : Records fields (.object members) :=
  .object h (List.forall_mem_nil _) (hperm.trans (by rw [List.append_nil]))

/-- A record with all its fields, in their order. -/
lemma records_written (fields : List Field) :
    Records fields (.record (fields.map fun f => (f.name, f.written))) := by
  have hgiven : Gives fields (fields.map fun f => (some f.name, f.written)) := by
    induction fields with
    | nil => exact .nil
    | cons f fields ih => exact .given f.form_written ih
  rw [Value.record, List.map_map]
  exact hgiven.records (.refl _)

lemma Gives.readable (h : Gives fields members) : ∀ m ∈ members, m.2.Readable := by
  induction h with
  | nil => exact nofun
  | given hv _ ih => exact List.forall_mem_cons.2 ⟨Field.readable_of_form _ hv, ih⟩
  | dropped _ _ ih => exact ih

lemma Enumerates.readable (h : Enumerates fields items) : ∀ item ∈ items, item.Readable := by
  induction h with
  | stop => exact nofun
  | item hv _ ih => exact List.forall_mem_cons.2 ⟨Field.readable_of_form _ hv, ih⟩

lemma Records.readable (h : Records fields v) : v.Readable := by
  cases h with
  | object hgiven hunknown hperm =>
      refine .object fun m hm => ?_
      rcases List.mem_append.1 (hperm.mem_iff.1 hm) with hm | hm
      · exact hgiven.readable m hm
      · obtain ⟨key, scalar, rfl, hscalar, _⟩ := hunknown m hm
        exact .scalar hscalar
  | array h => exact .array h.readable

/-- A record is read from all its forms, if it is as soon as its fields have been found.  Each
record supplies its list of fields and nothing else. -/
theorem faithful_record {fields : α → List Field} {names : List String} (hnodup : names.Nodup)
    (hnames : ∀ x, (fields x).map Field.name = names)
    (hencode : ∀ x, encode x = .record ((fields x).map fun f => (f.name, f.written)))
    (hdecode : ∀ x v get, v.fields? names = some get →
      (∀ f ∈ fields x, f.Allows (get f.name)) → decode v = some x) :
    Faithful decode encode fun x => Records (fields x) where
  decode_of_form := by
    intro x v hv
    obtain ⟨get, hget, hallows⟩ := hv.exists_fields? (hnames x ▸ hnodup)
    exact hdecode x v get (hnames x ▸ hget) hallows
  form_encode x := by
    rw [hencode]
    exact records_written (fields x)
  readable_of_form := Records.readable

end FrameworkBindings.Json
