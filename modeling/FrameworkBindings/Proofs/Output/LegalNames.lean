import FrameworkBindings.Loading.Loader
import FrameworkBindings.Proofs.Output.Declared
import FrameworkBindings.Proofs.Text.Conversions

/-!
# Legal names

What Go takes for an identifier, and which of the names that are made of names in ASCII are one.
Every name that comes out is a word (`IsGoWord`); what may go wrong is that it is a keyword.  A
member or a parameter avoids the keywords.  A type has the sanitized name, and sanitizing a keyword
leaves it as it is.

* `IsGoWord`, `IsGoIdentifier` — words of letters, digits and underscores, and those that are no
  keyword.
* **`converted_legal`** — members and parameters have legal names, and the case of the first letter
  says which of the two a name is for.
* `OpensType` — a line that opens the declaration of a type.
* **`typeName_legal_iff`** — a class or a protocol has a legal name unless it is named by a keyword.

**From the name to the file.**  It is not enough that the name of a type is a keyword: it has to be
seen that the file declares the type under this name.  `stands_typeDeclared` finds the line in the
file, and `opensType_iff` says that the line can be read in one way only, as there is no blank in a
word.

**Why ASCII.**  Go allows letters and digits of other scripts.  Which characters these are is given
by a version of Unicode, and names that stay within ASCII do not depend on it.
-/

namespace FrameworkBindings

open Text

namespace Identifier

/-- A word of ASCII letters, digits and underscores that does not begin with a digit. -/
structure IsGoWord (name : String) : Prop where
  nonempty : name ≠ ""
  chars : ∀ c ∈ name.toList, c.isAlphanum = true ∨ c = '_'
  noDigit : ∀ c ∈ name.toList.head?, c.isDigit = false

/-- An identifier of Go in ASCII: such a word, if it is no keyword. -/
structure IsGoIdentifier (name : String) : Prop extends IsGoWord name where
  notKeyword : name ∉ keywords

/-- All characters are from ASCII, so that no table of Unicode is asked for. -/
def IsAscii (text : List Char) : Prop := ∀ c ∈ text, c.toNat < 0x80

instance (text : List Char) : Decidable (IsAscii text) :=
  inferInstanceAs (Decidable (∀ c ∈ text, c.toNat < 0x80))

variable {change : Char → List Char} {marked : List Nat} {name : String}

/-- There is no blank in a word, so a line can be cut at its blanks. -/
lemma IsGoWord.blank_not_mem (h : IsGoWord name) : ' ' ∉ name.toList := fun hblank => by
  have hword := h.chars ' ' hblank
  contradiction

/-- A clean name in ASCII is a word, if there is anything in it. -/
lemma IsClean.isGoWord (h : IsClean name) (hne : name ≠ "") (hascii : IsAscii name.toList) :
    IsGoWord name := by
  refine ⟨hne, fun c hc => ?_, h.noDigit⟩
  have hword := h.wordChars c hc
  rw [isWordChar_of_ascii (hascii c hc)] at hword
  simpa [isAsciiWord] using hword

/-! ## Sanitized names -/

lemma isAscii_sanitize (h : IsAscii name.toList) : IsAscii (sanitize name).toList := by
  have hkept : IsAscii (name.toList.map keptChar) := by
    refine List.forall_mem_map.2 fun c hc => ?_
    rw [keptChar]
    split
    · exact h c hc
    · decide
  rw [toList_sanitize]
  rcases guardDigit_eq (name.toList.map keptChar) with hsame | hled
  · rwa [hsame]
  · rw [hled]
    exact List.forall_mem_cons.2 ⟨by decide, hkept⟩

/-- **A sanitized name in ASCII is a word**, as every other character was replaced. -/
lemma isGoWord_sanitize (hne : name ≠ "") (hascii : IsAscii name.toList) :
    IsGoWord (sanitize name) := by
  obtain ⟨letter, rest, hsanitized⟩ := exists_sanitize hne
  have hnonempty : sanitize name ≠ "" := by
    rw [Ne, ← String.toList_eq_nil_iff, hsanitized]
    exact List.cons_ne_nil _ _
  exact (isClean_sanitize name).isGoWord hnonempty (isAscii_sanitize hascii)

/-! ## Converted names -/

lemma isAscii_avoidKeyword (h : IsAscii name.toList) : IsAscii (avoidKeyword name).toList := by
  have htable : ∀ word ∈ keywords, IsAscii (avoidKeyword word).toList := by decide +kernel
  by_cases hkeyword : name ∈ keywords
  · exact htable name hkeyword
  · rwa [avoidKeyword_of_not_mem hkeyword]

/-- Changing the first character stays within ASCII, if the case map does. -/
lemma isAscii_recased (hchange : ∀ c, c.toNat < 0x80 → IsAscii (change c))
    (h : IsAscii name.toList) : IsAscii (recased change name).toList := by
  have hsanitized := isAscii_sanitize h
  refine isAscii_avoidKeyword ?_
  rw [String.toList_ofList]
  cases hname : (sanitize name).toList with
  | nil => exact fun c hc => absurd hc List.not_mem_nil
  | cons letter rest =>
      rw [hname] at hsanitized
      obtain ⟨hletter, hrest⟩ := List.forall_mem_cons.1 hsanitized
      exact List.forall_mem_append.2 ⟨hchange letter hletter, hrest⟩

/-- **A converted name in ASCII is an identifier**, if the case map stays within ASCII and puts its
marks elsewhere only. -/
lemma isGoIdentifier_recased (hsettles : Settles change) (hmarks : MarksOf change marked)
    (hchange : ∀ c, c.toNat < 0x80 → IsAscii (change c)) (hne : name ≠ "")
    (hascii : IsAscii name.toList) : IsGoIdentifier (recased change name) := by
  have hclean : IsClean (recased change name) := by
    refine ⟨(wordChars_recased_iff hmarks name).2 fun c hc hmarked => ?_,
      fun c hc => (head_recased hsettles name c hc).2.2⟩
    exact (hmarks.letters c hmarked).2.not_gt (hascii c (List.mem_of_mem_head? hc))
  exact ⟨hclean.isGoWord (recased_ne_empty hsettles hne) (isAscii_recased hchange hascii),
    avoidKeyword_not_mem _⟩

lemma isAscii_upper {c : Char} (hc : c.toNat < 0x80) : IsAscii (upper c) := by
  rw [upper_eq_toUpper hc]
  exact List.forall_mem_singleton.2
    (forall_ascii (P := (·.toUpper.toNat < 0x80)) (by decide +kernel) hc)

lemma isAscii_lower {c : Char} (hc : c.toNat < 0x80) : IsAscii (lower c) := by
  rw [lower_eq_toLower hc]
  exact List.forall_mem_singleton.2
    (forall_ascii (P := (·.toLower.toNat < 0x80)) (by decide +kernel) hc)

/-- **Members and parameters have legal names.**  Each is an identifier, and neither case looks like
the other: an exported name does not begin with a small letter, nor an unexported one with a
capital. -/
theorem converted_legal (name : String) (hne : name ≠ "") (hascii : IsAscii name.toList) :
    IsGoIdentifier (exported name) ∧ IsGoIdentifier (unexported name) ∧
      (∀ c ∈ (exported name).toList.head?, c.isLower = false) ∧
      ∀ c ∈ (unexported name).toList.head?, c.isUpper = false :=
  ⟨isGoIdentifier_recased settles_upper marksOf_upper (fun _ => isAscii_upper) hne hascii,
    isGoIdentifier_recased settles_lower marksOf_lower (fun _ => isAscii_lower) hne hascii,
    isLower_head_exported name, isUpper_head_unexported name⟩

/-- A name that becomes a keyword in the other case: it is cut where it would, and both are
identifiers. -/
theorem converted_legal_select :
    IsAscii "Select".toList ∧ exported "Select" = "Select" ∧ unexported "Select" = "sel" ∧
      IsGoIdentifier "Select" ∧ IsGoIdentifier "sel" := by
  have hascii : IsAscii "Select".toList := by decide
  have hexported : exported "Select" = "Select" := by decide +kernel
  have hunexported : unexported "Select" = "sel" := by decide +kernel
  obtain ⟨hmember, hparameter, -⟩ := converted_legal "Select" (by decide) hascii
  rw [hexported] at hmember
  rw [hunexported] at hparameter
  exact ⟨hascii, hexported, hunexported, hmember, hparameter⟩

end Identifier

namespace Output

open Identifier

/-! ## Types -/

/-- A line that opens the declaration of a type, whose name is an identifier. -/
def OpensType (line : String) : Prop :=
  ∃ name, IsGoIdentifier name ∧ ∃ kind ∈ [" struct \x7b", " interface \x7b"],
    line = "type " ++ name ++ kind

/-- What declares an entity under a name; a union is not declared at all. -/
def typeDeclared (type : String) : Entity → Option Declared
  | .record _ => some (.struct type)
  | .protocol _ => some (.interface type)
  | .union _ => none

variable {entity : Entity} {type : String} {declared : Declared}

/-- The declaration of an entity begins with its name, between the word for a type and its kind. -/
lemma opening_of_typeDeclared (h : declared ∈ typeDeclared type entity) :
    ∃ kind ∈ [" struct \x7b", " interface \x7b"], declared.opening = "type " ++ type ++ kind := by
  cases entity with
  | record d =>
      cases h
      exact ⟨" struct \x7b", by simp, rfl⟩
  | protocol d =>
      cases h
      exact ⟨" interface \x7b", by simp, rfl⟩
  | union d => contradiction

/-- The name in a line is the only one that can be read from it. -/
lemma opensType_iff {kind : String} (hkind : kind ∈ [" struct \x7b", " interface \x7b"])
    (htype : IsGoWord type) : OpensType ("type " ++ type ++ kind) ↔ IsGoIdentifier type := by
  -- Either kind begins with a blank, and no word has one.
  have hblank : ∀ kind ∈ [" struct \x7b", " interface \x7b"],
      ∃ rest, kind.toList = ' ' :: rest := by simp
  constructor
  · rintro ⟨name, hname, other, hother, hline⟩
    obtain ⟨rest, hrest⟩ := hblank kind hkind
    obtain ⟨rest', hrest'⟩ := hblank other hother
    rw [String.append_assoc, String.append_assoc, String.append_right_inj, ← String.toList_inj,
      String.toList_append, String.toList_append, hrest, hrest'] at hline
    have hsame := (first_mark_inj htype.blank_not_mem hname.blank_not_mem hline).1
    rwa [String.toList_inj.1 hsame]
  · exact fun hidentifier => ⟨type, hidentifier, kind, hkind, rfl⟩

/-- The file declares each entity that is selected under its name. -/
lemma stands_typeDeclared (config : Config) (store : Store) {selected : List (EntityId × Entity)}
    {id : EntityId} (hselected : (id, entity) ∈ selected) (htype : entity.head.hostName = some type)
    (h : declared ∈ typeDeclared type entity) :
    Stands declared.opening (generateFrom config store selected).code := by
  have hdeclared : declared ∈ declaredBy store entity := by
    cases entity with
    | record d =>
        cases h
        simp [declaredBy, show d.head.hostName = some type from htype, wrapperDeclared]
    | protocol d =>
        cases h
        simp [declaredBy, show d.head.hostName = some type from htype, interfaceDeclared]
    | union d => contradiction
  refine (standInOrder_file config store selected).stands (List.mem_map_of_mem ?_)
  exact List.mem_append_left _ (List.mem_flatMap.2 ⟨_, hselected, hdeclared⟩)

/-- **A class or a protocol has a legal name unless it is named by a keyword.**  What it is declared
under is a word in any case; whether that is an identifier, and whether the line with the
declaration opens one, depends on the keywords only.  No other name becomes a keyword when it is
sanitized, since keywords have no underscore. -/
theorem typeName_legal_iff (entity : Entity) (hne : entity.head.name ≠ "")
    (hascii : IsAscii entity.head.name.toList) :
    ∃ type, entity.head.hostName = some type ∧ IsGoWord type ∧
      (IsGoIdentifier type ↔ entity.head.name ∉ keywords) ∧
      ∀ declared ∈ typeDeclared type entity,
        (OpensType declared.opening ↔ entity.head.name ∉ keywords) ∧
        ∀ config store selected id, (id, entity) ∈ selected →
          Stands declared.opening (generateFrom config store selected).code := by
  have htype : entity.head.hostName = some (sanitize entity.head.name) := if_neg hne
  have hword := isGoWord_sanitize hne hascii
  have hlegal : IsGoIdentifier (sanitize entity.head.name) ↔ entity.head.name ∉ keywords := by
    rw [← sanitize_mem_keywords_iff]
    exact ⟨IsGoIdentifier.notKeyword, fun hkeyword => ⟨hword, hkeyword⟩⟩
  refine ⟨_, htype, hword, hlegal, fun declared hdeclared => ⟨?_, ?_⟩⟩
  · obtain ⟨kind, hkind, hopening⟩ := opening_of_typeDeclared hdeclared
    rw [hopening, opensType_iff hkind hword]
    exact hlegal
  · exact fun config store selected id hselected =>
      stands_typeDeclared config store hselected htype hdeclared

/-- A name that is no word: what is made of it is one, and the file has a line that opens its
interface. -/
theorem typeName_legal_iff_category :
    let head : Declaration := { refid := "c", name := "3DView(Layout)" }
    let entity : Entity := .protocol { head }
    head.hostName = some "_3DView_Layout_" ∧ IsGoIdentifier "_3DView_Layout_" ∧
      OpensType "type _3DView_Layout_ interface \x7b" ∧
      Stands "type _3DView_Layout_ interface \x7b" (generateFrom {} {} [(⟨0⟩, entity)]).code := by
  intro head entity
  have hname : head.hostName = some "_3DView_Layout_" := by decide +kernel
  obtain ⟨type, htype, -, hlegal, hdeclared⟩ := typeName_legal_iff entity (by decide) (by decide)
  obtain rfl : "_3DView_Layout_" = type := Option.some.inj (hname.symm.trans htype)
  obtain ⟨hopens, hstands⟩ := hdeclared _ rfl
  have hkeyword : head.name ∉ keywords := by decide
  exact ⟨hname, hlegal.2 hkeyword, hopens.2 hkeyword, hstands _ _ _ _ List.mem_cons_self⟩

/-- A class may be named by a keyword; the file then has a declaration that Go does not read. -/
theorem typeName_keyword :
    let loaded := ({} : Loader).loadEntry ⟨"f", "func", "class"⟩ {}
    let store := loaded.2.finish.store
    loaded.1 = .ok () ∧ store.sorted.map (·.2.head.hostName) = [some "func"] ∧
      ¬ IsGoIdentifier "func" ∧ ¬ OpensType "type func struct \x7b" ∧
      ∃ g, generate {} store = .ok g ∧ Stands "type func struct \x7b" g.code := by
  intro loaded store
  have hopenings : (Config.declared {} store store.sorted).map Declared.opening =
      ["type func struct \x7b", "func Newfunc(", "func Asfunc("] := by decide +kernel
  have hkeyword : ¬ IsGoIdentifier "func" := fun h => absurd h.notKeyword (by decide)
  have hopens : OpensType ("type " ++ "func" ++ " struct \x7b") ↔ IsGoIdentifier "func" :=
    opensType_iff (by decide) ⟨by decide, by decide, by decide⟩
  refine ⟨by decide +kernel, by decide +kernel, hkeyword, mt hopens.1 hkeyword, _, rfl, ?_⟩
  exact (standInOrder_file {} store store.sorted).stands (hopenings ▸ List.mem_cons_self)

end Output

end FrameworkBindings
