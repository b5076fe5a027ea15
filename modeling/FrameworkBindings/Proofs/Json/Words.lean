import Mathlib.Data.Int.Notation
import Mathlib.Data.List.Basic
import Mathlib.Data.List.TakeWhile
import Mathlib.Tactic.Lemma
import Mathlib.Tactic.SplitIfs
import FrameworkBindings.Json.Reader

/-!
# Words of JSON texts

What stands outside strings is made of words: the names of constants, and numbers.

* `endsWord` — what ends a word.  Nothing of this kind is in a word that can be read
  (`not_endsWord_of_readWord`).
* **`readWord_toString`** — a whole number is read back from its decimal digits.

The reader collects a word until it is over and reads it then, so what is needed of words is that
they are not over too early.  The characters of numbers are collected in one test (`isNumberChar`),
which each part of a number passes: digits, fraction, exponent.

**Numbers.**  A number is cut into its whole part and what follows, and each part has a lemma that
says its characters pass.  The parts are not described further, since a word is known to be a number
only when it has been read, and reading has looked at all of it.

**Digits.**  The digits of a whole number are those of core.  That they are read as the number needs
the one rule by which JSON is narrower than that: a number of more than one digit may not begin with
a zero (`head?_toDigits_ne`), and zero has no sign.
-/

namespace FrameworkBindings.Json

/-- Whether a word is over when `c` comes: a blank, a quote or punctuation. -/
def endsWord (c : Char) : Bool :=
  isSpace c || c == '"' || (punctuation? c).isSome

/-- Whether `c` may stand in a number. -/
def isNumberChar (c : Char) : Bool :=
  c.isDigit || ['.', 'e', 'E', '+', '-'].contains c

/-! ## What is in a word -/

lemma endsWord_eq_false {c : Char}
    (h : c ∉ [' ', '\n', '\t', '\r', '"', '[', ']', '\x7b', '\x7d', ',', ':']) :
    endsWord c = false := by
  simp only [List.mem_cons, not_or] at h
  simp [endsWord, isSpace, punctuation?, List.lookup_eq_none_iff, h]

lemma not_endsWord_of_isNumberChar {c : Char} (h : isNumberChar c = true) :
    endsWord c = false := by
  refine endsWord_eq_false fun hmem => ?_
  have hall : ∀ d ∈ [' ', '\n', '\t', '\r', '"', '[', ']', '\x7b', '\x7d', ',', ':'],
      isNumberChar d = false := by simp [isNumberChar]
  rw [hall c hmem] at h
  contradiction

lemma isNumberChar_of_isDigits {text : List Char} (h : isDigits text = true) :
    ∀ c ∈ text, isNumberChar c = true := by
  intro c hc
  rw [isDigits, Bool.and_eq_true, List.all_eq_true] at h
  rw [isNumberChar, h.2 c hc, Bool.true_or]

lemma isNumberChar_of_isExponent {text : List Char} (h : isExponent text = true) :
    ∀ c ∈ text, isNumberChar c = true := by
  match text with
  | [] => simp
  | e :: text =>
    unfold isExponent at h
    obtain ⟨he, hdigits⟩ := (Bool.and_eq_true _ _).mp h
    have htext : ∀ c ∈ text, isNumberChar c = true := by
      split at hdigits
      · exact List.forall_mem_cons.2 ⟨rfl, isNumberChar_of_isDigits hdigits⟩
      · exact List.forall_mem_cons.2 ⟨rfl, isNumberChar_of_isDigits hdigits⟩
      · exact isNumberChar_of_isDigits hdigits
    refine List.forall_mem_cons.2 ⟨?_, htext⟩
    rw [Bool.or_eq_true, beq_iff_eq, beq_iff_eq] at he
    rcases he with rfl | rfl <;> rfl

lemma isNumberChar_of_isFractionOrExponent {text : List Char}
    (h : isFractionOrExponent text = true) : ∀ c ∈ text, isNumberChar c = true := by
  unfold isFractionOrExponent at h
  split at h
  · rename_i text
    rw [Bool.and_eq_true] at h
    refine List.forall_mem_cons.2 ⟨rfl, fun c hc => ?_⟩
    rw [← List.takeWhile_append_dropWhile (p := Char.isDigit) (l := text), List.mem_append] at hc
    rcases hc with hc | hc
    · exact isNumberChar_of_isDigits h.1 c hc
    · exact isNumberChar_of_isExponent h.2 c hc
  · exact isNumberChar_of_isExponent h

/-- A number without its sign consists of characters of numbers, so it is cut off as a whole. -/
lemma isNumberChar_of_readUnsigned {negative : Bool} {text : List Char} {value : Scalar}
    (h : readUnsigned negative text = some value) :
    text ≠ [] ∧ ∀ c ∈ text, isNumberChar c = true := by
  have hwhole : ∀ c ∈ text.takeWhile Char.isDigit, isNumberChar c = true := by
    intro c hc
    rw [isNumberChar, List.mem_takeWhile_imp hc, Bool.true_or]
  have hrest : ∀ c ∈ text.dropWhile Char.isDigit, isNumberChar c = true := by
    unfold readUnsigned at h
    dsimp only at h
    split_ifs at h with hbad hmore hfraction
    · exact isNumberChar_of_isFractionOrExponent hfraction
    · exact isNumberChar_of_isFractionOrExponent hfraction
    all_goals
      have hnone : text.dropWhile Char.isDigit = [] := by simpa using hmore
      rw [hnone]
      exact fun c hc => absurd hc List.not_mem_nil
  constructor
  · rintro rfl
    contradiction
  · intro c hc
    rw [← List.takeWhile_append_dropWhile (p := Char.isDigit) (l := text), List.mem_append] at hc
    rcases hc with hc | hc
    · exact hwhole c hc
    · exact hrest c hc

/-- A word that can be read is not empty and holds nothing that ends a word, so the reader collects
all of it. -/
lemma not_endsWord_of_readWord {word : List Char} {value : Scalar}
    (h : readWord word = some value) : word ≠ [] ∧ ∀ c ∈ word, endsWord c = false := by
  have hconstant : ∀ text : List Char, (text.isEmpty || text.any endsWord) = false →
      text ≠ [] ∧ ∀ c ∈ text, endsWord c = false := by
    intro text htext
    simpa using htext
  unfold readWord at h
  split_ifs at h with hnull htrue hfalse
  · exact hnull ▸ hconstant _ rfl
  · exact htrue ▸ hconstant _ rfl
  · exact hfalse ▸ hconstant _ rfl
  split at h
  · obtain ⟨_, hnumber⟩ := isNumberChar_of_readUnsigned h
    refine ⟨List.cons_ne_nil _ _, List.forall_mem_cons.2 ⟨rfl, fun c hc => ?_⟩⟩
    exact not_endsWord_of_isNumberChar (hnumber c hc)
  · obtain ⟨hword, hnumber⟩ := isNumberChar_of_readUnsigned h
    exact ⟨hword, fun c hc => not_endsWord_of_isNumberChar (hnumber c hc)⟩

/-! ## Whole numbers -/

/-- Only zero begins with a zero; the reader refuses other numbers that do. -/
lemma head?_toDigits_ne {n : ℕ} (h : n ≠ 0) : (Nat.toDigits 10 n).head? ≠ some '0' := by
  induction n using Nat.strongRecOn with
  | _ n ih =>
    by_cases hlt : n < 10
    · rw [Nat.toDigits_of_lt_base hlt, List.head?_cons, Ne, Option.some_inj,
        Nat.digitChar_eq_zero]
      exact h
    · rw [Nat.toDigits_of_base_le (by decide) (Nat.le_of_not_lt hlt),
        List.head?_append_of_ne_nil _ Nat.toDigits_ne_nil]
      exact ih (n / 10) (by omega) (by omega)

lemma isDigit_of_mem_toDigits {n : ℕ} : ∀ c ∈ Nat.toDigits 10 n, c.isDigit = true :=
  fun _ hc => Nat.isDigit_of_mem_toDigits (by decide) (by decide) hc

lemma digitsValue_toDigits (n : ℕ) : digitsValue (Nat.toDigits 10 n) = n :=
  Nat.ofDigitChars_ten_toDigits

/-- The decimal digits of a number are read as the number, with the sign that stood in front of
them.  Zero has none. -/
lemma readUnsigned_toDigits (negative : Bool) (n : ℕ) (h : negative = true → n ≠ 0) :
    readUnsigned negative (Nat.toDigits 10 n) =
      some (.integer (if negative then -(n : ℤ) else n)) := by
  have hwhole : (Nat.toDigits 10 n).takeWhile Char.isDigit = Nat.toDigits 10 n :=
    List.takeWhile_eq_self_iff.2 isDigit_of_mem_toDigits
  have hrest : (Nat.toDigits 10 n).dropWhile Char.isDigit = [] :=
    List.dropWhile_eq_nil_iff.2 isDigit_of_mem_toDigits
  have hempty : (Nat.toDigits 10 n).isEmpty = false := by
    simp [Nat.toDigits_ne_nil]
  have hzero : ((Nat.toDigits 10 n).head? == some '0' && (Nat.toDigits 10 n).length != 1) =
      false := by
    by_cases hn : n = 0
    · subst hn; rfl
    · rw [beq_eq_false_iff_ne.2 (head?_toDigits_ne hn), Bool.false_and]
  rw [readUnsigned]
  simp only [hwhole, hrest, hempty, hzero, digitsValue_toDigits]
  cases negative with
  | false => rfl
  | true => simp [h rfl]

/-- What begins with a digit is a number without a sign. -/
lemma readWord_of_head {word : List Char} {d : Char} (hhead : word.head? = some d)
    (hd : d.isDigit = true) : readWord word = readUnsigned false word := by
  have hother : ∀ other : List Char, other.head?.any Char.isDigit = false → word ≠ other := by
    rintro _ hany rfl
    rw [hhead, Option.any_some, hd] at hany
    contradiction
  unfold readWord
  rw [if_neg (hother _ rfl), if_neg (hother _ rfl), if_neg (hother _ rfl)]
  split
  · exact absurd rfl (hother _ rfl)
  · rfl

lemma toList_repr (n : ℕ) : (Nat.repr n).toList = Nat.toDigits 10 n := by
  rw [Nat.repr_eq_ofList_toDigits, String.toList_ofList]

/-- **A whole number is read back from its digits**, negative ones included. -/
lemma readWord_toString (n : ℤ) : readWord (toString n).toList = some (.integer n) := by
  cases n with
  | ofNat m =>
      have hword : (toString (Int.ofNat m)).toList = Nat.toDigits 10 m := toList_repr m
      obtain ⟨d, digits, hdigits⟩ : ∃ d digits, Nat.toDigits 10 m = d :: digits :=
        List.exists_cons_of_ne_nil Nat.toDigits_ne_nil
      have hd : d.isDigit = true := isDigit_of_mem_toDigits d (by rw [hdigits]; simp)
      rw [hword, readWord_of_head (by rw [hdigits]; rfl) hd]
      exact readUnsigned_toDigits false m nofun
  | negSucc m =>
      have hword : (toString (Int.negSucc m)).toList = '-' :: Nat.toDigits 10 (m + 1) :=
        (String.toList_append ..).trans (congrArg ('-' :: ·) (toList_repr (m + 1)))
      rw [hword]
      exact readUnsigned_toDigits true (m + 1) fun _ => Nat.succ_ne_zero m

end FrameworkBindings.Json
