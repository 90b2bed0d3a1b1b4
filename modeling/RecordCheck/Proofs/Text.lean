import Mathlib.Data.List.DropRight
import Mathlib.Data.List.Forall2
import RecordCheck.Text.Blank

/-!
# Texts without blanks and without case

`Trimmed cs inner` says that the characters `inner` are what is left of `cs` without the blanks around it, which is what
`trim` gives (`trim_eq_iff`). Two texts become equal in lower case exactly if they are equal place by place up to the
case of one ASCII letter (`foldCase_eq_iff`).
-/

namespace RecordCheck.Text

/-- The characters without the blanks before and after them. -/
structure Trimmed (cs inner : List Char) : Prop where
  split : ∃ before after, cs = before ++ inner ++ after ∧ (∀ c ∈ before, isBlank c = true) ∧
    ∀ c ∈ after, isBlank c = true
  first : ∀ c ∈ inner.head?, isBlank c = false
  last : ∀ c ∈ inner.getLast?, isBlank c = false

theorem trim_eq_rdropWhile (cs : List Char) : trim cs = (cs.dropWhile isBlank).rdropWhile isBlank := rfl

theorem head?_dropWhile_isBlank (cs : List Char) : ∀ c ∈ (cs.dropWhile isBlank).head?, isBlank c = false := by
  intro c member
  have first := List.head?_dropWhile_not isBlank cs
  rw [Option.mem_def.mp member] at first
  exact first

theorem dropWhile_of_first {cs : List Char} (first : ∀ c ∈ cs.head?, isBlank c = false) :
    cs.dropWhile isBlank = cs := by
  cases cs with
  | nil => rfl
  | cons c rest => exact List.dropWhile_cons_of_neg (by simpa using first c rfl)

/-- What is left without blanks at the end has lost nothing but blanks. -/
theorem exists_rdropWhile_append (cs : List Char) :
    ∃ after, cs = cs.rdropWhile isBlank ++ after ∧ ∀ c ∈ after, isBlank c = true :=
  ⟨cs.rtakeWhile isBlank, List.rdropWhile_append_rtakeWhile.symm, fun _ => List.mem_rtakeWhile_imp⟩

theorem trimmed_trim (cs : List Char) : Trimmed cs (trim cs) := by
  rw [trim_eq_rdropWhile]
  obtain ⟨after, back, blank⟩ := exists_rdropWhile_append (cs.dropWhile isBlank)
  constructor
  · refine ⟨cs.takeWhile isBlank, after, ?_, fun _ => List.mem_takeWhile_imp, blank⟩
    rw [List.append_assoc, ← back, List.takeWhile_append_dropWhile]
  · -- what is left starts where the text without the blanks before it does
    intro c member
    apply head?_dropWhile_isBlank cs c
    rw [back, List.head?_append, Option.mem_def.mp member]
    rfl
  · intro c member
    rw [List.rdropWhile, List.getLast?_reverse] at member
    exact head?_dropWhile_isBlank _ c member

theorem Trimmed.trim_eq {cs inner : List Char} (trimmed : Trimmed cs inner) : trim cs = inner := by
  obtain ⟨⟨before, after, rfl, blank, blank'⟩, first, last⟩ := trimmed
  by_cases empty : inner = []
  · subst empty
    have nothing : (before ++ [] ++ after).dropWhile isBlank = [] := by
      rw [List.append_nil, List.dropWhile_append_of_pos blank]
      exact List.dropWhile_eq_nil_iff.mpr blank'
    rw [trim, nothing]
    rfl
  · have front : (before ++ inner ++ after).dropWhile isBlank = inner ++ after := by
      rw [List.append_assoc, List.dropWhile_append_of_pos blank]
      apply dropWhile_of_first
      rwa [List.head?_append_of_ne_nil _ empty]
    have back : (inner ++ after).reverse.dropWhile isBlank = inner.reverse := by
      rw [List.reverse_append, List.dropWhile_append_of_pos (by simpa using blank')]
      apply dropWhile_of_first
      rwa [List.head?_reverse]
    rw [trim, front, back, List.reverse_reverse]

theorem trim_eq_iff {cs inner : List Char} : trim cs = inner ↔ Trimmed cs inner := by
  constructor
  · rintro rfl
    exact trimmed_trim cs
  · exact Trimmed.trim_eq

example : trim "\u2003 Deny\u0085".toList = "Deny".toList := by decide +kernel

/-- The first character is an upper case ASCII letter, and the second one is that letter in lower case. -/
def UpperOf (c d : Char) : Prop := c.isUpper = true ∧ d.toNat = c.toNat + 32

/-- The characters are equal up to the case of ASCII letters. -/
def SameLetter (c d : Char) : Prop := c = d ∨ UpperOf c d ∨ UpperOf d c

theorem isUpper_iff {c : Char} : c.isUpper = true ↔ 65 ≤ c.toNat ∧ c.toNat ≤ 90 := by
  have bounds : c.isUpper = true ↔ 'A'.val ≤ c.val ∧ c.val ≤ 'Z'.val := decide_eq_true_iff
  rw [bounds, UInt32.le_iff_toNat_le, UInt32.le_iff_toNat_le]
  exact Iff.rfl

theorem toNat_toLower (c : Char) : c.toLower.toNat = if c.isUpper then c.toNat + 32 else c.toNat := by
  by_cases upper : c.isUpper = true
  · rw [if_pos upper]
    have small := isUpper_iff.mp upper
    have lower : c.toLower.toNat = (c.val + ('a'.val - 'A'.val)).toNat :=
      congrArg Char.toNat (dif_pos (of_decide_eq_true upper))
    rw [lower, UInt32.toNat_add]
    have sum : ('a'.val - 'A'.val).toNat = 32 := rfl
    have here : c.val.toNat = c.toNat := rfl
    omega
  · have kept : c.toLower = c := dif_neg fun reached => upper (decide_eq_true reached)
    rw [if_neg upper, kept]

theorem toLower_eq_iff {c d : Char} : c.toLower = d.toLower ↔ SameLetter c d := by
  rw [← Char.toNat_inj, toNat_toLower, toNat_toLower, SameLetter, UpperOf, UpperOf, ← Char.toNat_inj]
  simp only [isUpper_iff]
  split
  · split <;> omega
  · split <;> omega

theorem foldCase_eq_iff {cs ds : List Char} : foldCase cs = foldCase ds ↔ List.Forall₂ SameLetter cs ds := by
  simp only [foldCase, ← List.forall₂_eq_eq_eq, List.forall₂_map_left_iff, List.forall₂_map_right_iff, toLower_eq_iff]

end RecordCheck.Text
