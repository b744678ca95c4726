import LoxTokens.Text.Space
import Mathlib.Data.List.DropRight

/-!
# What is dropped at the end of a text

`Text.dropTrailing` is defined by core operations alone, since the running program needs it.  It is
`List.rdropWhile` (`Text.dropTrailing_eq_rdropWhile`), and what is dropped is `List.rtakeWhile`; all
that is proved here of it comes from what the library has on these two.

* `Text.exists_eq_dropTrailing_append` — a text is what is left of it and a run of characters that
  satisfy the test.
* `Text.dropTrailing_append_of_forall`, `Text.dropTrailing_cons` — how the dropping goes on behind
  and in front of a text that is known.
* `Text.Trimmed v w` — `w` is `v` without white space on either side, said by what stands around
  `w` and not by the search for it.  There is one such text, and `Text.trim` finds it
  (`Text.trim_eq_iff`).
-/

set_option autoImplicit false

namespace LoxTokens.Text

variable {p : Char → Bool} {s t : Text}

theorem dropTrailing_eq_rdropWhile (p : Char → Bool) (t : Text) :
    dropTrailing p t = t.rdropWhile p := rfl

/-- What is dropped at the end of a text satisfies the test, and does not go on in front. -/
theorem exists_eq_dropTrailing_append (p : Char → Bool) (t : Text) :
    ∃ s, t = dropTrailing p t ++ s ∧ (∀ c ∈ s, p c = true) ∧
      ∀ c ∈ (dropTrailing p t).getLast?, p c = false := by
  rw [dropTrailing_eq_rdropWhile]
  refine ⟨t.rtakeWhile p, List.rdropWhile_append_rtakeWhile.symm,
    fun c hc ↦ List.mem_rtakeWhile_imp hc, fun c hc ↦ ?_⟩
  obtain ⟨hne, rfl⟩ := List.mem_getLast?_eq_getLast hc
  exact Bool.eq_false_iff.2 (List.rdropWhile_last_not p t hne)

/-- What is kept when the end is dropped is part of the text. -/
theorem mem_of_mem_dropTrailing {c : Char} (h : c ∈ dropTrailing p t) : c ∈ t :=
  (List.rdropWhile_prefix p t).subset h

/-- Characters at the end that satisfy the test are dropped. -/
theorem dropTrailing_append_of_forall (t : Text) (h : ∀ c ∈ s, p c = true) :
    dropTrailing p (t ++ s) = dropTrailing p t := by
  rw [dropTrailing, List.reverse_append,
    List.dropWhile_append_of_pos fun c hc ↦ h c (List.mem_reverse.1 hc), dropTrailing]

/-- A text that ends with a character that does not satisfy the test is kept. -/
theorem dropTrailing_eq_self (h : ∀ c ∈ t.getLast?, p c = false) : dropTrailing p t = t := by
  rw [dropTrailing_eq_rdropWhile, List.rdropWhile_eq_self_iff]
  intro hne
  exact Bool.eq_false_iff.1 (h _ (List.getLast?_eq_getLast_of_ne_nil hne))

/-- A character is dropped only together with all that comes behind it. -/
theorem dropTrailing_cons (p : Char → Bool) (c : Char) (t : Text) :
    dropTrailing p (c :: t) =
      if dropTrailing p t = [] ∧ p c = true then [] else c :: dropTrailing p t := by
  rw [dropTrailing, dropTrailing, List.reverse_cons, List.dropWhile_append]
  by_cases h : t.reverse.dropWhile p = []
  · cases hc : p c <;> simp [h, hc]
  · simp [h]

/-- Nothing is dropped up to a character that does not satisfy the test. -/
theorem dropTrailing_append_cons {c : Char} (hc : p c = false) (s t : Text) :
    dropTrailing p (s ++ c :: t) = s ++ c :: dropTrailing p t := by
  induction s with
  | nil => simp [dropTrailing_cons, hc]
  | cons d s ih => simp [dropTrailing_cons, ih]

/-! ## Trimming -/

/-- `w` is `v` without white space on either side: it has white space around it in `v`, and neither
begins nor ends with white space. -/
structure Trimmed (v w : Text) : Prop where
  sides : ∃ before after, v = before ++ (w ++ after) ∧
    (∀ c ∈ before, isSpace c = true) ∧ ∀ c ∈ after, isSpace c = true
  head : ∀ c ∈ w.head?, isSpace c = false
  last : ∀ c ∈ w.getLast?, isSpace c = false

theorem trimmed_trim (v : Text) : Trimmed v (trim v) := by
  obtain ⟨after, heq, hafter, hlast⟩ :=
    exists_eq_dropTrailing_append isSpace (v.dropWhile isSpace)
  have hbefore := List.all_eq_true.1 (List.all_takeWhile (l := v) (p := isSpace))
  refine ⟨⟨v.takeWhile isSpace, after, ?_, hbefore, hafter⟩, fun c hc ↦ ?_, hlast⟩
  · rw [trim, ← heq, List.takeWhile_append_dropWhile]
  · have hhead : (v.dropWhile isSpace).head? = some c := by
      rw [heq, List.head?_append, show (dropTrailing isSpace _).head? = some c from hc,
        Option.some_or]
    have hnot := List.head?_dropWhile_not isSpace v
    rw [hhead] at hnot
    simpa using hnot

/-- There is one such text only. -/
theorem trim_eq_iff {v w : Text} : trim v = w ↔ Trimmed v w := by
  refine ⟨fun h ↦ h ▸ trimmed_trim v, ?_⟩
  rintro ⟨⟨before, after, rfl, hbefore, hafter⟩, hhead, hlast⟩
  rw [trim, List.dropWhile_append_of_pos hbefore]
  cases w with
  | nil =>
    rw [List.nil_append, ← List.append_nil after, List.dropWhile_append_of_pos hafter]
    rfl
  | cons c w =>
    have hc : ¬ isSpace c = true := by simp [hhead c rfl]
    rw [List.cons_append, List.dropWhile_cons_of_neg hc, ← List.cons_append,
      dropTrailing_append_of_forall _ hafter, dropTrailing_eq_self hlast]

end LoxTokens.Text
