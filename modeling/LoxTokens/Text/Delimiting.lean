import LoxTokens.Text.Basic

/-!
# Writings that tell where they end

Things are often written one behind the other with nothing in between that is kept for this
purpose.  Whether they can be told apart again depends on what is written for one of them.

`Text.Delimits f g P` says that it can be told how far the writing `f` of a thing goes and what the
part `g` of the thing is, if it is one of the things `P`.  Then a list of such things is told from
their writings (`Text.Delimits.map_eq`), up to a remainder with which none of them is written.

It is asked of one thing only, and with anything behind it.  This is weaker than to say that no
writing is the beginning of another: things that have the same part `g` may be written alike.  The
tokens of a plain dump, the diagnostics of a summary and the fields of a record are all told apart
in this way.
-/

set_option autoImplicit false

namespace LoxTokens.Text

/-- At the first occurrence of a character a text is cut in one way only. -/
theorem append_cons_inj {c : Char} {s s' t t' : Text} (hs : c ∉ s) (hs' : c ∉ s') :
    s ++ c :: t = s' ++ c :: t' ↔ s = s' ∧ t = t' := by
  induction s generalizing s' with
  | nil =>
    cases s' with
    | nil => simp
    | cons d s' => simp [(List.ne_of_not_mem_cons hs')]
  | cons d s ih =>
    cases s' with
    | nil => simp [(List.ne_of_not_mem_cons hs).symm]
    | cons d' s' =>
      rw [List.cons_append, List.cons_append, List.cons.injEq, List.cons.injEq, and_assoc,
        ih (List.not_mem_of_not_mem_cons hs) (List.not_mem_of_not_mem_cons hs')]

variable {α β : Type} {f : α → Text} {g : α → β} {P : α → Prop}

/-- Two things have the same part `g` and are followed by the same, if their writings and what
follows look the same. -/
def Delimits (f : α → Text) (g : α → β) (P : α → Prop) : Prop :=
  ∀ ⦃a b : α⦄, P a → P b → ∀ ⦃s t : Text⦄, f a ++ s = f b ++ t → g a = g b ∧ s = t

/-- **A list is told from what is written for it**, if the remainder does not begin like one more
thing. -/
theorem Delimits.map_eq (h : Delimits f g P) {xs ys : List α} (hxs : ∀ x ∈ xs, P x)
    (hys : ∀ y ∈ ys, P y) {s t : Text} (hs : ∀ a, P a → ¬ f a <+: s) (ht : ∀ a, P a → ¬ f a <+: t)
    (heq : xs.flatMap f ++ s = ys.flatMap f ++ t) : xs.map g = ys.map g ∧ s = t := by
  induction xs generalizing ys with
  | nil =>
    cases ys with
    | nil => exact ⟨rfl, heq⟩
    | cons y ys =>
      refine absurd ⟨ys.flatMap f ++ t, ?_⟩ (hs y (hys y List.mem_cons_self))
      rw [← List.append_assoc, ← List.flatMap_cons, ← heq]
      rfl
  | cons x xs ih =>
    obtain ⟨hx, hxs⟩ := List.forall_mem_cons.1 hxs
    cases ys with
    | nil =>
      refine absurd ⟨xs.flatMap f ++ s, ?_⟩ (ht x hx)
      rw [← List.append_assoc, ← List.flatMap_cons, heq]
      rfl
    | cons y ys =>
      obtain ⟨hy, hys⟩ := List.forall_mem_cons.1 hys
      rw [List.flatMap_cons, List.flatMap_cons, List.append_assoc, List.append_assoc] at heq
      -- it is told where the first writings end, and there the remainders agree again
      obtain ⟨hg, heq⟩ := h hx hy heq
      obtain ⟨hmap, hend⟩ := ih hxs hys heq
      exact ⟨by rw [List.map_cons, List.map_cons, hg, hmap], hend⟩

end LoxTokens.Text
