import LoxTokens.Text.Basic

/-!
# Lines of a text

A line ends at a line feed and at nothing else.  More generally, `Text.fields` cuts a text at each
occurrence of a separator.

* `Text.newlines t` counts the line feeds of `t`.  The scanner counts them as it reads on, one by
  one (`_advance`).
* `Text.lines t` is the list of its lines; there is always one more of them than line feeds
  (`length_lines`).  An `ErrorCollector` cuts its source into these when it is made, and not as it
  goes.
* `Text.quotedLine? ls n` looks a line up by its number, counted from 1; the number may be any
  integer.
* `Text.unifyBreaks t` writes every line break, be it CR LF, a lone CR or LF, as a line feed.  This
  is what reading in text mode does, so that no carriage return reaches a scan of the command.  One
  that is handed to a `Scanner` otherwise is a blank, and is dropped at the end of a quoted line.
-/

set_option autoImplicit false

namespace LoxTokens.Text

/-- The number of line feeds. -/
def newlines (t : Text) : Nat := t.count '\n'

@[simp] theorem newlines_nil : newlines [] = 0 := rfl

@[simp] theorem newlines_append (s t : Text) : newlines (s ++ t) = newlines s + newlines t :=
  List.count_append

theorem newlines_feed (t : Text) : newlines ('\n' :: t) = newlines t + 1 := List.count_cons_self

theorem newlines_cons_of_ne {c : Char} (h : c ≠ '\n') (t : Text) :
    newlines (c :: t) = newlines t :=
  List.count_cons_of_ne h

/-- The pieces of a text between the separators in it. -/
def fields (separator : Char) : Text → List Text
  | [] => [[]]
  | c :: rest =>
    if c = separator then [] :: fields separator rest
    else (fields separator rest).modifyHead (c :: ·)

/-- There is one piece more than there are separators. -/
theorem length_fields (separator : Char) (t : Text) :
    (fields separator t).length = t.count separator + 1 := by
  induction t with
  | nil => rfl
  | cons c rest ih =>
    by_cases h : c = separator <;> simp [fields, h, List.length_modifyHead, ih]

theorem fields_ne_nil (separator : Char) (t : Text) : fields separator t ≠ [] := by
  rw [← List.length_pos_iff, length_fields]
  exact Nat.succ_pos _

/-- At a separator the pieces can be taken apart. -/
theorem fields_append (separator : Char) (s t : Text) :
    fields separator (s ++ separator :: t) = fields separator s ++ fields separator t := by
  induction s with
  | nil => simp [fields]
  | cons c s ih =>
    rw [List.cons_append, fields, fields, ih]
    split
    · rfl
    · obtain ⟨l, ls, hls⟩ := List.exists_cons_of_ne_nil (fields_ne_nil separator s)
      simp [hls]

/-- There is no separator in a piece. -/
theorem not_mem_of_mem_fields {separator : Char} {l t : Text} (h : l ∈ fields separator t) :
    separator ∉ l := by
  induction t generalizing l with
  | nil =>
    rw [List.mem_singleton.1 h]
    exact List.not_mem_nil
  | cons c t ih =>
    obtain ⟨first, ls, hls⟩ := List.exists_cons_of_ne_nil (fields_ne_nil separator t)
    rw [hls] at ih
    rw [fields, hls] at h
    split at h
    · rcases List.mem_cons.1 h with rfl | h
      · exact List.not_mem_nil
      · exact ih h
    · next hc =>
      rcases List.mem_cons.1 h with rfl | h
      · exact List.not_mem_cons_of_ne_of_not_mem (Ne.symm hc) (ih List.mem_cons_self)
      · exact ih (List.mem_cons_of_mem first h)

/-- A text without a separator is one piece. -/
theorem fields_of_not_mem {separator : Char} {t : Text} (h : separator ∉ t) :
    fields separator t = [t] := by
  induction t with
  | nil => rfl
  | cons c t ih =>
    rw [List.mem_cons, not_or] at h
    rw [fields, if_neg (Ne.symm h.1), ih h.2]
    rfl

/-- Pieces that are put together again are found. -/
theorem fields_intercalate {separator : Char} {ls : List Text} (hne : ls ≠ [])
    (h : ∀ l ∈ ls, separator ∉ l) : fields separator ([separator].intercalate ls) = ls := by
  induction ls with
  | nil => exact absurd rfl hne
  | cons l ls ih =>
    obtain ⟨hl, hls⟩ := List.forall_mem_cons.1 h
    cases ls with
    | nil => rw [List.intercalate_singleton, fields_of_not_mem hl]
    | cons m ms =>
      rw [List.intercalate_cons_cons, List.append_assoc, List.singleton_append, fields_append,
        fields_of_not_mem hl, ih (List.cons_ne_nil m ms) hls, List.singleton_append]

/-- The lines of a text: the pieces between its line feeds. -/
def lines (t : Text) : List Text := fields '\n' t

/-- There is one line more than there are line feeds. -/
theorem length_lines (t : Text) : (lines t).length = newlines t + 1 := length_fields '\n' t

/-- At a line feed the lines can be taken apart. -/
theorem lines_append_feed (s t : Text) : lines (s ++ '\n' :: t) = lines s ++ lines t :=
  fields_append '\n' s t

/-- A text without a line feed is one line. -/
theorem lines_of_not_mem {t : Text} (h : '\n' ∉ t) : lines t = [t] := fields_of_not_mem h

/-- The line of number `n` among `ls`, counted from 1, without the carriage returns at its end.
There is none for a number below 1 or above the number of lines. -/
def quotedLine? (ls : List Text) (n : Int) : Option Text :=
  if n < 1 then none else ls[(n - 1).toNat]?.map (dropTrailing (· = '\r'))

theorem quotedLine?_eq_none_iff {ls : List Text} {n : Int} :
    quotedLine? ls n = none ↔ n < 1 ∨ ls.length < n := by
  rw [quotedLine?]
  split
  · next h => simp [h]
  · next h =>
    rw [Option.map_eq_none_iff, List.getElem?_eq_none_iff]
    omega

theorem quotedLine?_succ (ls : List Text) (i : Nat) :
    quotedLine? ls (i + 1) = ls[i]?.map (dropTrailing (· = '\r')) := by
  rw [quotedLine?, if_neg (by omega), Int.add_sub_cancel, Int.toNat_natCast]

/-- The text with every line break written as a line feed. -/
def unifyBreaks : Text → Text
  | [] => []
  | '\r' :: '\n' :: rest => '\n' :: unifyBreaks rest
  | c :: rest => (if c = '\r' then '\n' else c) :: unifyBreaks rest

end LoxTokens.Text
