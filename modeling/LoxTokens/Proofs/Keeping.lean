import LoxTokens.Findings.Archive
import Mathlib.Data.List.Induction

/-!
# What no step of an archive spoils

The list that an archive fills is emptied where it lies, and the diagnostics that it names may be
causes of failures that it names in turn.  This file says what of all that was left in an archive a
later step can change: the one list that is filled, and nothing else.

* `Archive.Sound a` — places that are named are there, and the causes of a failure lie before it,
  unless it knows the list that is filled.
* `Archive.Extends a b` — `b` is sound, has all diagnostics of `a` where these have them, and all
  lists of `a` but the one that is filled.  There are only two ways in which an archive changes, it
  grows (`Archive.extends_grow`) or its list is filled anew (`Archive.extends_refill`), and both
  lead to an extension.  So one step does (`Archive.extends_step`), and many steps do
  (`Archive.extends_after`).
* `Archive.Apart a` — no failure knows the list that is filled.  This is not part of being sound,
  since a step may give the list away: an `ErrorCollector` cannot keep its `errors` to itself.  But
  only the one step that does so spoils it (`Archive.exists_entries_step`).
* `Archive.contents_isPrefix` — in an extension of an archive that is apart, every diagnostic reads
  as before, with all its causes and their causes.

That the archive is apart cannot be dropped from the last one: a failure over the list that is
filled has lost its causes when the list is emptied.
-/

set_option autoImplicit false

namespace LoxTokens

/-!
## Reading what lies at the places

A diagnostic is read off its entry and off what was read of the entries before it.  So an entry that
comes later makes no difference, and a list makes one only to the failures that know it.
-/

namespace Entry

variable {lists lists' : List (List Nat)} {es es' : List Entry}

theorem readAll_concat (lists : List (List Nat)) (es : List Entry) (e : Entry) :
    readAll lists (es ++ [e]) = readAll lists es ++ [e.read lists (readAll lists es)] := by
  rw [readAll, List.foldl_append]
  rfl

@[simp] theorem length_readAll (lists : List (List Nat)) (es : List Entry) :
    (readAll lists es).length = es.length := by
  induction es using List.reverseRecOn with
  | nil => rfl
  | append_singleton es e ih =>
    rw [readAll_concat, List.length_append, List.length_append, ih]
    rfl

/-- The user reads the same of a diagnostic and of the entry for it. -/
theorem map_text_readAll (lists : List (List Nat)) (es : List Entry) :
    (readAll lists es).map Diagnostic.text = es.map text := by
  induction es using List.reverseRecOn with
  | nil => rfl
  | append_singleton es e ih =>
    have htext : (e.read lists (readAll lists es)).text = e.text := by
      cases e <;> rfl
    rw [readAll_concat, List.map_append, List.map_append, ih, List.map_singleton, htext]
    rfl

/-- Later entries do not change what is read of earlier ones. -/
theorem readAll_isPrefix (h : es <+: es') : readAll lists es <+: readAll lists es' := by
  obtain ⟨more, rfl⟩ := h
  induction more using List.reverseRecOn with
  | nil => simp
  | append_singleton more e ih =>
    rw [← List.append_assoc, readAll_concat]
    exact ih.trans (List.prefix_append _ _)

/-- An entry is read with what is read of the entries before it. -/
theorem getElem?_readAll (lists : List (List Nat)) (es : List Entry) (p : Nat) :
    (readAll lists es)[p]? = es[p]?.map (·.read lists ((readAll lists es).take p)) := by
  induction es using List.reverseRecOn with
  | nil => rfl
  | append_singleton es e ih =>
    have hlength : (readAll lists es).length = es.length := length_readAll lists es
    rw [readAll_concat]
    rcases Nat.lt_trichotomy p es.length with hp | rfl | hp
    · rw [List.getElem?_append_left (hlength ▸ hp), List.getElem?_append_left hp, ih,
        List.take_append_of_le_length (hlength ▸ Nat.le_of_lt hp)]
    · rw [← hlength, List.getElem?_concat_length, hlength, List.getElem?_concat_length,
        ← hlength, List.take_left]
      rfl
    · rw [List.getElem?_eq_none (by simp; omega), List.getElem?_eq_none (by simp; omega)]
      rfl

/-- Only the lists of causes are read. -/
theorem readAll_congr
    (h : ∀ message causes, .failure message causes ∈ es → lists'[causes]? = lists[causes]?) :
    readAll lists' es = readAll lists es := by
  induction es using List.reverseRecOn with
  | nil => rfl
  | append_singleton es e ih =>
    have hes := ih fun message causes hmem ↦ h message causes (List.mem_append_left _ hmem)
    have he : e.read lists' (readAll lists es) = e.read lists (readAll lists es) := by
      cases e with
      | failure message causes => rw [read, read, h message causes (by simp)]
      | _ => rfl
    rw [readAll_concat, readAll_concat, hes, he]

end Entry

namespace Archive

variable {a b c : Archive} {e : Entry} {i l : Nat} {message : Text} {places : List Nat}

@[simp] theorem length_contents (a : Archive) : a.contents.length = a.entries.length :=
  Entry.length_readAll a.lists a.entries

/-- There is a diagnostic at every place. -/
theorem exists_contents {p : Nat} (h : a.entries[p]? = some e) : ∃ d, a.contents[p]? = some d := by
  rw [contents, Entry.getElem?_readAll, h]
  exact ⟨_, rfl⟩

/-!
## Sound archives and their extensions

Being sound is what every archive has in common that steps lead to, from a new one.  Being an
extension is what all the steps have in common.  Each is a structure with named fields, so that a
later argument can ask for the one that it needs.
-/

/-- Places that are named are there, and the causes of a failure lie before it, unless it knows the
list that is filled. -/
structure Sound (a : Archive) : Prop where
  /-- The list that is filled is there. -/
  own_lt : a.own < a.lists.length
  /-- Lists name diagnostics that are there. -/
  lt_of_mem : ∀ is ∈ a.lists, ∀ i ∈ is, i < a.entries.length
  /-- Failures know lists that are there. -/
  known : ∀ message l, .failure message l ∈ a.entries → l < a.lists.length
  /-- Causes lie before the failure. -/
  earlier : ∀ (p : Nat) message l, a.entries[p]? = some (.failure message l) → l ≠ a.own →
    ∀ i ∈ a.listed l, i < p

/-- One archive comes out of another, and what was left in this is as it was, but for the list that
is filled.  This can be put one behind the other (`Extends.trans`), and so it is what one step and
many steps have in common. -/
structure Extends (a b : Archive) : Prop where
  sound : b.Sound
  file : b.file = a.file
  source : b.source = a.source
  own : b.own = a.own
  length_le : a.lists.length ≤ b.lists.length
  entries : a.entries <+: b.entries
  lists : ∀ l, l < a.lists.length → l ≠ a.own → b.lists[l]? = a.lists[l]?

theorem Sound.extends_self (h : a.Sound) : a.Extends a :=
  ⟨h, rfl, rfl, rfl, Nat.le_refl _, List.prefix_rfl, fun _ _ _ ↦ rfl⟩

theorem Extends.trans (h : a.Extends b) (h' : b.Extends c) : a.Extends c where
  sound := h'.sound
  file := h'.file.trans h.file
  source := h'.source.trans h.source
  own := h'.own.trans h.own
  length_le := Nat.le_trans h.length_le h'.length_le
  entries := h.entries.trans h'.entries
  lists l hl hown := (h'.lists l (Nat.lt_of_lt_of_le hl h.length_le) (h.own ▸ hown)).trans
    (h.lists l hl hown)

theorem exists_of_mem_listed (h : i ∈ a.listed l) : ∃ is, a.lists[l]? = some is ∧ i ∈ is := by
  rw [listed] at h
  cases hl : a.lists[l]? with
  | none => simp [hl] at h
  | some is => exact ⟨is, rfl, by simpa [hl] using h⟩

theorem Sound.lt_of_mem_listed (ha : a.Sound) (h : i ∈ a.listed l) : i < a.entries.length := by
  obtain ⟨is, his, hi⟩ := exists_of_mem_listed h
  exact ha.lt_of_mem is (List.mem_of_getElem? his) i hi

/-- What was taken up is there. -/
theorem Sound.lt_of_mem_held (ha : a.Sound) (h : i ∈ a.held) : i < a.entries.length :=
  ha.lt_of_mem_listed h

theorem sound_ofSource (source : Option Text) (file : Text) : (ofSource source file).Sound where
  own_lt := Nat.zero_lt_one
  lt_of_mem is his i hi := by
    obtain rfl : is = [] := List.mem_singleton.1 his
    exact absurd hi List.not_mem_nil
  known _ _ hl := absurd hl List.not_mem_nil
  earlier _ _ _ hp := absurd (List.mem_of_getElem? hp) List.not_mem_nil

/-!
## What one step changes

First what each operation does to the entries, then that each leads to an extension.  `clear` is the
one operation that takes something away, and it does so in the list that is filled.
-/

theorem entries_add (a : Archive) (i : Nat) : (a.add i).entries = a.entries := by
  rw [add]
  split <;> rfl

theorem entries_report (a : Archive) (line : Int) (message : Text) :
    (a.report line message).entries =
      a.entries ++ [.problem (a.findings.problem line message)] := by
  rw [report, entries_add]
  rfl

theorem exists_entries_addScan (a : Archive) (s : Scan) :
    ∃ ps : List Problem, (a.addScan s).entries = a.entries ++ ps.map .problem := by
  obtain ⟨ts, rs⟩ := s
  rw [addScan]
  dsimp only
  induction rs generalizing a with
  | nil => exact ⟨[], (List.append_nil _).symm⟩
  | cons r rs ih =>
    obtain ⟨ps, hps⟩ := ih (a.report r.line r.fault.message)
    exact ⟨_ :: ps, by rw [List.foldl_cons, hps, entries_report, List.append_assoc]; rfl⟩

theorem held_clear (a : Archive) : a.clear.held = [] := by
  rw [held, listed, clear]
  by_cases h : a.own < a.lists.length <;> simp [h]

/-- **What a step puts.**  A failure among it has a new list, unless the step is the one that has it
share a list. -/
theorem exists_entries_step (a : Archive) (x : Step) :
    ∃ es, (a.step x).entries = a.entries ++ es ∧ ∀ message l, .failure message l ∈ es →
      l = a.lists.length ∨ x = .failure message (.shared l) := by
  have hnone : ∃ es, a.entries = a.entries ++ es ∧ ∀ message l, .failure message l ∈ es →
      l = a.lists.length ∨ x = .failure message (.shared l) :=
    ⟨[], (List.append_nil _).symm, fun _ _ h ↦ absurd h List.not_mem_nil⟩
  have hnew (text : Text) (places : List Nat) :
      ∃ es, (a.putFailure text places).entries = a.entries ++ es ∧
        ∀ message l, .failure message l ∈ es →
          l = a.lists.length ∨ x = .failure message (.shared l) := by
    refine ⟨_, rfl, fun message l h ↦ .inl ?_⟩
    exact (Entry.failure.inj (List.mem_singleton.1 h)).2
  cases x with
  | report line message =>
    exact ⟨_, entries_report a line message, by simp⟩
  | scan o t =>
    obtain ⟨ps, hps⟩ := exists_entries_addScan a (.ofText o t)
    exact ⟨_, hps, fun _ _ h ↦ by simp at h⟩
  | note text => exact ⟨_, rfl, by simp⟩
  | problem p => exact ⟨_, rfl, by simp⟩
  | failure text causes =>
    cases causes with
    | fresh places => exact hnew text _
    | shared list =>
      rw [step, putFailureOver]
      -- over an empty list a new one is made, as for causes that are given
      split
      · exact hnew text []
      · refine ⟨_, rfl, fun message l h ↦ .inr ?_⟩
        obtain ⟨rfl, rfl⟩ := Entry.failure.inj (List.mem_singleton.1 h)
        rfl
  | add i =>
    rw [step, entries_add]
    exact hnone
  | summary => exact hnone
  | raise =>
    rw [step, raise?]
    split
    · exact hnone
    · exact hnew a.summary a.held
  | clear => exact hnone

section

variable (ha : a.Sound)

include ha

/-- A sound archive stays sound if it gets one diagnostic more, and lists of diagnostics that there
are.  If the diagnostic is a failure, it may know any list. -/
theorem sound_grow {ls : List (List Nat)} (hls : ∀ is ∈ ls, ∀ i ∈ is, i < a.entries.length)
    (he : ∀ message l, e = .failure message l → l < (a.lists ++ ls).length) :
    Sound { a.put e with lists := a.lists ++ ls } := by
  have hmem : ∀ is ∈ a.lists ++ ls, ∀ i ∈ is, i < a.entries.length := fun is h ↦
    (List.mem_append.1 h).elim (ha.lt_of_mem is) (hls is)
  exact
    { own_lt := by
        rw [List.length_append]
        exact Nat.lt_add_right _ ha.own_lt
      lt_of_mem := fun is his i hi ↦ by
        have hlt := hmem is his i hi
        rw [put, List.length_append]
        exact Nat.lt_add_right _ hlt
      known := fun message l hl ↦ by
        rw [put, List.mem_append, List.mem_singleton] at hl
        rcases hl with hl | hl
        · have hlt := ha.known message l hl
          rw [List.length_append]
          exact Nat.lt_add_right _ hlt
        · exact he message l hl.symm
      earlier := fun p message l hp hown i hi ↦ by
        obtain ⟨is, his, hi⟩ := exists_of_mem_listed hi
        rcases Nat.lt_or_ge p a.entries.length with hlt | hge
        · -- the failure was there before, and so was its list
          rw [put, List.getElem?_append_left hlt] at hp
          have hknown := ha.known message l (List.mem_of_getElem? hp)
          rw [List.getElem?_append_left hknown] at his
          exact ha.earlier p message l hp hown i (by rw [listed, his]; exact hi)
        · exact Nat.lt_of_lt_of_le (hmem is (List.mem_of_getElem? his) i hi) hge }

/-- An archive may grow by one diagnostic and by lists of diagnostics that there are. -/
theorem extends_grow {ls : List (List Nat)} (hls : ∀ is ∈ ls, ∀ i ∈ is, i < a.entries.length)
    (he : ∀ message l, e = .failure message l → l < (a.lists ++ ls).length) :
    a.Extends { a.put e with lists := a.lists ++ ls } where
  sound := sound_grow ha hls he
  file := rfl
  source := rfl
  own := rfl
  length_le := by
    rw [List.length_append]
    exact Nat.le_add_right _ _
  entries := List.prefix_append _ _
  lists l hl _ := List.getElem?_append_left hl

/-- A sound archive stays sound if the list that is filled names other diagnostics that there
are. -/
theorem sound_refill {lists : List (List Nat)} (hlength : lists.length = a.lists.length)
    (hlists : ∀ l, l ≠ a.own → lists[l]? = a.lists[l]?)
    (hheld : ∀ i ∈ held { a with lists := lists }, i < a.entries.length) :
    Sound { a with lists := lists } where
  own_lt := by
    rw [hlength]
    exact ha.own_lt
  lt_of_mem is his i hi := by
    obtain ⟨l, hl⟩ := List.mem_iff_getElem?.1 his
    by_cases hown : l = a.own
    · refine hheld i ?_
      rw [held, listed, ← hown, show ({ a with lists := lists } : Archive).lists[l]? = some is
        from hl]
      exact hi
    · rw [hlists l hown] at hl
      exact ha.lt_of_mem is (List.mem_of_getElem? hl) i hi
  known message l hl := by
    rw [hlength]
    exact ha.known message l hl
  earlier p message l hp hown i hi := by
    rw [listed, hlists l hown] at hi
    exact ha.earlier p message l hp hown i hi

/-- The list that is filled may be changed. -/
theorem extends_refill {lists : List (List Nat)} (hlength : lists.length = a.lists.length)
    (hlists : ∀ l, l ≠ a.own → lists[l]? = a.lists[l]?)
    (hheld : ∀ i ∈ held { a with lists := lists }, i < a.entries.length) :
    a.Extends { a with lists := lists } where
  sound := sound_refill ha hlength hlists hheld
  file := rfl
  source := rfl
  own := rfl
  length_le := Nat.le_of_eq hlength.symm
  entries := List.prefix_rfl
  lists l _ hown := hlists l hown

theorem extends_put (he : ∀ message l, e = .failure message l → l < a.lists.length) :
    a.Extends (a.put e) := by
  have hgrow : a.Extends { a.put e with lists := a.lists ++ [] } :=
    extends_grow ha (fun _ h ↦ absurd h List.not_mem_nil) (by rwa [List.append_nil])
  rwa [List.append_nil] at hgrow

theorem extends_putFailure (h : ∀ i ∈ places, i < a.entries.length) :
    a.Extends (a.putFailure message places) := by
  refine extends_grow ha (fun is his ↦ ?_) fun _ l hl ↦ ?_
  · obtain rfl := List.mem_singleton.1 his
    exact h
  · obtain ⟨-, rfl⟩ := Entry.failure.inj hl
    rw [List.length_append]
    exact Nat.lt_add_one _

theorem extends_putFailureOver (list : Nat) : a.Extends (a.putFailureOver message list) := by
  rw [putFailureOver]
  split
  · exact extends_putFailure ha fun _ h ↦ absurd h List.not_mem_nil
  · next hne =>
    refine extends_put ha fun _ l hl ↦ ?_
    obtain ⟨-, rfl⟩ := Entry.failure.inj hl
    obtain ⟨i, hi⟩ := List.exists_mem_of_ne_nil _ hne
    obtain ⟨is, his, -⟩ := exists_of_mem_listed hi
    exact (List.getElem?_eq_some_iff.1 his).1

theorem held_add (hi : i < a.entries.length) : (a.add i).held = a.held ++ [i] := by
  have hown := ha.own_lt
  rw [add, if_pos hi, held, held, listed, listed]
  simp [hown]

theorem extends_add : a.Extends (a.add i) := by
  by_cases hi : i < a.entries.length
  · have hheld := held_add ha hi
    rw [add, if_pos hi] at hheld ⊢
    refine extends_refill ha (List.length_modify ..)
      (fun l hl ↦ List.getElem?_modify_ne _ _ hl.symm) fun j hj ↦ ?_
    rw [hheld, List.mem_append, List.mem_singleton] at hj
    rcases hj with hj | rfl
    · exact ha.lt_of_mem_held hj
    · exact hi
  · rw [add, if_neg hi]
    exact ha.extends_self

theorem extends_clear : a.Extends a.clear := by
  have hheld : ∀ i ∈ a.clear.held, i < a.entries.length := by
    rw [held_clear]
    exact fun i hi ↦ absurd hi List.not_mem_nil
  exact extends_refill ha (List.length_set ..) (fun l hl ↦ List.getElem?_set_ne hl.symm) hheld

theorem extends_report (line : Int) (message : Text) : a.Extends (a.report line message) :=
  have hput : a.Extends (a.put (.problem (a.findings.problem line message))) :=
    extends_put ha (by simp)
  hput.trans (extends_add hput.sound)

theorem extends_addScan (s : Scan) : a.Extends (a.addScan s) := by
  obtain ⟨ts, rs⟩ := s
  rw [addScan]
  dsimp only
  induction rs generalizing a with
  | nil => exact ha.extends_self
  | cons r rs ih =>
    have hreport := extends_report ha r.line r.fault.message
    exact hreport.trans (ih hreport.sound)

/-- **One step leaves everything as it was**, apart from the list that is filled. -/
theorem extends_step (x : Step) : a.Extends (a.step x) := by
  cases x with
  | report line message => exact extends_report ha line message
  | scan o t => exact extends_addScan ha _
  | note text => exact extends_put ha (by simp)
  | problem p => exact extends_put ha (by simp)
  | failure message causes =>
    cases causes with
    | fresh places =>
      refine extends_putFailure ha fun i hi ↦ ?_
      simpa using (List.mem_filter.1 hi).2
    | shared list => exact extends_putFailureOver ha list
  | add i => exact extends_add ha
  | summary => exact ha.extends_self
  | raise =>
    rw [step, raise?]
    split
    · exact ha.extends_self
    · exact extends_putFailure ha fun _ ↦ ha.lt_of_mem_held
  | clear => exact extends_clear ha

/-- **Many steps do so too.** -/
theorem extends_after (steps : List Step) : a.Extends (a.after steps) := by
  induction steps generalizing a with
  | nil => exact ha.extends_self
  | cons x steps ih =>
    have hstep := extends_step ha x
    exact hstep.trans (ih hstep.sound)

/-!
## Who knows the list that is filled

A failure that `raise_if_errors` makes has a copy, and one that is made elsewhere has the list that
it was given.  So the list becomes known only if somebody hands it over, and it is then known to one
failure more for good.
-/

/-- A failure comes to know the list that is filled only by a step that gives it this list. -/
theorem mem_entries_step {x : Step} (h : .failure message a.own ∈ (a.step x).entries) :
    .failure message a.own ∈ a.entries ∨ x = .failure message (.shared a.own) := by
  obtain ⟨es, hes, hnew⟩ := exists_entries_step a x
  rw [hes, List.mem_append] at h
  refine h.imp_right fun h ↦ (hnew message a.own h).resolve_left ?_
  exact Nat.ne_of_lt ha.own_lt

/-- A failure that knows the list has known it from the beginning, or was made over it by one of the
steps. -/
theorem mem_entries_after {steps : List Step}
    (h : .failure message a.own ∈ (a.after steps).entries) :
    .failure message a.own ∈ a.entries ∨ .failure message (.shared a.own) ∈ steps := by
  induction steps generalizing a with
  | nil => exact .inl h
  | cons x steps ih =>
    have hstep := extends_step ha x
    have hrest := ih hstep.sound (by rw [hstep.own]; exact h)
    rw [hstep.own] at hrest
    rcases hrest with hrest | hrest
    · refine (mem_entries_step ha hrest).imp_right ?_
      rintro rfl
      exact List.mem_cons_self
    · exact .inr (List.mem_cons_of_mem x hrest)

end

/-- So its causes grow when something is taken up, itself included, and are gone when all is
forgotten. -/
example : let a := (ofSource none []).after [.report 1 ['x'], .failure ['m'] (.shared 0)]
    a.entries[1]? = some (.failure ['m'] a.own) ∧ a.listed a.own = [0] ∧
      (a.after [.add 1]).listed a.own = [0, 1] ∧ (a.after [.add 1, .clear]).listed a.own = [] := by
  decide

/-- No failure knows the list that is filled. -/
def Apart (a : Archive) : Prop := ∀ message, .failure message a.own ∉ a.entries

theorem apart_ofSource (source : Option Text) (file : Text) : (ofSource source file).Apart :=
  fun _ ↦ List.not_mem_nil

theorem apart_step (ha : a.Sound) (hapart : a.Apart) {x : Step}
    (hx : ∀ message, x ≠ .failure message (.shared a.own)) : (a.step x).Apart := by
  intro message h
  rw [(extends_step ha x).own] at h
  exact (mem_entries_step ha h).elim (hapart message) (hx message)

/-- If no step shares the list, no failure ever knows it. -/
theorem apart_after (ha : a.Sound) (hapart : a.Apart) {steps : List Step}
    (h : ∀ message, .failure message (.shared a.own) ∉ steps) : (a.after steps).Apart := by
  intro message hmem
  rw [(extends_after ha steps).own] at hmem
  exact (mem_entries_after ha hmem).elim (hapart message) (h message)

/-!
## What is read

If nobody else knows the list that is filled, a later archive has all that the reading of a
diagnostic depends on, and so the reading comes out the same.
-/

section

variable (ha : a.Sound) (hapart : a.Apart)

include ha hapart

/-- The lists of an extension serve as well to read what was there. -/
theorem readAll_of_extends (h : a.Extends b) : Entry.readAll b.lists a.entries = a.contents :=
  Entry.readAll_congr fun message l hl ↦
    h.lists l (ha.known message l hl) fun hown ↦ hapart message (hown ▸ hl)

/-- **In an extension every diagnostic reads as before**, with all its causes.  The induction is on
the entries, inside of `Entry.readAll_congr`: what a failure is read as depends on its list and on
what lies before it. -/
theorem contents_isPrefix (h : a.Extends b) : a.contents <+: b.contents := by
  rw [← readAll_of_extends ha hapart h]
  exact Entry.readAll_isPrefix h.entries

theorem getElem?_contents_of_extends {d : Diagnostic} (h : a.Extends b)
    (hi : a.contents[i]? = some d) : b.contents[i]? = some d := by
  obtain ⟨hlt, rfl⟩ := List.getElem?_eq_some_iff.1 hi
  exact List.prefix_iff_getElem?.1 (contents_isPrefix ha hapart h) i hlt

end

end Archive

end LoxTokens
