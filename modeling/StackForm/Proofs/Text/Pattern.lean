import Mathlib.Data.List.Basic
import Mathlib.Tactic.Lemma
import StackForm.Text.Pattern

/-!
# What patterns describe

A pattern is found in a text if and only if the text has a stretch that the pattern describes. What
it describes depends on what stands around the stretch, for the two ends of a text are described
too; a pattern that begins and ends with the text describes the whole of it or nothing.
-/

namespace StackForm.Text

/-! ### Moving through a text -/

/-- The second place lies behind the piece that begins at the first. -/
structure Place.Spans (place : Place) (piece : List Char) (place' : Place) : Prop where
  after : place.after = piece ++ place'.after
  before : place'.before = piece.reverse ++ place.before

namespace Place.Spans

lemma refl (place : Place) : place.Spans [] place :=
  ⟨rfl, rfl⟩

lemma cons (c : Char) (before after : List Char) :
    Place.Spans ⟨before, c :: after⟩ [c] ⟨c :: before, after⟩ :=
  ⟨rfl, rfl⟩

lemma append {place place' place'' : Place} {piece piece' : List Char}
    (h : place.Spans piece place') (h' : place'.Spans piece' place'') :
    place.Spans (piece ++ piece') place'' := by
  constructor
  · rw [h.after, h'.after, List.append_assoc]
  · rw [h'.before, h.before, List.reverse_append, List.append_assoc]

lemma eq_of_nil {place place' : Place} (h : place.Spans [] place') : place' = place := by
  cases place
  cases place'
  obtain ⟨hafter, hbefore⟩ := h
  simp only [List.nil_append, List.reverse_nil] at hafter hbefore
  rw [hafter, hbefore]

lemma exists_of_append {place place'' : Place} {piece piece' : List Char}
    (h : place.Spans (piece ++ piece') place'') :
    ∃ place', place.Spans piece place' ∧ place'.Spans piece' place'' := by
  refine ⟨⟨piece.reverse ++ place.before, piece' ++ place''.after⟩, ⟨?_, rfl⟩, ⟨rfl, ?_⟩⟩
  · rw [h.after, List.append_assoc]
  · rw [h.before, List.reverse_append, List.append_assoc]

/-- A place in front of a character is passed, or the place behind the character is. -/
lemma cons_iff {c : Char} {before after piece : List Char} {place' : Place} :
    Place.Spans ⟨before, c :: after⟩ (c :: piece) place' ↔
      Place.Spans ⟨c :: before, after⟩ piece place' := by
  constructor
  · intro h
    refine ⟨(List.cons.inj h.after).2, ?_⟩
    rw [h.before, List.reverse_cons, List.append_assoc]
    rfl
  · exact (cons c before after).append

end Place.Spans

namespace Pattern

/-! ### Stretches -/

/-- The pattern describes the piece where it stands between the other two texts. -/
inductive Describes : Pattern → (before piece after : List Char) → Prop
  | start {after : List Char} : Describes start [] [] after
  | finish {before : List Char} : Describes finish before [] []
  | chars {cs before after : List Char} : Describes (chars cs) before cs after
  | run {p : Char → Bool} {before piece after : List Char} (hne : piece ≠ [])
    (hall : ∀ c ∈ piece, p c = true) : Describes (run p) before piece after
  | seq {first second : Pattern} {before left right after : List Char}
    (hleft : Describes first before left (right ++ after))
    (hright : Describes second (before ++ left) right after) :
    Describes (seq first second) before (left ++ right) after

section Inversion

variable {first second : Pattern} {cs before piece after : List Char} {p : Char → Bool}

lemma describes_start_iff :
    Pattern.start.Describes before piece after ↔ before = [] ∧ piece = [] := by
  constructor
  · intro h
    cases h
    exact ⟨rfl, rfl⟩
  · rintro ⟨rfl, rfl⟩
    exact .start

lemma describes_finish_iff :
    Pattern.finish.Describes before piece after ↔ piece = [] ∧ after = [] := by
  constructor
  · intro h
    cases h
    exact ⟨rfl, rfl⟩
  · rintro ⟨rfl, rfl⟩
    exact .finish

lemma describes_chars_iff : (Pattern.chars cs).Describes before piece after ↔ piece = cs := by
  constructor
  · intro h
    cases h
    rfl
  · rintro rfl
    exact .chars

lemma describes_run_iff :
    (Pattern.run p).Describes before piece after ↔ piece ≠ [] ∧ ∀ c ∈ piece, p c = true := by
  constructor
  · intro h
    cases h with
    | run hne hall => exact ⟨hne, hall⟩
  · rintro ⟨hne, hall⟩
    exact .run hne hall

lemma describes_append_iff :
    (first ++ second).Describes before piece after ↔
      ∃ left right, piece = left ++ right ∧ first.Describes before left (right ++ after) ∧
        second.Describes (before ++ left) right after := by
  constructor
  · intro h
    cases h with
    | seq hleft hright => exact ⟨_, _, rfl, hleft, hright⟩
  · rintro ⟨left, right, rfl, hleft, hright⟩
    exact .seq hleft hright

/-- Between the two ends of a text there is the whole text. -/
lemma describes_whole_iff :
    first.whole.Describes before piece after ↔
      before = [] ∧ after = [] ∧ first.Describes [] piece [] := by
  simp only [whole, describes_append_iff, describes_start_iff, describes_finish_iff]
  constructor
  · rintro ⟨left, right, rfl, ⟨nothing, middle, rfl, ⟨rfl, rfl⟩, hmiddle⟩, rfl, rfl⟩
    simpa using hmiddle
  · rintro ⟨rfl, rfl, h⟩
    exact ⟨piece, [], by simp, ⟨[], piece, rfl, ⟨rfl, rfl⟩, by simpa using h⟩, rfl, rfl⟩

end Inversion

/-! ### Searching -/

lemma mem_runEnds_iff {p : Char → Bool} {before after : List Char} {place : Place} :
    place ∈ runEnds p before after ↔
      ∃ piece, Place.Spans ⟨before, after⟩ piece place ∧ piece ≠ [] ∧ ∀ c ∈ piece, p c = true := by
  induction after generalizing before with
  | nil =>
    constructor
    · intro h
      cases h
    · rintro ⟨piece, hspans, hne, -⟩
      exact absurd (List.append_eq_nil_iff.1 hspans.after.symm).1 hne
  | cons c after ih =>
    rw [runEnds]
    constructor
    · intro h
      split_ifs at h with hc
      · rcases List.mem_cons.1 h with rfl | h
        · exact ⟨[c], .cons c before after, by simp, by simpa using hc⟩
        · obtain ⟨piece, hspans, -, hall⟩ := ih.1 h
          exact ⟨c :: piece, .cons_iff.2 hspans, by simp, List.forall_mem_cons.2 ⟨hc, hall⟩⟩
      · cases h
    · rintro ⟨piece, hspans, hne, hall⟩
      cases piece with
      | nil => exact absurd rfl hne
      | cons d piece =>
        obtain rfl : d = c := (List.cons.inj hspans.after).1.symm
        obtain ⟨hd, hall⟩ := List.forall_mem_cons.1 hall
        rw [if_pos hd, List.mem_cons]
        rw [Place.Spans.cons_iff] at hspans
        cases piece with
        | nil => exact .inl hspans.eq_of_nil
        | cons e piece => exact .inr (ih.2 ⟨e :: piece, hspans, by simp, hall⟩)

lemma mem_places_iff {before after : List Char} {place : Place} :
    place ∈ places before after ↔ ∃ piece, Place.Spans ⟨before, after⟩ piece place := by
  induction after generalizing before with
  | nil =>
    rw [places, List.mem_singleton]
    constructor
    · rintro rfl
      exact ⟨[], .refl _⟩
    · rintro ⟨piece, hspans⟩
      obtain rfl : piece = [] := (List.append_eq_nil_iff.1 hspans.after.symm).1
      exact hspans.eq_of_nil
  | cons c after ih =>
    rw [places, List.mem_cons, ih]
    constructor
    · rintro (rfl | ⟨piece, hspans⟩)
      · exact ⟨[], .refl _⟩
      · exact ⟨c :: piece, .cons_iff.2 hspans⟩
    · rintro ⟨piece, hspans⟩
      cases piece with
      | nil => exact .inl hspans.eq_of_nil
      | cons d piece =>
        obtain rfl : d = c := (List.cons.inj hspans.after).1.symm
        exact .inr ⟨piece, .cons_iff.1 hspans⟩

/-- The places behind a pattern are those behind the stretches that it describes. -/
lemma mem_ends_iff {pattern : Pattern} {place place' : Place} :
    place' ∈ pattern.ends place ↔
      ∃ piece, place.Spans piece place' ∧
        pattern.Describes place.before.reverse piece place'.after := by
  induction pattern generalizing place place' with
  | start =>
    simp only [describes_start_iff, ends, List.mem_ite_nil_right, List.mem_singleton,
      List.isEmpty_iff, List.reverse_eq_nil_iff]
    constructor
    · rintro ⟨hbefore, rfl⟩
      exact ⟨[], .refl _, hbefore, rfl⟩
    · rintro ⟨piece, hspans, hbefore, rfl⟩
      exact ⟨hbefore, hspans.eq_of_nil⟩
  | finish =>
    simp only [describes_finish_iff, ends, List.mem_ite_nil_right, List.mem_singleton,
      List.isEmpty_iff]
    constructor
    · rintro ⟨hafter, rfl⟩
      exact ⟨[], .refl _, rfl, hafter⟩
    · rintro ⟨piece, hspans, rfl, hafter⟩
      obtain rfl := hspans.eq_of_nil
      exact ⟨hafter, rfl⟩
  | chars cs =>
    simp only [describes_chars_iff, ends]
    constructor
    · intro h
      split at h
      · next rest hrest =>
        obtain rfl := List.mem_singleton.1 h
        rw [List.isPrefixOf?_eq_some_iff_append_eq] at hrest
        exact ⟨cs, ⟨hrest.symm, rfl⟩, rfl⟩
      · cases h
    · rintro ⟨piece, hspans, rfl⟩
      rw [List.isPrefixOf?_eq_some_iff_append_eq.2 hspans.after.symm, List.mem_singleton,
        ← hspans.before]
  | run p =>
    simp only [describes_run_iff, ends, mem_runEnds_iff]
  | seq first second ih₁ ih₂ =>
    rw [ends, List.mem_flatMap]
    constructor
    · rintro ⟨middle, hmiddle, hplace'⟩
      obtain ⟨left, hleft, hfirst⟩ := ih₁.1 hmiddle
      obtain ⟨right, hright, hsecond⟩ := ih₂.1 hplace'
      refine ⟨left ++ right, hleft.append hright, .seq ?_ ?_⟩
      · rwa [← hright.after]
      · rwa [hleft.before, List.reverse_append, List.reverse_reverse] at hsecond
    · rintro ⟨piece, hspans, hpiece⟩
      obtain ⟨left, right, rfl, hfirst, hsecond⟩ := describes_append_iff.1 hpiece
      obtain ⟨middle, hleft, hright⟩ := hspans.exists_of_append
      refine ⟨middle, ih₁.2 ⟨left, hleft, ?_⟩, ih₂.2 ⟨right, hright, ?_⟩⟩
      · rwa [hright.after]
      · rwa [hleft.before, List.reverse_append, List.reverse_reverse]

/-- A pattern is found where it describes a stretch, and nowhere else. -/
theorem isIn_iff {pattern : Pattern} {text : List Char} :
    pattern.isIn text = true ↔
      ∃ before piece after, text = before ++ piece ++ after ∧
        pattern.Describes before piece after := by
  rw [isIn, List.any_eq_true]
  constructor
  · rintro ⟨place, hplace, hends⟩
    obtain ⟨before, hbefore⟩ := mem_places_iff.1 hplace
    obtain ⟨place', hplace'⟩ := List.exists_mem_of_ne_nil (pattern.ends place) (by simpa using hends)
    obtain ⟨piece, hpiece, hdescribes⟩ := mem_ends_iff.1 hplace'
    refine ⟨before, piece, place'.after, (hbefore.append hpiece).after, ?_⟩
    rwa [hbefore.before, List.append_nil, List.reverse_reverse] at hdescribes
  · rintro ⟨before, piece, after, rfl, hdescribes⟩
    have hplace : Place.Spans ⟨[], before ++ piece ++ after⟩ before
        ⟨before.reverse, piece ++ after⟩ := ⟨List.append_assoc .., (List.append_nil _).symm⟩
    have hends : ⟨piece.reverse ++ before.reverse, after⟩ ∈
        pattern.ends ⟨before.reverse, piece ++ after⟩ := by
      rw [mem_ends_iff]
      exact ⟨piece, ⟨rfl, rfl⟩, by rwa [List.reverse_reverse]⟩
    refine ⟨_, mem_places_iff.2 ⟨before, hplace⟩, ?_⟩
    simpa using List.ne_nil_of_mem hends

/-- A pattern for the whole text is found in the texts that it describes. -/
theorem isIn_whole_iff {pattern : Pattern} {text : List Char} :
    pattern.whole.isIn text = true ↔ pattern.Describes [] text [] := by
  simp only [isIn_iff, describes_whole_iff]
  constructor
  · rintro ⟨before, piece, after, rfl, rfl, rfl, h⟩
    simpa using h
  · intro h
    exact ⟨[], text, [], by simp, rfl, rfl, h⟩

end Pattern

end StackForm.Text
