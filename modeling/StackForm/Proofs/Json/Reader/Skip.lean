import StackForm.Proofs.Json.Reader.Numeral
import StackForm.Proofs.Json.Reader.Quoted
import StackForm.Proofs.Json.Reader.Sequence

/-!
# Readers that move past values

A value that is not asked for is moved past exactly when it is in order, whatever its depth. The
proof is an induction on the levels that may still be opened, as the reader recurs on them; a value
has fewer levels than bytes, so that the levels with which a reader starts are enough.
-/

namespace StackForm.Json

/-! ### Values as items -/

namespace Grammar

variable {input output : List UInt8}

lemma isItem_anyMember {value : Grammar Unit} (hvalue : IsItem value) :
    IsItem (AnyMember value) where
  of_trim_eq heq h := by
    cases h with
    | named hopen hname hcolon h => exact .named (hopen.of_trim_eq heq) hname hcolon h
  opens h := by
    cases h with
    | named hopen hname hcolon h =>
      refine ⟨_, _, hopen, by decide, ?_⟩
      have hmid := hcolon.length_lt.trans_le (hname.length_le LooseEscape.length_le)
      exact (hvalue.length_lt h).le.trans hmid.le

lemma isItem_valueOver {inner : Grammar Unit} (hinner : IsItem inner) :
    IsItem (ValueOver inner) where
  of_trim_eq heq h := by
    cases h with
    | null h => exact .null (h.of_trim_eq heq)
    | yes h => exact .yes (h.of_trim_eq heq)
    | no h => exact .no (h.of_trim_eq heq)
    | negative hsign h => exact .negative (hsign.of_trim_eq heq) h
    | number h => exact .number (heq ▸ h)
    | text hopen h => exact .text (hopen.of_trim_eq heq) h
    | list hopen h => exact .list (hopen.of_trim_eq heq) h
    | object hopen h => exact .object (hopen.of_trim_eq heq) h
  opens h := by
    cases h with
    | null h | yes h | no h =>
      refine ⟨_, _, h, by decide, ?_⟩
      rw [List.length_append]
      exact Nat.le_add_left _ _
    | negative hsign h =>
      obtain ⟨d, rest, rfl, -, hle⟩ := h.opens
      exact ⟨_, _, hsign, by decide, hle.trans (Nat.le_succ _)⟩
    | number h =>
      obtain ⟨d, rest, htrim, hd, hle⟩ := h.opens
      refine ⟨d, rest, htrim, ?_, hle⟩
      rintro (rfl | rfl) <;> exact absurd hd (by decide)
    | text hopen h => exact ⟨_, _, hopen, by decide, h.length_le LooseEscape.length_le⟩
    | list hopen h => exact ⟨_, _, hopen, by decide, (h.length_lt hinner).le⟩
    | object hopen h =>
      exact ⟨_, _, hopen, by decide, (h.length_lt (isItem_anyMember hinner)).le⟩

lemma isItem_value (levels : Nat) : IsItem (Value levels) := by
  induction levels with
  | zero => exact ⟨fun _ => id, False.elim⟩
  | succ levels ih => exact isItem_valueOver ih

lemma ValueOver.imp {inner inner' : Grammar Unit} (hinner : IsItem inner)
    (himp : ∀ {part x rest}, part.length < input.length → inner part x rest → inner' part x rest)
    (h : ValueOver inner input () output) : ValueOver inner' input () output := by
  cases h with
  | null h => exact .null h
  | yes h => exact .yes h
  | no h => exact .no h
  | negative hsign h => exact .negative hsign h
  | number h => exact .number h
  | text hopen h => exact .text hopen h
  | list hopen h =>
    have hlist := h.imp hinner (fun hle => himp (hle.trans_lt hopen.length_lt)) (Nat.le_refl _)
    exact .list hopen hlist
  | object hopen h =>
    refine .object hopen (h.imp (isItem_anyMember hinner) ?_ (Nat.le_refl _))
    rintro part _ rest hle (⟨hquote, hname, hcolon, hvalue⟩)
    refine .named hquote hname hcolon (himp ?_ hvalue)
    have hpart := hcolon.length_lt.trans_le (hname.length_le LooseEscape.length_le)
    exact ((hpart.trans hquote.length_lt).trans_le hle).trans hopen.length_lt

/-- A value has no more levels than bytes. -/
lemma Value.of_length_le {levels bound : Nat} (h : Value levels input () output)
    (hbound : input.length ≤ bound) : Value bound input () output := by
  induction levels generalizing bound input output with
  | zero => exact h.elim
  | succ levels ih =>
    have hpos := (isItem_value _).length_lt h
    obtain ⟨bound, rfl⟩ : ∃ n, bound = n + 1 := ⟨bound - 1, by omega⟩
    exact ValueOver.imp (isItem_value levels) (fun hlt hpart => ih hpart (by omega)) h

end Grammar

/-! ### Values -/

namespace Reader

open Grammar

variable {item : Reader Unit} {grammar : Grammar Unit}

lemma recognizes_skipMember (hread : Recognizes item grammar) :
    Recognizes (skipMember item) (AnyMember grammar) where
  sound input := by
    refine .token (fun _ => .failNext _) fun b rest hb => ?_
    dsimp only
    split_ifs with hquote
    · subst hquote
      refine .advance (.remaining fun fuel => .bind ((givesOnly_skipText fuel rest).mono ?_))
      rintro _ afterName ⟨name, hname⟩
      refine .bind ((givesOnly_colon afterName).mono fun _ mid hcolon => ?_)
      exact (hread.sound mid).mono fun _ _ => .named hb hname hcolon
    · exact .failNext _
  complete h := by
    cases h with
    | named hopen hname hcolon h =>
      refine .token hopen ((reads_advance _ _).bind ((reads_remaining _).bind ?_))
      refine (reads_skipText hname (Nat.le_succ _)).bind ?_
      exact (reads_colon_of_token hcolon).bind (hread.complete h)

lemma givesOnly_word (w input : List UInt8) :
    GivesOnly (word w) input fun _ output => input = w ++ output := by
  induction w generalizing input with
  | nil => exact .pure rfl
  | cons b w ih =>
    refine .peek ?_
    cases input with
    | nil => exact .fail _
    | cons found rest =>
      refine .advance ?_
      split_ifs with hfound
      · exact (ih rest).mono fun _ output hrest => congrArg₂ List.cons hfound hrest
      · exact .fail _

lemma recognizes_skipLevels (levels : Nat) : Recognizes (skipLevels levels) (Value levels) := by
  induction levels with
  | zero => exact ⟨fun _ => .failNext _, False.elim⟩
  | succ levels ih =>
    have hitem := isItem_value levels
    refine ⟨fun input => ?_, fun {input output _} h => ?_⟩
    · refine .token (fun _ => .failNext _) fun b rest hb => ?_
      dsimp only
      -- one case for each byte that a value can begin with
      split_ifs with hnull hyes hno hsign hdigit hquote hlist hobject
      · subst hnull
        exact .advance ((givesOnly_word _ rest).mono fun _ _ hrest => .null (hrest ▸ hb))
      · subst hyes
        exact .advance ((givesOnly_word _ rest).mono fun _ _ hrest => .yes (hrest ▸ hb))
      · subst hno
        exact .advance ((givesOnly_word _ rest).mono fun _ _ hrest => .no (hrest ▸ hb))
      · subst hsign
        exact .advance ((recognizes_skipNumber.sound rest).mono fun _ _ => .negative hb)
      · exact (recognizes_skipNumber.sound _).mono fun _ _ h => .number (hb ▸ h)
      · subst hquote
        refine .advance (.remaining fun fuel => (givesOnly_skipText fuel rest).mono ?_)
        rintro _ output ⟨bytes, h⟩
        exact .text hb h
      · subst hlist
        refine .advance (.remaining fun fuel => ?_)
        rw [skipItems_eq]
        refine (givesOnly_skipSequence ih hitem fuel true rest).mono ?_
        rintro _ output ⟨xs, h⟩
        exact .list hb h
      · subst hobject
        refine .advance (.remaining fun fuel => ?_)
        rw [skipMembers_eq]
        refine (givesOnly_skipSequence (recognizes_skipMember ih) (isItem_anyMember hitem) fuel
          true rest).mono ?_
        rintro _ output ⟨xs, h⟩
        exact .object hb h
      · exact .failNext _
    · cases h with
      | null h => exact .token h ((reads_advance _ _).bind (reads_word _ output))
      | yes h => exact .token h ((reads_advance _ _).bind (reads_word _ output))
      | no h => exact .token h ((reads_advance _ _).bind (reads_word _ output))
      | negative hsign h =>
        exact .token hsign ((reads_advance _ _).bind (recognizes_skipNumber.complete h))
      | number h =>
        obtain ⟨d, rest, htrim, hd, -⟩ := h.opens
        refine .token htrim ?_
        have hne (b : UInt8) (hb : isDigit b = false) : d ≠ b := by
          rintro rfl
          rw [hd] at hb
          cases hb
        dsimp only
        rw [if_neg (hne 0x6e rfl), if_neg (hne 0x74 rfl), if_neg (hne 0x66 rfl),
          if_neg (hne 0x2d rfl), if_pos hd]
        exact recognizes_skipNumber.complete (htrim ▸ h)
      | text hopen h =>
        refine .token hopen ((reads_advance _ _).bind ((reads_remaining _).bind ?_))
        exact reads_skipText h (Nat.le_succ _)
      | list hopen h =>
        refine .token hopen ((reads_advance _ _).bind ((reads_remaining _).bind ?_))
        rw [skipItems_eq]
        exact reads_skipSequence ih hitem (by decide) h (Nat.le_succ _)
      | object hopen h =>
        refine .token hopen ((reads_advance _ _).bind ((reads_remaining _).bind ?_))
        rw [skipMembers_eq]
        exact reads_skipSequence (recognizes_skipMember ih) (isItem_anyMember hitem) (by decide) h
          (Nat.le_succ _)

/-- A value is moved past whatever its depth is. -/
theorem recognizes_skip :
    Recognizes skip fun input _ output => ∃ levels, Value levels input () output where
  sound input := .remaining fun levels =>
    ((recognizes_skipLevels levels).sound input).mono fun _ _ h => ⟨levels, h⟩
  complete := by
    rintro input output _ ⟨levels, h⟩
    refine (reads_remaining input).bind ?_
    exact (recognizes_skipLevels _).complete (h.of_length_le (Nat.le_succ _))

end Reader

end StackForm.Json
