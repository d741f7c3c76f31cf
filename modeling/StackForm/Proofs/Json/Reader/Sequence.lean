import StackForm.Proofs.Json.Reader.Recognition

/-!
# Readers of what stands between brackets

Items and members are read in loops with fuel. Every item takes a byte at least, so that a loop with
as much fuel as there are bytes comes to the closing one.
-/

namespace StackForm.Json

variable {α : Type}

/-! ### Sequences -/

namespace Grammar

variable {close : UInt8} {item : Grammar α} {first : Bool} {xs : List α}
  {input output rest : List UInt8}

lemma Lead.length_le (h : Lead first input rest) : rest.length ≤ input.length := by
  cases h with
  | first => exact Nat.le_refl _
  | comma h => exact h.length_lt.le

namespace IsItem

/-- An item takes a byte at least. -/
lemma length_lt (hitem : IsItem item) {x : α} (h : item input x output) :
    output.length < input.length := by
  obtain ⟨b, rest, htoken, -, hle⟩ := hitem.opens h
  exact hle.trans_lt htoken.length_lt

/-- Blanks before an item make no difference. -/
lemma trim_iff (hitem : IsItem item) {x : α} :
    item (trim input) x output ↔ item input x output :=
  ⟨hitem.of_trim_eq (trim_trim input).symm, hitem.of_trim_eq (trim_trim input)⟩

end IsItem

lemma Sequence.length_lt (hitem : IsItem item) (h : Sequence close item first input xs output) :
    output.length < input.length := by
  induction h with
  | done h => exact h.length_lt
  | item hlead hx _ ih => exact ih.trans ((hitem.length_lt hx).trans_le hlead.length_le)

/-- The items of a sequence may be spelled by any grammar that has them, as far as they can be. -/
lemma Sequence.imp {item' : Grammar α} (hitem : IsItem item) {bound : Nat}
    (himp : ∀ {input x output}, input.length ≤ bound → item input x output → item' input x output)
    (h : Sequence close item first input xs output) (hbound : input.length ≤ bound) :
    Sequence close item' first input xs output := by
  induction h with
  | done h => exact .done h
  | item hlead hx _ ih =>
    have hrest := hlead.length_le.trans hbound
    exact .item hlead (himp hrest hx) (ih ((hitem.length_lt hx).le.trans hrest))

end Grammar

namespace Reader

open Grammar

variable {close b : UInt8} {fuel : Nat} {first : Bool} {input output rest : List UInt8}

/-! ### Steps between items -/

lemma givesOnly_colon (input : List UInt8) :
    GivesOnly colon input fun _ output => Token 0x3a input output := by
  refine .token (fun _ => .failNext _) fun b rest hb => ?_
  dsimp only
  split_ifs with hcolon
  · exact .of_advance (hcolon ▸ hb)
  · exact .failNext _

lemma reads_colon_of_token (h : Token 0x3a input output) : Reads colon input () output :=
  .token h (reads_advance _ _)

/-- Either the closing bracket is next, or what leads up to an item is passed. -/
lemma givesOnly_nextItem (first : Bool) (input : List UInt8) :
    GivesOnly (nextItem first) input fun more mid =>
      if more then ∃ rest, Lead first input rest ∧ mid = trim rest
      else ∃ output, Token 0x5d input output ∧ mid = 0x5d :: output := by
  refine .token (fun _ => .failNext _) fun b rest hb => ?_
  dsimp only
  split_ifs with hclose hfirst hcomma
  · subst hclose
    exact .pure (by simpa using hb)
  · subst hfirst
    exact .pure (by simpa using ⟨input, .first input, hb.symm⟩)
  · subst hcomma
    obtain rfl := eq_false_of_ne_true hfirst
    refine .advance (.token (fun _ => .failNext _) fun b' rest' hb' => ?_)
    dsimp only
    split_ifs
    · exact .failNext _
    · exact .pure (by simpa using ⟨rest, .comma hb, hb'.symm⟩)
  · exact .failNext _

lemma reads_nextItem_of_token (h : Token 0x5d input output) :
    Reads (nextItem first) input false (0x5d :: output) :=
  .token h (.pure false _)

lemma reads_nextItem_of_lead (hlead : Lead first input rest) (hb : Token b rest output)
    (hopen : ¬ IsClosing b) : Reads (nextItem first) input true (b :: output) := by
  have hne : b ≠ 0x5d := fun heq => hopen (.inl heq)
  cases hlead with
  | first =>
    refine .token hb ?_
    dsimp only
    rw [if_neg hne, if_pos rfl]
    exact .pure true _
  | comma hcomma =>
    refine .token hcomma ((reads_advance _ _).bind (.token hb ?_))
    dsimp only
    rw [if_neg hne]
    exact .pure true _

lemma givesOnly_nextMember (first : Bool) (input : List UInt8) :
    GivesOnly (nextMember first) input fun more mid =>
      if more then ∃ rest name, Lead first input rest ∧ Token 0x22 rest name ∧ mid = 0x22 :: name
      else ∃ output, Token 0x7d input output ∧ mid = 0x7d :: output := by
  refine .token (fun _ => .failNext _) fun b rest hb => ?_
  dsimp only
  split_ifs with hclose hfirst hquote hcomma
  · subst hclose
    exact .pure (by simpa using hb)
  · subst hfirst hquote
    exact .pure (by simpa using ⟨input, .first input, hb⟩)
  · exact .failNext _
  · subst hcomma
    obtain rfl := eq_false_of_ne_true hfirst
    refine .advance (.token (fun _ => .failNext _) fun b' rest' hb' => ?_)
    dsimp only
    split_ifs with hquote
    · subst hquote
      exact .pure (by simpa using ⟨rest, .comma hb, hb'⟩)
    · exact .failNext _
    · exact .failNext _
  · exact .failNext _

lemma reads_nextMember_of_token (h : Token 0x7d input output) :
    Reads (nextMember first) input false (0x7d :: output) :=
  .token h (.pure false _)

lemma reads_nextMember_of_lead (hlead : Lead first input rest) (hquote : Token 0x22 rest output) :
    Reads (nextMember first) input true (0x22 :: output) := by
  cases hlead with
  | first => exact .token hquote (.pure true _)
  | comma hcomma =>
    exact .token hcomma ((reads_advance _ _).bind (.token hquote (.pure true _)))

/-! ### Items -/

section Items

variable {item : Reader α} {grammar : Grammar α}

lemma givesOnly_items (hread : Recognizes item grammar) (hitem : IsItem grammar)
    (fuel : Nat) (first : Bool) (input : List UInt8) :
    GivesOnly (items item fuel first) input fun xs mid =>
      ∃ output, mid = 0x5d :: output ∧ Sequence 0x5d grammar first input xs output := by
  induction fuel generalizing first input with
  | zero => exact .failNext _
  | succ fuel ih =>
    refine .bind ((givesOnly_nextItem first input).mono fun more mid hnext => ?_)
    cases more with
    | false =>
      obtain ⟨output, hclose, rfl⟩ := hnext
      exact .pure ⟨output, rfl, .done hclose⟩
    | true =>
      obtain ⟨rest, hlead, rfl⟩ := hnext
      refine .bind ((hread.sound _).mono fun x mid hx => .bind ((ih false mid).mono ?_))
      rintro xs _ ⟨output, rfl, hxs⟩
      exact .pure ⟨output, rfl, .item hlead (hitem.trim_iff.1 hx) hxs⟩

lemma reads_items_of_sequence (hread : Recognizes item grammar) (hitem : IsItem grammar)
    {xs : List α} (h : Sequence 0x5d grammar first input xs output)
    (hfuel : input.length ≤ fuel) : Reads (items item fuel first) input xs (0x5d :: output) := by
  induction h generalizing fuel with
  | done h =>
    obtain ⟨fuel, rfl⟩ : ∃ n, fuel = n + 1 := ⟨fuel - 1, by have := h.length_lt; omega⟩
    exact (reads_nextItem_of_token h).bind (.pure _ _)
  | item hlead hx _ ih =>
    have hlength := hitem.length_lt hx
    have hrest := hlead.length_le
    obtain ⟨fuel, rfl⟩ : ∃ n, fuel = n + 1 := ⟨fuel - 1, by omega⟩
    obtain ⟨b, rest, hb, hopen, -⟩ := hitem.opens hx
    refine (reads_nextItem_of_lead hlead hb hopen).bind ?_
    refine (hread.complete (hitem.of_trim_eq hb.trim_eq hx)).bind ?_
    exact (ih (by omega)).bind (.pure _ _)

end Items

/-! ### Sequences that are not asked for -/

section Skipped

variable {atEnd expected : Fault} {item : Reader Unit} {grammar : Grammar Unit}

/-- Move past the items up to the closing byte, and past it. -/
def skipSequence (close : UInt8) (atEnd expected : Fault) (item : Reader Unit) :
    (fuel : Nat) → (first : Bool) → Reader Unit
  | 0, _ => failNext atEnd
  | fuel + 1, first => do
    match ← peekToken with
    | none => failNext atEnd
    | some b =>
      if b = close then advance
      else if first then
        item
        skipSequence close atEnd expected item fuel false
      else if b = 0x2c then
        advance
        item
        skipSequence close atEnd expected item fuel false
      else failNext expected

lemma skipItems_eq (item : Reader Unit) (fuel : Nat) (first : Bool) :
    skipItems item fuel first = skipSequence 0x5d .endInList .expectedItemEnd item fuel first := by
  induction fuel generalizing first with
  | zero => rfl
  | succ fuel ih =>
    rw [skipItems, skipSequence]
    refine bind_congr fun next => ?_
    cases next with
    | none => rfl
    | some b => simp only [ih]

lemma skipMembers_eq (value : Reader Unit) (fuel : Nat) (first : Bool) :
    skipMembers value fuel first =
      skipSequence 0x7d .endInObject .expectedMemberEnd (skipMember value) fuel first := by
  induction fuel generalizing first with
  | zero => rfl
  | succ fuel ih =>
    rw [skipMembers, skipSequence]
    refine bind_congr fun next => ?_
    cases next with
    | none => rfl
    | some b => simp only [ih]

lemma givesOnly_skipSequence (hread : Recognizes item grammar) (hitem : IsItem grammar)
    (fuel : Nat) (first : Bool) (input : List UInt8) :
    GivesOnly (skipSequence close atEnd expected item fuel first) input fun _ output =>
      ∃ xs, Sequence close grammar first input xs output := by
  induction fuel generalizing first input with
  | zero => exact .failNext _
  | succ fuel ih =>
    refine .token (fun _ => .failNext _) fun b rest hb => ?_
    dsimp only
    split_ifs with hclose hfirst hcomma
    · subst hclose
      exact .of_advance ⟨[], .done hb⟩
    · subst hfirst
      refine .bind ((hread.sound _).mono fun x mid hx => (ih false mid).mono ?_)
      rintro _ output ⟨xs, hxs⟩
      exact ⟨x :: xs, .item (.first input) (hitem.of_trim_eq hb.trim_eq.symm hx) hxs⟩
    · subst hcomma
      obtain rfl := eq_false_of_ne_true hfirst
      refine .advance (.bind ((hread.sound rest).mono fun x mid hx => (ih false mid).mono ?_))
      rintro _ output ⟨xs, hxs⟩
      exact ⟨x :: xs, .item (.comma hb) hx hxs⟩
    · exact .failNext _

lemma reads_skipSequence (hread : Recognizes item grammar) (hitem : IsItem grammar)
    (hclose : IsClosing close) {xs : List Unit} (h : Sequence close grammar first input xs output)
    (hfuel : input.length ≤ fuel) :
    Reads (skipSequence close atEnd expected item fuel first) input () output := by
  induction h generalizing fuel with
  | done h =>
    obtain ⟨fuel, rfl⟩ : ∃ n, fuel = n + 1 := ⟨fuel - 1, by have := h.length_lt; omega⟩
    refine .token h ?_
    dsimp only
    rw [if_pos rfl]
    exact reads_advance _ _
  | item hlead hx hxs ih =>
    have hlength := hitem.length_lt hx
    have hrest := hlead.length_le
    obtain ⟨fuel, rfl⟩ : ∃ n, fuel = n + 1 := ⟨fuel - 1, by omega⟩
    have hloop : Reads (skipSequence close atEnd expected item fuel false) _ () _ := ih (by omega)
    cases hlead with
    | first =>
      obtain ⟨b, rest, hb, hopen, -⟩ := hitem.opens hx
      refine .token hb ?_
      dsimp only
      have hne : b ≠ close := fun heq => hopen (heq ▸ hclose)
      rw [if_neg hne, if_pos rfl]
      exact (hread.complete (hitem.of_trim_eq hb.trim_eq hx)).bind hloop
    | comma hcomma =>
      refine .token hcomma ?_
      dsimp only
      have hne : (0x2c : UInt8) ≠ close := by
        rintro rfl
        exact absurd hclose (by decide)
      rw [if_neg hne, if_neg Bool.false_ne_true, if_pos rfl]
      exact (reads_advance _ _).bind ((hread.complete hx).bind hloop)

end Skipped

end Reader

end StackForm.Json
