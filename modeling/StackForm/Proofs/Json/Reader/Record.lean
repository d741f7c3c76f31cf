import StackForm.Json.Reader.Record
import StackForm.Proofs.Json.Reader.Skip

/-!
# Readers of typed values

The typed readers recognize the grammars of texts, lists and records, once the readers of the parts
recognize theirs. A reader that meets another shape fails, whatever it reads for the message.
-/

namespace StackForm.Json

variable {α : Type}

/-! ### Items -/

namespace Grammar

variable {item value : Grammar α} {field : String} {default : Option α}

lemma isItem_text : IsItem Text where
  of_trim_eq heq h := by
    cases h with
    | quoted hopen h => exact .quoted (hopen.of_trim_eq heq) h
  opens h := by
    cases h with
    | quoted hopen h => exact ⟨_, _, hopen, by decide, h.length_le Escape.length_le⟩

lemma isItem_listOf (hitem : IsItem item) : IsItem (ListOf item) where
  of_trim_eq heq h := by
    cases h with
    | items hopen h => exact .items (hopen.of_trim_eq heq) h
  opens h := by
    cases h with
    | items hopen h => exact ⟨_, _, hopen, by decide, (h.length_lt hitem).le⟩

lemma isItem_member (hvalue : IsItem value) : IsItem (Member field value) where
  of_trim_eq heq h := by
    cases h with
    | field hname hcolon h => exact .field (isItem_text.of_trim_eq heq hname) hcolon h
    | other hname hne hcolon h => exact .other (isItem_text.of_trim_eq heq hname) hne hcolon h
  opens h := by
    cases h with
    | field hname hcolon h =>
      obtain ⟨b, rest, hopen, hb, hle⟩ := isItem_text.opens hname
      have hmid := (hvalue.length_lt h).trans hcolon.length_lt
      exact ⟨b, rest, hopen, hb, hmid.le.trans hle⟩
    | other hname _ hcolon h =>
      obtain ⟨b, rest, hopen, hb, hle⟩ := isItem_text.opens hname
      have hmid := ((isItem_value _).length_lt h).trans hcolon.length_lt
      exact ⟨b, rest, hopen, hb, hmid.le.trans hle⟩

lemma isItem_object (hvalue : IsItem value) : IsItem (Object field value) where
  of_trim_eq heq h := by
    cases h with
    | members hopen h hfound => exact .members (hopen.of_trim_eq heq) h hfound
  opens h := by
    cases h with
    | members hopen h => exact ⟨_, _, hopen, by decide, (h.length_lt (isItem_member hvalue)).le⟩

lemma isItem_record (hvalue : IsItem value) : IsItem (Record field value default) where
  of_trim_eq heq h := by
    cases h with
    | object h hx => exact .object ((isItem_object hvalue).of_trim_eq heq h) hx
    | list hopen hx hclose => exact .list (hopen.of_trim_eq heq) hx hclose
    | emptyList hopen hclose hx => exact .emptyList (hopen.of_trim_eq heq) hclose hx
  opens h := by
    cases h with
    | object h => exact (isItem_object hvalue).opens h
    | list hopen hx hclose =>
      have hmid := hclose.length_lt.trans (hvalue.length_lt hx)
      exact ⟨_, _, hopen, by decide, hmid.le⟩
    | emptyList hopen hclose => exact ⟨_, _, hopen, by decide, hclose.length_lt.le⟩

end Grammar

namespace Reader

open Grammar

variable {grammar : Grammar α} {fuel : Nat} {first : Bool} {input rest output : List UInt8}

/-! ### Texts and lists -/

/-- A value of another shape gives nothing. -/
lemma givesOnly_wrongShape (expected : String) (p : α → List UInt8 → Prop) :
    GivesOnly (wrongShape expected) input p := by
  refine .after _ fun next _ => ?_
  split_ifs
  · exact .fail _
  · exact .fail _
  · exact .after _ fun _ _ => .fail _

lemma recognizes_textValue : Recognizes textValue Text where
  sound input := by
    refine .token (fun _ => givesOnly_wrongShape _ _) fun b rest hb => ?_
    split_ifs with hquote
    · obtain rfl := Option.some.inj hquote
      exact .advance ((recognizes_text.sound rest).mono fun _ _ => .quoted hb)
    · exact givesOnly_wrongShape _ _
  complete h := by
    cases h with
    | quoted hopen h =>
      refine .token hopen ?_
      rw [if_pos rfl]
      exact (reads_advance _ _).bind (recognizes_text.complete h)

lemma recognizes_listValue {item : Reader α} (hread : Recognizes item grammar)
    (hitem : IsItem grammar) : Recognizes (listValue item) (ListOf grammar) where
  sound input := by
    refine .token (fun _ => givesOnly_wrongShape _ _) fun b rest hb => ?_
    split_ifs with hopen
    · obtain rfl := Option.some.inj hopen
      refine .advance (.remaining fun fuel => ?_)
      refine .bind ((givesOnly_items hread hitem fuel true rest).mono ?_)
      rintro xs _ ⟨output, rfl, hxs⟩
      exact .advance (.pure (.items hb hxs))
    · exact givesOnly_wrongShape _ _
  complete h := by
    cases h with
    | items hopen h =>
      refine .token hopen ?_
      rw [if_pos rfl]
      refine (reads_advance _ _).bind ((reads_remaining _).bind ?_)
      refine (reads_items_of_sequence hread hitem h (Nat.le_succ _)).bind ?_
      exact (reads_advance _ _).bind (.pure _ _)

/-! ### Records from lists -/

namespace OneField

variable {record : OneField α}

lemma givesOnly_closeList (input : List UInt8) :
    GivesOnly closeList input fun _ output => Token 0x5d input output := by
  refine .token (fun _ => .failNext _) fun b rest hb => ?_
  dsimp only
  split_ifs with hclose
  · exact .of_advance (hclose ▸ hb)
  · exact .after _ fun _ _ => .after _ fun _ _ => .failNext _
  · exact .failNext _

lemma reads_closeList (h : Token 0x5d input output) : Reads closeList input () output :=
  .token h (reads_advance _ _)

lemma givesOnly_absent (mismatch : Mismatch) (b : UInt8) (rest : List UInt8) :
    GivesOnly (record.absent mismatch) (b :: rest) fun x output =>
      record.default = some x ∧ output = rest := by
  refine .advance ?_
  cases hdefault : record.default with
  | none => exact .fail _
  | some x => exact .pure ⟨rfl, rfl⟩

lemma reads_absent {x : α} (hx : record.default = some x) (mismatch : Mismatch) (b : UInt8)
    (rest : List UInt8) : Reads (record.absent mismatch) (b :: rest) x rest := by
  refine (reads_advance b rest).bind ?_
  rw [hx]
  exact .pure x rest

lemma givesOnly_ofItems (hread : Recognizes record.read grammar) (hitem : IsItem grammar)
    (input : List UInt8) : GivesOnly record.ofItems input fun x output =>
      (∃ mid, grammar input x mid ∧ Token 0x5d mid output) ∨
        Token 0x5d input output ∧ record.default = some x := by
  refine .bind ((givesOnly_nextItem true input).mono fun more mid hnext => ?_)
  cases more with
  | false =>
    obtain ⟨rest, hclose, rfl⟩ := hnext
    refine (givesOnly_absent _ 0x5d rest).mono ?_
    rintro x _ ⟨hx, rfl⟩
    exact .inr ⟨hclose, hx⟩
  | true =>
    obtain ⟨rest, hlead, rfl⟩ := hnext
    cases hlead with
    | first =>
      refine .bind ((hread.sound _).mono fun x mid hx => ?_)
      refine .bind ((givesOnly_closeList mid).mono fun _ output hclose => ?_)
      exact .pure (.inl ⟨mid, hitem.trim_iff.1 hx, hclose⟩)

/-! ### Records from objects -/

/-- A field that stood already may not stand again; another member changes nothing. -/
lemma givesOnly_member (hread : Recognizes record.read grammar) {found : Option α} {name : String}
    (hname : Text input name rest) : GivesOnly (record.member found name) rest fun found' mid =>
      ∃ x, Member record.field grammar input x mid ∧
        found'.toList = found.toList ++ x.toList := by
  rw [member]
  split_ifs with hfield hfound
  · refine .after _ fun next _ => ?_
    split_ifs
    · exact .after _ fun _ _ => .fail _
    · exact .fail _
  · subst hfield
    obtain rfl : found = none := by simpa using hfound
    refine .bind ((givesOnly_colon rest).mono fun _ mid hcolon => ?_)
    refine .bind ((hread.sound mid).mono fun x output hx => ?_)
    exact .pure ⟨some x, .field hname hcolon hx, rfl⟩
  · refine .bind ((givesOnly_colon rest).mono fun _ mid hcolon => ?_)
    refine .bind ((recognizes_skip.sound mid).mono ?_)
    rintro _ output ⟨levels, h⟩
    exact .pure ⟨none, .other hname hfield hcolon h, (List.append_nil _).symm⟩

lemma givesOnly_members (hread : Recognizes record.read grammar) (fuel : Nat) (first : Bool)
    (found : Option α) (input : List UInt8) :
    GivesOnly (members record.member fuel first found) input fun found' mid =>
      ∃ output ms, mid = 0x7d :: output ∧
        Sequence 0x7d (Member record.field grammar) first input ms output ∧
          found'.toList = found.toList ++ ms.reduceOption := by
  induction fuel generalizing first found input with
  | zero => exact .failNext _
  | succ fuel ih =>
    refine .bind ((givesOnly_nextMember first input).mono fun more mid hnext => ?_)
    cases more with
    | false =>
      obtain ⟨output, hclose, rfl⟩ := hnext
      exact .pure ⟨output, [], rfl, .done hclose, (List.append_nil _).symm⟩
    | true =>
      obtain ⟨rest, quoted, hlead, hopen, rfl⟩ := hnext
      refine .advance (.bind ((recognizes_text.sound quoted).mono fun name mid hname => ?_))
      refine .bind ((givesOnly_member hread (.quoted hopen hname)).mono ?_)
      rintro found₁ mid ⟨x, hx, hfound₁⟩
      refine (ih false found₁ mid).mono ?_
      rintro found' _ ⟨output, ms, rfl, hms, hfound'⟩
      refine ⟨output, x :: ms, rfl, .item hlead hx hms, ?_⟩
      rw [hfound', hfound₁, List.append_assoc]
      cases x <;> rfl

lemma reads_members_of_sequence (hread : Recognizes record.read grammar) (hitem : IsItem grammar)
    {ms : List (Option α)} (h : Sequence 0x7d (Member record.field grammar) first input ms output)
    {found found' : Option α} (hfound : found'.toList = found.toList ++ ms.reduceOption)
    (hfuel : input.length ≤ fuel) :
    Reads (members record.member fuel first found) input found' (0x7d :: output) := by
  induction h generalizing fuel found with
  | done h =>
    obtain ⟨fuel, rfl⟩ : ∃ n, fuel = n + 1 := ⟨fuel - 1, by have := h.length_lt; omega⟩
    obtain rfl : found' = found := by
      cases found' <;> cases found <;> simp_all
    exact (reads_nextMember_of_token h).bind (.pure _ _)
  | item hlead hx _ ih =>
    have hlength := (isItem_member hitem).length_lt hx
    have hrest := hlead.length_le
    obtain ⟨fuel, rfl⟩ : ∃ n, fuel = n + 1 := ⟨fuel - 1, by omega⟩
    cases hx with
    | @field x _ _ _ _ hname hcolon h =>
      -- the field is not there yet, as it stands once
      obtain rfl : found = none := by
        cases found with
        | none => rfl
        | some y => cases found' <;> simp at hfound
      have hloop : Reads (members record.member fuel false (some x)) _ found' _ :=
        ih hfound (by omega)
      cases hname with
      | quoted hopen hname =>
        refine (reads_nextMember_of_lead hlead hopen).bind ((reads_advance _ _).bind ?_)
        refine (recognizes_text.complete hname).bind (.bind ?_ hloop)
        rw [member, if_pos rfl, if_neg (by simp)]
        refine (reads_colon_of_token hcolon).bind ?_
        exact (hread.complete h).bind (.pure _ _)
    | @other name levels _ _ _ _ hname hne hcolon h =>
      have hloop : Reads (members record.member fuel false found) _ found' _ :=
        ih hfound (by omega)
      have hskip : Reads skip _ () _ := recognizes_skip.complete ⟨levels, h⟩
      cases hname with
      | quoted hopen hname =>
        refine (reads_nextMember_of_lead hlead hopen).bind ((reads_advance _ _).bind ?_)
        refine (recognizes_text.complete hname).bind (.bind ?_ hloop)
        rw [member, if_neg hne]
        refine (reads_colon_of_token hcolon).bind ?_
        exact hskip.bind (.pure _ _)

/-! ### Records -/

lemma givesOnly_ofMembers (hread : Recognizes record.read grammar) (hopen : Token 0x7b input rest) :
    GivesOnly record.ofMembers rest (Record record.field grammar record.default input) := by
  refine .remaining fun fuel => ?_
  refine .bind ((givesOnly_members hread fuel true none rest).mono ?_)
  rintro found _ ⟨output, ms, rfl, hms, hfound⟩
  have hobject : Object record.field grammar input found output := .members hopen hms hfound.symm
  cases found with
  | none =>
    refine (givesOnly_absent _ 0x7d output).mono ?_
    rintro x _ ⟨hx, rfl⟩
    exact .object hobject hx
  | some x => exact .advance (.pure (.object hobject rfl))

lemma reads_ofMembers (hread : Recognizes record.read grammar) (hitem : IsItem grammar)
    {ms : List (Option α)} {found : Option α} {x : α}
    (h : Sequence 0x7d (Member record.field grammar) true input ms output)
    (hfound : ms.reduceOption = found.toList) (hx : found.or record.default = some x) :
    Reads record.ofMembers input x output := by
  refine (reads_remaining _).bind ?_
  refine (reads_members_of_sequence hread hitem h hfound.symm (Nat.le_succ _)).bind ?_
  cases found with
  | none => exact reads_absent hx _ 0x7d output
  | some y =>
    obtain rfl := Option.some.inj hx
    exact (reads_advance _ _).bind (.pure _ _)

/-- A record is read where its grammar says, if its field is. -/
theorem recognizes_reader (hread : Recognizes record.read grammar) (hitem : IsItem grammar) :
    Recognizes record.reader (Record record.field grammar record.default) where
  sound input := by
    refine .token (fun _ => givesOnly_wrongShape _ _) fun b rest hb => ?_
    split_ifs with hlist hobject
    · obtain rfl := Option.some.inj hlist
      refine .advance ((givesOnly_ofItems hread hitem rest).mono ?_)
      rintro x output (⟨mid, hx, hclose⟩ | ⟨hclose, hx⟩)
      · exact .list hb hx hclose
      · exact .emptyList hb hclose hx
    · obtain rfl := Option.some.inj hobject
      exact .advance (givesOnly_ofMembers hread hb)
    · exact givesOnly_wrongShape _ _
  complete h := by
    cases h with
    | object h hx =>
      cases h with
      | members hopen h hfound =>
        refine .token hopen ((reads_advance _ _).bind ?_)
        exact reads_ofMembers hread hitem h hfound hx
    | list hopen hx hclose =>
      refine .token hopen ((reads_advance _ _).bind ?_)
      obtain ⟨b, rest, hb, hne, -⟩ := hitem.opens hx
      refine (reads_nextItem_of_lead (.first _) hb hne).bind ?_
      refine (hread.complete (hitem.of_trim_eq hb.trim_eq hx)).bind ?_
      exact (reads_closeList hclose).bind (.pure _ _)
    | emptyList hopen hclose hx =>
      refine .token hopen ((reads_advance _ _).bind ?_)
      exact (reads_nextItem_of_token hclose).bind (reads_absent hx _ _ _)

end OneField

end Reader

end StackForm.Json
