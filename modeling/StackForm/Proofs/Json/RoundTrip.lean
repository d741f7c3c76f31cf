import StackForm.Json.Reader.Document
import StackForm.Proofs.Json.Ordered
import StackForm.Proofs.Json.Reader.Sequence
import StackForm.Proofs.Json.Reader.Text

/-!
# Reading written documents

A written document is read back, in either layout, with its members put into order; so an ordered
document is read back as it is. The documents are those without numbers that are not too deep. The
proof is an induction on the levels that may still be opened, as is the reader: what `inner` reads
back inside, `valueOver` reads back around it.
-/

namespace StackForm.Json

/-- No number stands in the document, and no more than `levels` levels of lists and objects. -/
def Plain : (levels : Nat) → Json → Prop
  | _, .null | _, .bool _ | _, .str _ => True
  | _, .num _ => False
  | 0, .arr _ | 0, .obj _ => False
  | levels + 1, .arr items => ∀ x ∈ items, x.Plain levels
  | levels + 1, .obj members => ∀ m ∈ members, m.2.Plain levels

namespace Reader

open Grammar

variable {blanks input mid output : List UInt8} {fuel : Nat}

/-! ### Blanks -/

lemma blanks_lineBreak (spacing : Spacing) (depth : Nat) :
    Blanks (Utf8.bytes (spacing.lineBreak depth)) := by
  intro b hb
  obtain ⟨c, hc, hb⟩ := List.mem_flatMap.1 hb
  cases spacing with
  | compact => simp [Spacing.lineBreak] at hc
  | indented =>
    have hblank : c = '\n' ∨ c = ' ' := by
      simp only [Spacing.lineBreak, List.mem_cons, List.mem_replicate] at hc
      exact hc.imp_right And.right
    rcases hblank with rfl | rfl
    · obtain rfl : b = 0x0a := List.mem_singleton.1 hb
      rfl
    · obtain rfl : b = 0x20 := List.mem_singleton.1 hb
      rfl

/-! ### What stands between brackets -/

/-- A byte that is neither a blank nor a closing one comes first, so that an item follows. -/
def BeginsItem (input : List UInt8) : Prop :=
  ∃ b tail, input = b :: tail ∧ isBlankByte b = false ∧ ¬ IsClosing b

lemma reads_nextItem_of_beginsItem {first : Bool} (hlead : Lead first input (blanks ++ mid))
    (hblanks : Blanks blanks) (hmid : BeginsItem mid) :
    Reads (nextItem first) input true mid := by
  obtain ⟨b, tail, rfl, hb, hopen⟩ := hmid
  exact reads_nextItem_of_lead hlead (hblanks.token hb tail) hopen

/-- A comma without blanks before it leads up to what follows. -/
lemma lead_comma (rest : List UInt8) : Lead false (0x2c :: rest) rest :=
  .comma (blanks_nil.token (by decide) rest)

lemma reads_colon (rest : List UInt8) : Reads colon (0x3a :: rest) () rest :=
  reads_colon_of_token (blanks_nil.token (by decide) rest)

/-! ### The bytes of documents -/

section Bytes

variable (spacing : Spacing) (depth : Nat) (rest : List UInt8)

lemma bytes_textChars (s : String) :
    Utf8.bytes (textChars s) ++ rest =
      0x22 :: (Utf8.bytes (s.toList.flatMap escapedChar) ++ 0x22 :: rest) := by
  simp only [textChars, List.cons_append, Utf8.bytes_cons, Utf8.bytes_append, List.append_assoc]
  rfl

lemma bytes_arr_cons (x : Json) (xs : List Json) :
    Utf8.bytes ((arr (x :: xs)).writeAt spacing depth) ++ rest =
      0x5b :: (Utf8.bytes (spacing.lineBreak (depth + 1)) ++
        (Utf8.bytes (x.writeAt spacing (depth + 1)) ++
          (Utf8.bytes (writeItems spacing (depth + 1) xs) ++
            (Utf8.bytes (spacing.lineBreak depth) ++ 0x5d :: rest)))) := by
  simp only [writeAt, List.cons_append, Utf8.bytes_cons, Utf8.bytes_append, List.append_assoc]
  rfl

lemma bytes_writeItems_cons (x : Json) (xs : List Json) :
    Utf8.bytes (writeItems spacing depth (x :: xs)) ++ rest =
      0x2c :: (Utf8.bytes (spacing.lineBreak depth) ++ (Utf8.bytes (x.writeAt spacing depth) ++
        (Utf8.bytes (writeItems spacing depth xs) ++ rest))) := by
  simp only [writeItems, List.cons_append, Utf8.bytes_cons, Utf8.bytes_append, List.append_assoc]
  rfl

lemma bytes_obj_cons (k : String) (v : Json) (ms : List (String × Json)) :
    Utf8.bytes ((obj ((k, v) :: ms)).writeAt spacing depth) ++ rest =
      0x7b :: (Utf8.bytes (spacing.lineBreak (depth + 1)) ++ (Utf8.bytes (textChars k) ++
        (Utf8.bytes spacing.colon ++ (Utf8.bytes (v.writeAt spacing (depth + 1)) ++
          (Utf8.bytes (writeMembers spacing (depth + 1) ms) ++
            (Utf8.bytes (spacing.lineBreak depth) ++ 0x7d :: rest)))))) := by
  simp only [writeAt, List.cons_append, Utf8.bytes_cons, Utf8.bytes_append, List.append_assoc]
  rfl

lemma bytes_writeMembers_cons (k : String) (v : Json) (ms : List (String × Json)) :
    Utf8.bytes (writeMembers spacing depth ((k, v) :: ms)) ++ rest =
      0x2c :: (Utf8.bytes (spacing.lineBreak depth) ++ (Utf8.bytes (textChars k) ++
        (Utf8.bytes spacing.colon ++ (Utf8.bytes (v.writeAt spacing depth) ++
          (Utf8.bytes (writeMembers spacing depth ms) ++ rest))))) := by
  simp only [writeMembers, List.cons_append, Utf8.bytes_cons, Utf8.bytes_append,
    List.append_assoc]
  rfl

lemma exists_bytes_colon :
    ∃ blanks, Blanks blanks ∧ Utf8.bytes spacing.colon ++ rest = 0x3a :: (blanks ++ rest) := by
  cases spacing with
  | compact => exact ⟨[], blanks_nil, rfl⟩
  | indented => exact ⟨[0x20], by simp [Blanks, isBlankByte], rfl⟩

lemma beginsItem_writeAt {doc : Json} {levels : Nat} (h : doc.Plain levels) :
    BeginsItem (Utf8.bytes (doc.writeAt spacing depth) ++ rest) := by
  cases doc with
  | null => exact ⟨0x6e, _, rfl, by decide, by decide⟩
  | bool b =>
    cases b with
    | false => exact ⟨0x66, _, rfl, by decide, by decide⟩
    | true => exact ⟨0x74, _, rfl, by decide, by decide⟩
  | num n => cases levels <;> exact h.elim
  | str s => exact ⟨0x22, _, bytes_textChars rest s, by decide, by decide⟩
  | arr items =>
    cases items with
    | nil => exact ⟨0x5b, _, rfl, by decide, by decide⟩
    | cons x xs => exact ⟨0x5b, _, bytes_arr_cons spacing depth rest x xs, by decide, by decide⟩
  | obj members =>
    cases members with
    | nil => exact ⟨0x7b, _, rfl, by decide, by decide⟩
    | cons m ms =>
      exact ⟨0x7b, _, bytes_obj_cons spacing depth rest m.1 m.2 ms, by decide, by decide⟩

/-- A name that is led up to is the name of another member. -/
lemma reads_nextMember_textChars (k : String) {first : Bool}
    (hlead : Lead first input (blanks ++ (Utf8.bytes (textChars k) ++ output)))
    (hblanks : Blanks blanks) :
    Reads (nextMember first) input true (Utf8.bytes (textChars k) ++ output) := by
  rw [bytes_textChars] at hlead ⊢
  exact reads_nextMember_of_lead hlead (hblanks.token (by decide) _)

end Bytes

/-! ### Items and members -/

/-- The reader reads the written document, at any depth, after blanks and before anything. -/
def ReadsBack (spacing : Spacing) (r : Reader Json) (doc : Json) : Prop :=
  ∀ depth {blanks : List UInt8}, Blanks blanks → ∀ rest,
    Reads r (blanks ++ (Utf8.bytes (doc.writeAt spacing depth) ++ rest)) doc.sorted rest

variable {spacing : Spacing} {inner : Reader Json} {levels : Nat}

lemma reads_items_end (hblanks : Blanks blanks) (first : Bool) (rest : List UInt8) :
    Reads (items inner (fuel + 1) first) (blanks ++ 0x5d :: rest) [] (0x5d :: rest) :=
  (reads_nextItem_of_token (hblanks.token (by decide) rest)).bind (.pure _ _)

lemma reads_items_step {first : Bool} {x : Json} {xs : List Json} (depth : Nat)
    (hnext : Reads (nextItem first) input true (Utf8.bytes (x.writeAt spacing depth) ++ mid))
    (hread : ReadsBack spacing inner x) (hrest : Reads (items inner fuel false) mid xs output) :
    Reads (items inner (fuel + 1) first) input (x.sorted :: xs) output :=
  hnext.bind ((hread depth blanks_nil mid).bind (hrest.bind (.pure _ output)))

/-- The items after the first one are read up to the closing bracket. -/
lemma reads_items (depth : Nat) {xs : List Json} (hplain : ∀ x ∈ xs, x.Plain levels)
    (hread : ∀ x ∈ xs, ReadsBack spacing inner x) (hblanks : Blanks blanks) (rest : List UInt8)
    (hfuel : (Utf8.bytes (writeItems spacing depth xs)).length < fuel) :
    Reads (items inner fuel false)
      (Utf8.bytes (writeItems spacing depth xs) ++ (blanks ++ 0x5d :: rest))
      (sortedItems xs) (0x5d :: rest) := by
  induction xs generalizing fuel with
  | nil =>
    obtain ⟨fuel, rfl⟩ : ∃ n, fuel = n + 1 := ⟨fuel - 1, by omega⟩
    exact reads_items_end hblanks false rest
  | cons x xs ih =>
    obtain ⟨hx, hplain⟩ := List.forall_mem_cons.1 hplain
    obtain ⟨hreadx, hread⟩ := List.forall_mem_cons.1 hread
    -- an item is written with its comma at least, so there is fuel for it
    have hlength := congrArg List.length (bytes_writeItems_cons spacing depth [] x xs)
    simp only [List.append_nil, List.length_cons, List.length_append] at hlength
    obtain ⟨fuel, rfl⟩ : ∃ n, fuel = n + 1 := ⟨fuel - 1, by omega⟩
    rw [bytes_writeItems_cons]
    refine reads_items_step depth ?_ hreadx (ih hplain hread (by omega))
    exact reads_nextItem_of_beginsItem (lead_comma _) (blanks_lineBreak spacing depth)
      (beginsItem_writeAt spacing depth _ hx)

/-- One member is read by `inner` and put under its name. -/
def insertMember (inner : Reader Json) (done : List (String × Json)) (name : String) :
    Reader (List (String × Json)) := do
  colon
  let value ← inner
  pure (Keyed.insert name value done)

lemma reads_members_end (hblanks : Blanks blanks) (first : Bool) (done : List (String × Json))
    (rest : List UInt8) :
    Reads (members (insertMember inner) (fuel + 1) first done) (blanks ++ 0x7d :: rest) done
      (0x7d :: rest) :=
  (reads_nextMember_of_token (hblanks.token (by decide) rest)).bind (.pure _ _)

lemma reads_members_step {first : Bool} {k : String} {v : Json} {done ms : List (String × Json)}
    (depth : Nat)
    (hnext : Reads (nextMember first) input true (Utf8.bytes (textChars k) ++
      (Utf8.bytes spacing.colon ++ (Utf8.bytes (v.writeAt spacing depth) ++ mid))))
    (hread : ReadsBack spacing inner v)
    (hrest : Reads (members (insertMember inner) fuel false (Keyed.insert k v.sorted done)) mid ms
      output) :
    Reads (members (insertMember inner) (fuel + 1) first done) input ms output := by
  rw [bytes_textChars] at hnext
  refine hnext.bind ((reads_advance _ _).bind ((reads_text k _).bind (.bind ?_ hrest)))
  obtain ⟨blanks, hblanks, hcolon⟩ :=
    exists_bytes_colon spacing (Utf8.bytes (v.writeAt spacing depth) ++ mid)
  rw [hcolon]
  exact (reads_colon _).bind ((hread depth hblanks mid).bind (.pure _ mid))

/-- The members after the first one are read up to the closing brace and added in order. -/
lemma reads_members (depth : Nat) {ms done : List (String × Json)}
    (hread : ∀ m ∈ ms, ReadsBack spacing inner m.2) (hblanks : Blanks blanks) (rest : List UInt8)
    (hfuel : (Utf8.bytes (writeMembers spacing depth ms)).length < fuel) :
    Reads (members (insertMember inner) fuel false done)
      (Utf8.bytes (writeMembers spacing depth ms) ++ (blanks ++ 0x7d :: rest))
      (sortedMembers done ms) (0x7d :: rest) := by
  induction ms generalizing fuel done with
  | nil =>
    obtain ⟨fuel, rfl⟩ : ∃ n, fuel = n + 1 := ⟨fuel - 1, by omega⟩
    exact reads_members_end hblanks false done rest
  | cons m ms ih =>
    obtain ⟨k, v⟩ := m
    obtain ⟨hreadv, hread⟩ := List.forall_mem_cons.1 hread
    have hlength := congrArg List.length (bytes_writeMembers_cons spacing depth [] k v ms)
    simp only [List.append_nil, List.length_cons, List.length_append] at hlength
    obtain ⟨fuel, rfl⟩ : ∃ n, fuel = n + 1 := ⟨fuel - 1, by omega⟩
    rw [bytes_writeMembers_cons]
    refine reads_members_step depth ?_ hreadv (ih hread (by omega))
    exact reads_nextMember_textChars k (lead_comma _) (blanks_lineBreak spacing depth)

/-! ### Values -/

/-- What opens no level is read back by every reader of values. -/
lemma readsBack_of_plain_zero (spacing : Spacing) (inner? : Option (Reader Json)) {doc : Json}
    (h : doc.Plain 0) : ReadsBack spacing (valueOver inner?) doc := by
  intro depth blanks hblanks rest
  cases doc with
  | null =>
    show Reads (valueOver inner?) (blanks ++ 0x6e :: ([0x75, 0x6c, 0x6c] ++ rest)) .null rest
    refine .token (hblanks.token (by decide) _) ?_
    exact (reads_advance _ _).bind ((reads_word _ rest).bind (.pure _ rest))
  | bool b =>
    cases b with
    | true =>
      show Reads (valueOver inner?) (blanks ++ 0x74 :: ([0x72, 0x75, 0x65] ++ rest))
        (.bool true) rest
      refine .token (hblanks.token (by decide) _) ?_
      exact (reads_advance _ _).bind ((reads_word _ rest).bind (.pure _ rest))
    | false =>
      show Reads (valueOver inner?) (blanks ++ 0x66 :: ([0x61, 0x6c, 0x73, 0x65] ++ rest))
        (.bool false) rest
      refine .token (hblanks.token (by decide) _) ?_
      exact (reads_advance _ _).bind ((reads_word _ rest).bind (.pure _ rest))
  | str s =>
    rw [writeAt, bytes_textChars]
    refine .token (hblanks.token (by decide) _) ?_
    exact (reads_advance _ _).bind ((reads_text s rest).bind (.pure _ rest))
  | _ => exact h.elim

/-- The bracket that closes a value is passed. -/
lemma reads_close (b : UInt8) (doc : Json) (rest : List UInt8) :
    Reads (do advance; pure doc) (b :: rest) doc rest :=
  (reads_advance b rest).bind (.pure doc rest)

lemma readsBack_arr {xs : List Json} (hplain : ∀ x ∈ xs, x.Plain levels)
    (hread : ∀ x ∈ xs, ReadsBack spacing inner x) :
    ReadsBack spacing (valueOver (some inner)) (arr xs) := by
  intro depth blanks hblanks rest
  cases xs with
  | nil =>
    refine .token (hblanks.token (by decide) (0x5d :: rest)) ?_
    refine (reads_advance _ _).bind ((reads_remaining _).bind ?_)
    exact (reads_items_end blanks_nil true rest).bind (reads_close 0x5d _ rest)
  | cons x xs =>
    obtain ⟨hx, hplain⟩ := List.forall_mem_cons.1 hplain
    obtain ⟨hreadx, hread⟩ := List.forall_mem_cons.1 hread
    rw [bytes_arr_cons]
    refine .token (hblanks.token (by decide) _) ?_
    refine (reads_advance _ _).bind ((reads_remaining _).bind ?_)
    have hlast := blanks_lineBreak spacing depth
    have hfirst := reads_nextItem_of_beginsItem (.first _) (blanks_lineBreak spacing (depth + 1))
      (beginsItem_writeAt spacing (depth + 1) (Utf8.bytes (writeItems spacing (depth + 1) xs) ++
        (Utf8.bytes (spacing.lineBreak depth) ++ 0x5d :: rest)) hx)
    refine Reads.bind (reads_items_step (depth + 1) hfirst hreadx
      (reads_items (depth + 1) hplain hread hlast rest ?_)) (reads_close 0x5d _ rest)
    simp only [List.length_append, List.length_cons]
    omega

lemma readsBack_obj {ms : List (String × Json)}
    (hread : ∀ m ∈ ms, ReadsBack spacing inner m.2) :
    ReadsBack spacing (valueOver (some inner)) (obj ms) := by
  intro depth blanks hblanks rest
  cases ms with
  | nil =>
    refine .token (hblanks.token (by decide) (0x7d :: rest)) ?_
    refine (reads_advance _ _).bind ((reads_remaining _).bind ?_)
    exact (reads_members_end blanks_nil true [] rest).bind (reads_close 0x7d _ rest)
  | cons m ms =>
    obtain ⟨k, v⟩ := m
    obtain ⟨hreadv, hread⟩ := List.forall_mem_cons.1 hread
    rw [bytes_obj_cons]
    refine .token (hblanks.token (by decide) _) ?_
    refine (reads_advance _ _).bind ((reads_remaining _).bind ?_)
    have hlast := blanks_lineBreak spacing depth
    refine Reads.bind (reads_members_step (depth + 1) ?_ hreadv
      (reads_members (depth + 1) hread hlast rest ?_)) (reads_close 0x7d _ rest)
    · exact reads_nextMember_textChars k (.first _) (blanks_lineBreak spacing (depth + 1))
    · simp only [List.length_append, List.length_cons]
      omega

/-- A reader of `levels` levels reads back what has no more. -/
theorem readsBack_value (spacing : Spacing) {doc : Json} (h : doc.Plain levels) :
    ReadsBack spacing (value levels) doc := by
  -- on the levels and not on the document: the reader recurs on them
  induction levels generalizing doc with
  | zero => exact readsBack_of_plain_zero spacing none h
  | succ levels ih =>
    cases doc with
    | arr xs => exact readsBack_arr h fun x hx => ih (h x hx)
    | obj ms => exact readsBack_obj fun m hm => ih (h m hm)
    | num n => exact h.elim
    | _ => exact readsBack_of_plain_zero spacing _ trivial

end Reader

/-! ### Texts of documents -/

/-- The text of a plain document holds the document with its members put into order. -/
theorem parse_write (spacing : Spacing) {doc : Json} (h : doc.Plain maxLevels) :
    parse (Utf8.encode (doc.write spacing)) = .ok doc.sorted := by
  have hbytes : Utf8.encode (doc.write spacing) = Utf8.bytes (doc.writeAt spacing 0) ++ [] := by
    rw [write, Utf8.encode_ofList, List.append_nil]
  have hvalue := Reader.readsBack_value spacing h 0 Grammar.blanks_nil []
  have hfinish : Reader.Reads Reader.finish [] () [] :=
    Reader.recognizes_finish.complete ⟨rfl, rfl⟩
  have hread : Reader.Reads
      (do let found ← Reader.value maxLevels; Reader.finish; return found : Reader Json)
      (Utf8.encode (doc.write spacing)) doc.sorted [] := by
    rw [hbytes]
    exact hvalue.bind (hfinish.bind (.pure doc.sorted []))
  obtain ⟨c, hc, _⟩ := hread (Cursor.start (Utf8.encode (doc.write spacing))) rfl
  rw [parse, StateT.run, hc]

theorem parse_write_of_ordered (spacing : Spacing) {doc : Json} (h : doc.Plain maxLevels)
    (ho : doc.Ordered) : parse (Utf8.encode (doc.write spacing)) = .ok doc := by
  rw [parse_write spacing h, sorted_of_ordered ho]

end StackForm.Json
