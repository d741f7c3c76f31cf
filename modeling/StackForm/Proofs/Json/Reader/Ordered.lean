import StackForm.Json.Reader.Document
import StackForm.Proofs.Json.Field
import Mathlib.Tactic.SplitIfs

/-!
# Documents are read in order

Whatever the bytes are, a document that is read from them is ordered: every member is put in the
place of its name. `Ensures` says what a reader's results have in common, and composes like the
readers.
-/

namespace StackForm.Json

namespace Reader

/-- Every result of the reader has the property. -/
def Ensures {α : Type} (p : α → Prop) (reader : Reader α) : Prop :=
  ∀ c a c', reader c = .ok (a, c') → p a

variable {α β : Type} {p : α → Prop} {q : β → Prop}

lemma Ensures.pure {a : α} (h : p a) : Ensures p (pure a) := by
  rintro c _ _ ⟨rfl⟩
  exact h

lemma Ensures.bind {x : Reader α} {f : α → Reader β} (hx : Ensures p x)
    (hf : ∀ a, p a → Ensures q (f a)) : Ensures q (x >>= f) := by
  intro c b c' h
  have hbind : (x c >>= fun r => f r.1 r.2) = .ok (b, c') := h
  obtain ⟨⟨a, c₁⟩, hxc, hfc⟩ := bind_eq_ok_iff.1 hbind
  exact hf a (hx c a c₁ hxc) c₁ b c' hfc

/-- What comes first can give anything. -/
lemma Ensures.after (x : Reader α) {f : α → Reader β} (hf : ∀ a, Ensures q (f a)) :
    Ensures q (x >>= f) :=
  .bind (fun _ _ _ _ => trivial : Ensures (fun _ => True) x) fun a _ => hf a

lemma Ensures.failNext (fault : Fault) : Ensures p (failNext fault) :=
  nofun

/-! ### Lists and objects -/

lemma ensures_items {item : Reader α} (h : Ensures p item) (fuel : Nat) (first : Bool) :
    Ensures (fun xs => ∀ x ∈ xs, p x) (items item fuel first) := by
  induction fuel generalizing first with
  | zero => exact .failNext _
  | succ fuel ih =>
    refine .after _ fun more => ?_
    cases more with
    | false => exact .pure nofun
    | true =>
      refine .bind h fun x hx => .bind (ih false) fun xs hxs => ?_
      exact .pure (List.forall_mem_cons.2 ⟨hx, hxs⟩)

lemma ensures_members {member : α → String → Reader α}
    (h : ∀ state name, p state → Ensures p (member state name)) (fuel : Nat) (first : Bool)
    {state : α} (hstate : p state) : Ensures p (members member fuel first state) := by
  induction fuel generalizing first state with
  | zero => exact .failNext _
  | succ fuel ih =>
    refine .after _ fun more => ?_
    cases more with
    | false => exact .pure hstate
    | true =>
      refine .after _ fun _ => .after _ fun name => ?_
      exact .bind (h state name hstate) fun state' hstate' => ih false hstate'

/-! ### Values -/

/-- A member is put in its place among the members so far. -/
lemma ensures_ordered_member {inner : Reader Json} (h : Ensures Ordered inner)
    {done : List (String × Json)} (name : String) (hdone : (obj done).Ordered) :
    Ensures (fun members => (obj members).Ordered) (do
      colon
      let value ← inner
      pure (Keyed.insert name value done)) := by
  refine .after _ fun _ => .bind h fun value hvalue => .pure ?_
  exact ⟨hdone.1.insert name value, everyMember_insert hvalue hdone.2⟩

lemma ensures_ordered_valueOver {inner? : Option (Reader Json)}
    (h : ∀ inner ∈ inner?, Ensures Ordered inner) : Ensures Ordered (valueOver inner?) := by
  refine .after _ fun next => ?_
  cases next with
  | none => exact .failNext _
  | some b =>
    -- one case for each byte that a value can begin with
    dsimp only
    split_ifs
    · exact .after _ fun _ => .after _ fun _ => .pure trivial
    · exact .after _ fun _ => .after _ fun _ => .pure trivial
    · exact .after _ fun _ => .after _ fun _ => .pure trivial
    · exact .after _ fun _ => .after _ fun _ => .pure trivial
    · exact .after _ fun _ => .pure trivial
    · exact .after _ fun _ => .after _ fun _ => .pure trivial
    · cases inner? with
      | none => exact .failNext _
      | some inner =>
        refine .after _ fun _ => .after _ fun fuel => ?_
        refine .bind (ensures_items (h inner rfl) fuel true) fun xs hxs => ?_
        exact .after _ fun _ => .pure (everyItem_iff.2 hxs)
    · cases inner? with
      | none => exact .failNext _
      | some inner =>
        refine .after _ fun _ => .after _ fun fuel => ?_
        refine .bind (ensures_members (fun _ name => ensures_ordered_member (h inner rfl) name)
          fuel true ⟨.nil, trivial⟩) fun members hmembers => ?_
        exact .after _ fun _ => .pure hmembers
    · exact .failNext _

lemma ensures_ordered_value (levels : Nat) : Ensures Ordered (value levels) := by
  induction levels with
  | zero => exact ensures_ordered_valueOver nofun
  | succ levels ih =>
    refine ensures_ordered_valueOver ?_
    rintro _ ⟨rfl⟩
    exact ih

end Reader

/-- A document that is read from bytes is ordered. -/
theorem ordered_of_parse {bytes : List UInt8} {doc : Json} (h : parse bytes = .ok doc) :
    doc.Ordered := by
  have hensures : Reader.Ensures Ordered (do
      let doc ← Reader.value maxLevels
      Reader.finish
      return doc : Reader Json) :=
    .bind (Reader.ensures_ordered_value maxLevels) fun doc hdoc => .after _ fun _ => .pure hdoc
  rw [parse] at h
  split at h
  · next hread =>
    cases h
    exact hensures _ _ _ hread
  · cases h

end StackForm.Json
