import StackForm.Proofs.Json.Field
import StackForm.Proofs.Json.Grammar
import StackForm.Proofs.Json.Reader.Basic

/-!
# Readers of grammars

A reader recognizes a grammar when it gives what the grammar says, and nothing else. That it gives
so much is `Reads`, which composes forwards along the parts of an input. That it gives no more is
`GivesOnly`, whose postcondition speaks of what is given and of what is left; it composes backwards,
from the first step of a reader on.
-/

namespace StackForm.Json.Reader

open Grammar

variable {α β : Type} {p : α → List UInt8 → Prop} {q : β → List UInt8 → Prop}
  {input rest output : List UInt8} {b : UInt8}

/-! ### Nothing else is given -/

/-- Before `input` the reader gives nothing but what has the property, along with what is left. -/
def GivesOnly (r : Reader α) (input : List UInt8) (p : α → List UInt8 → Prop) : Prop :=
  ∀ c a c', c.rest = input → r c = .ok (a, c') → p a c'.rest

namespace GivesOnly

lemma pure {a : α} (h : p a input) : GivesOnly (pure a) input p := by
  rintro c _ _ rfl ⟨rfl⟩
  exact h

lemma fail (fault : Fault) : GivesOnly (fail fault) input p :=
  nofun

lemma failNext (fault : Fault) : GivesOnly (failNext fault) input p :=
  nofun

lemma bind {r : Reader α} {f : α → Reader β}
    (h : GivesOnly r input fun a mid => GivesOnly (f a) mid q) : GivesOnly (r >>= f) input q := by
  intro c b c' hc hread
  have hbind : (r c >>= fun found => f found.1 found.2) = .ok (b, c') := hread
  obtain ⟨⟨a, mid⟩, hr, hf⟩ := bind_eq_ok_iff.1 hbind
  exact h c a mid hc hr mid b c' rfl hf

lemma mono {p' : α → List UInt8 → Prop} {r : Reader α} (h : GivesOnly r input p)
    (hp : ∀ a output, p a output → p' a output) : GivesOnly r input p' :=
  fun c a c' hc hr => hp a c'.rest (h c a c' hc hr)

/-- What was given before does not matter when nothing can be given after it. -/
lemma after (r : Reader α) {f : α → Reader β} (h : ∀ a mid, GivesOnly (f a) mid q) :
    GivesOnly (r >>= f) input q :=
  .bind fun _ a c' _ _ => h a c'.rest

lemma peek {f : Option UInt8 → Reader β} (h : GivesOnly (f input.head?) input q) :
    GivesOnly (peek >>= f) input q := by
  refine .bind ?_
  rintro c _ _ rfl ⟨rfl⟩
  exact h

lemma of_advance {p : Unit → List UInt8 → Prop} (h : p () input.tail) :
    GivesOnly Reader.advance input p := by
  rintro c _ _ rfl ⟨rfl⟩
  rwa [Cursor.rest_step]

lemma advance {f : Unit → Reader β} (h : GivesOnly (f ()) input.tail q) :
    GivesOnly (advance >>= f) input q :=
  .bind (of_advance h)

/-- What can still be read gives fuel to what follows, and is left as it is. -/
lemma remaining {f : Nat → Reader β} (h : ∀ fuel, GivesOnly (f fuel) input q) :
    GivesOnly (remaining >>= f) input q := by
  refine .bind ?_
  rintro c _ _ rfl ⟨rfl⟩
  exact h _

/-- The first token decides how a reader goes on. -/
lemma token {f : Option UInt8 → Reader β} (hnone : trim input = [] → GivesOnly (f none) [] q)
    (hsome : ∀ b rest, Token b input rest → GivesOnly (f (some b)) (b :: rest) q) :
    GivesOnly (peekToken >>= f) input q := by
  refine .bind (.bind ?_)
  rintro c _ _ rfl ⟨rfl⟩
  rw [Cursor.rest_steps_takeWhile]
  rintro c' _ _ hc' ⟨rfl⟩
  rw [hc']
  cases hinput : c.rest.dropWhile isBlankByte with
  | nil => exact hnone hinput
  | cons b rest => exact hsome b rest hinput

end GivesOnly

/-! ### What is given -/

lemma reads_peekToken (input : List UInt8) :
    Reads peekToken input (trim input).head? (trim input) := by
  have hblanks : Reads skipBlanks input () (trim input) := by
    rintro c rfl
    exact ⟨_, rfl, c.rest_steps_takeWhile isBlankByte⟩
  exact hblanks.bind (reads_peek _)

lemma Reads.token {f : Option UInt8 → Reader β} {x : β} (h : Token b input rest)
    (hf : Reads (f (some b)) (b :: rest) x output) : Reads (peekToken >>= f) input x output := by
  have hpeek := reads_peekToken input
  rw [h] at hpeek
  exact hpeek.bind hf

lemma Reads.noToken {f : Option UInt8 → Reader β} {x : β} (h : trim input = [])
    (hf : Reads (f none) [] x output) : Reads (peekToken >>= f) input x output := by
  have hpeek := reads_peekToken input
  rw [h] at hpeek
  exact hpeek.bind hf

/-! ### Recognition -/

/-- The reader gives what the grammar says, and nothing else. -/
structure Recognizes (r : Reader α) (grammar : Grammar α) : Prop where
  sound (input : List UInt8) : GivesOnly r input (grammar input)
  complete {input output : List UInt8} {a : α} : grammar input a output → Reads r input a output

lemma recognizes_finish :
    Recognizes finish fun input _ output => trim input = [] ∧ output = [] where
  sound input := .token (fun htrim => .pure ⟨htrim, rfl⟩) fun _ _ _ => .failNext _
  complete := by
    rintro input _ _ ⟨htrim, rfl⟩
    exact .noToken htrim (.pure _ _)

end StackForm.Json.Reader
