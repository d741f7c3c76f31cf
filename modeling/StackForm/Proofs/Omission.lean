import StackForm.Proofs.Json.Path
import StackForm.Proofs.Requirement

/-!
# What a table leaves out

A table leaves out the constraints below an optional field that is absent. It hides nothing by that:
an absent value is no object, so no path leads on from it, and all that could be said of what is
left out is that it is missing. A value of the wrong shape, or a text that breaks a rule, is never
passed over.
-/

namespace StackForm

/-! ### Below an absent value -/

namespace Json

/-- Only objects are walked through. -/
lemma resolve?_of_not_isObject {v : Json} (h : v.isObject = false) (path : String) :
    v.resolve? path = none := by
  have hkeys : pathKeys path ≠ [] := by
    simp [pathKeys, Text.split_ne_nil]
  obtain ⟨key, keys, hcons⟩ := List.exists_cons_of_ne_nil hkeys
  rw [resolve?, hcons, at?_cons]
  cases v with
  | obj members => simp [isObject] at h
  | _ => rfl

/-- A path after a dot is walked from where the path before the dot leads. -/
lemma resolve?_dot (doc : Json) (path below : String) :
    doc.resolve? (path ++ "." ++ below) = (doc.resolve? path).bind (·.resolve? below) := by
  rw [String.append_assoc, resolve?, pathKeys_dot, at?_append]
  rfl

lemma Absent.isObject {v : Json} (h : v.Absent) : v.isObject = false := by
  rcases h with rfl | rfl | rfl <;> rfl

lemma AbsentAt.resolve?_dot {doc : Json} {path : String} (h : doc.AbsentAt path) (below : String) :
    doc.resolve? (path ++ "." ++ below) = none := by
  rw [Json.resolve?_dot]
  cases hv : doc.resolve? path with
  | none => rfl
  | some v => exact resolve?_of_not_isObject (h v hv).isObject below

end Json

/-! ### Constraints by themselves -/

/-- The check of a constraint by itself: no other field is looked at. -/
def Constraint.check (k : Constraint) (rules : RuleSet) (doc : Json) : Except RuleError Unit :=
  ConstraintTable.checkOne [] rules doc k

lemma Constraint.check_of_resolve?_eq_none {k : Constraint} {doc : Json} (rules : RuleSet)
    (h : doc.resolve? k.path = none) :
    k.check rules doc = if k.required then .error (.violation k.path "required") else .ok () := by
  have hpresent : doc.present? k.path = none := by
    rw [Json.present?, h]
    rfl
  rw [check, ConstraintTable.checkOne, hpresent]
  rfl

/-- Checking in order, with some items left out, is checking the others in order. -/
lemma forM_ite_eq_forM_filter {α ε : Type} {out : α → Bool} {check : α → Except ε Unit}
    (l : List α) :
    l.forM (fun x => if out x then .ok () else check x) = (l.filter (!out ·)).forM check := by
  induction l with
  | nil => rfl
  | cons x rest ih =>
    rw [List.forM, ih, List.filter_cons]
    cases out x with
    | true => rfl
    | false => rfl

namespace ConstraintTable

variable {table : ConstraintTable} {doc : Json} {k : Constraint}

/-- Validating is checking, each by itself, the constraints that are not left out. -/
lemma validate_eq (table : ConstraintTable) (doc : Json) (rules : RuleSet) :
    table.validate doc rules =
      (table.filter (!table.skips · doc)).forM (Constraint.check · rules doc) :=
  forM_ite_eq_forM_filter table

/-- What is left out is not there. -/
lemma resolve?_of_skips (h : table.skips k doc = true) : doc.resolve? k.path = none := by
  obtain ⟨a, -, -, ⟨rest, hrest⟩, habsent⟩ := skips_eq_true_iff.1 h
  rw [hrest]
  exact habsent.resolve?_dot rest

/-- Leaving out hides nothing. Validating a document is checking those constraints that are not left
out, each by itself; and where a constraint is left out its path leads nowhere, so that by itself it
could only ask for a value that is missing. This rests on two laws of paths: a dot walks on from
where the path before it leads, and the test on bytes, which always has an answer, tells whether one
path continues another after a dot. -/
theorem skips_hides_nothing :
    (∀ (table : ConstraintTable) (doc : Json) (rules : RuleSet), table.validate doc rules =
      (table.filter (!table.skips · doc)).forM (Constraint.check · rules doc)) ∧
    (∀ (table : ConstraintTable) (k : Constraint) (doc : Json), table.skips k doc = true →
      doc.resolve? k.path = none ∧ ∀ rules : RuleSet, k.check rules doc =
        if k.required then .error (.violation k.path "required") else .ok ()) ∧
    (∀ (doc : Json) (p q : String),
      doc.resolve? (p ++ "." ++ q) = (doc.resolve? p).bind (·.resolve? q)) ∧
    ∀ a b : Constraint, a.below? b = some (a.isBelow b) ∧
      (a.isBelow b = true ↔ ∃ q, a.path = b.path ++ "." ++ q) := by
  refine ⟨validate_eq, fun table k doc h => ?_, Json.resolve?_dot, fun a b => ⟨?_, isBelow_iff⟩⟩
  · have hnone := resolve?_of_skips h
    exact ⟨hnone, fun rules => Constraint.check_of_resolve?_eq_none rules hnone⟩
  · rw [Constraint.isBelow, a.below?_eq b, Option.getD_some]

/-- The empty text under `tag` leaves out what is asked of `tag.key`, and not what is asked of
`tagName`, although this path begins like the other. -/
theorem skips_hides_nothing_tagName :
    let key := (Constraint.require "tag.key" .text).withRule "ascii"
    let name := (Constraint.require "tagName" .text).withRule "ascii"
    let table : ConstraintTable := [.allow "tag" .object, key, name]
    let doc : Json := .obj [("tag", .str ""), ("tagName", .str "näme")]
    table.skips key doc = true ∧ doc.resolve? "tag.key" = none ∧
      key.check .standard doc = .error (.violation "tag.key" "required") ∧
      name.isBelow (.allow "tag" .object) = false ∧
      table.validate doc .standard = .error (.violation "tagName" "ascii") := by
  intro key name table doc
  have hskips : table.skips key doc = true := by decide +kernel
  obtain ⟨-, hskipped, -, -⟩ := skips_hides_nothing
  obtain ⟨hnone, hcheck⟩ := hskipped table key doc hskips
  exact ⟨hskips, hnone, hcheck .standard, by decide +kernel, by decide +kernel⟩

end ConstraintTable

end StackForm
