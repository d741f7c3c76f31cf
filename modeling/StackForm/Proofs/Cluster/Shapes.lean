import StackForm.Proofs.Cluster.Saved
import StackForm.Proofs.Nesting
import StackForm.Proofs.Omission
import StackForm.Proofs.Stack.Failure

/-!
# Shapes are judged once

Two checks look at the shapes of the fields of a table. To the first one null alone is absent, and
it looks at every field; to the second one the empty text and the empty list are absent too, and it
leaves out what lies below an absent field. What has passed the first is never found misshapen by
the second, and of what the second passes the first can only find fault with the texts and lists
that are absent to the second alone. A cluster written as a document passes the first check, so that
its validation never ends with a shape.
-/

namespace StackForm

variable {table : ConstraintTable} {rules : RuleSet} {doc : Json} {k : Constraint}

/-! ### One constraint -/

lemma Constraint.Fault.misshapen_of_shapeMismatch {path expected : String}
    (h : k.Fault rules doc (.shapeMismatch path expected)) : k.Misshapen doc := by
  have hcomplaint : ∀ {rule at' : String},
      RuleError.shapeMismatch path expected ≠ rules.complaint rule at' := by
    intro rule at' h
    rw [RuleSet.complaint] at h
    split at h <;> cases h
  generalize he : RuleError.shapeMismatch path expected = e at h
  cases h with
  | missing hrequired habsent => cases he
  | @misshapen v hv hthere hshape =>
    have hnull : v ≠ .null := fun hnull => hthere (.inl hnull)
    have hmatch : ¬ k.shape.isMatch v = true := fun h => hshape (Shape.isMatch_iff.1 h)
    exact ⟨v, hv, hnull, Bool.eq_false_iff.2 hmatch⟩
  | text hv hthere hshape hrule hs => exact absurd he hcomplaint
  | item hv hshape hrule hfront hs => exact absurd he hcomplaint

/-! ### Tables -/

namespace ConstraintTable

lemma not_misshapen_of_schemaCheck (h : table.schemaCheck doc = .ok ()) (hk : k ∈ table) :
    ¬ k.Misshapen doc :=
  Constraint.not_misshapen_iff.2 ((schemaCheck_eq_ok_iff.1 h).2 k hk)

lemma validate_ne_shapeMismatch (h : table.schemaCheck doc = .ok ()) (rules : RuleSet)
    (path expected : String) :
    table.validate doc rules ≠ .error (.shapeMismatch path expected) := by
  intro herror
  obtain ⟨k, hk, hfault, -⟩ := exists_fault_of_error herror
  exact not_misshapen_of_schemaCheck h hk hfault.misshapen_of_shapeMismatch

/-- What is met and misshapen is there, but counts as absent. -/
lemma Meets.of_misshapen (h : table.Meets rules doc k) (hk : k.Misshapen doc) :
    k.required = false ∧
      (doc.resolve? k.path = some (.str "") ∨ doc.resolve? k.path = some (.arr [])) := by
  obtain ⟨v, hv, hnull, hmatch⟩ := hk
  cases h with
  | excused ha hoptional hbelow habsent =>
    rw [hbelow, habsent.resolve?_dot] at hv
    cases hv
  | absent hoptional habsent =>
    rw [hv, Option.some.injEq, Option.some.injEq]
    exact ⟨hoptional, (habsent v hv).resolve_left hnull⟩
  | @present w hw hthere hshape hrule =>
    rw [hv, Option.some.injEq] at hw
    rw [hw, Shape.isMatch_iff.2 hshape] at hmatch
    cases hmatch

lemma meets_of_validate (h : table.validate doc rules = .ok ()) (hk : k ∈ table) :
    table.Meets rules doc k :=
  checkOne_eq_ok_iff.1 (forM_eq_ok_iff.1 h k hk)

end ConstraintTable

/-! ### Clusters -/

namespace StackError

/-- The error is another one than that a shape is wrong. -/
def ShapeFree : StackError → Prop
  | .schemaMismatch .. => False
  | _ => True

lemma shapeFree_ofRule {e : RuleError} (h : ∀ path expected, e ≠ .shapeMismatch path expected) :
    (ofRule e).ShapeFree := by
  cases e with
  | shapeMismatch path expected => exact absurd rfl (h path expected)
  | _ => trivial

end StackError

open StackError

lemma Subnets.shapeFree_of_checkSelection (s : Subnets) (place : String) :
    FailsWith ShapeFree (s.checkSelection place) := by
  rw [checkSelection]
  split
  · exact .ok ()
  · exact .ok ()
  · exact .error trivial
  · exact .error trivial

namespace Cluster

lemma schemaCheck_toDocument (c : Cluster) : constraints.schemaCheck c.toDocument = .ok () :=
  schemaCheck_iff_shaped.2 ⟨rfl, c.shown_toDocument.shaped⟩

lemma shapeFree_of_validateWith (c : Cluster) (rules : RuleSet) :
    FailsWith ShapeFree (c.validateWith rules) := by
  rw [validateWith_eq]
  refine .bind ?table fun _ => .bind ?balancer fun _ => c.group.subnets.shapeFree_of_checkSelection _
  case table =>
    have hnever := ConstraintTable.validate_ne_shapeMismatch c.schemaCheck_toDocument rules
    cases hvalidate : constraints.validate c.toDocument rules with
    | ok u => exact .ok u
    | error e =>
      refine .error (shapeFree_ofRule fun path expected he => hnever path expected ?_)
      rw [hvalidate, he]
  case balancer =>
    cases c.balancer with
    | none => exact .ok ()
    | some b => exact b.subnets.shapeFree_of_checkSelection _

/-- The two checks of a table agree on shapes. Where the first one passes a document, the second
one reports no shape; where the second one passes it, a field that the first one would refuse is
optional and holds the empty text or the empty list. The document of a cluster passes the first
check, so that no validation of a cluster, by whatever rules, ends with a shape. -/
theorem shapes_agree :
    (∀ (table : ConstraintTable) (doc : Json) (rules : RuleSet), table.schemaCheck doc = .ok () →
      ∀ path expected, table.validate doc rules ≠ .error (.shapeMismatch path expected)) ∧
    (∀ (table : ConstraintTable) (doc : Json) (rules : RuleSet),
      table.validate doc rules = .ok () → ∀ k ∈ table, k.Misshapen doc → k.required = false ∧
        (doc.resolve? k.path = some (.str "") ∨ doc.resolve? k.path = some (.arr []))) ∧
    ∀ c : Cluster, constraints.schemaCheck c.toDocument = .ok () ∧
      ∀ (rules : RuleSet) (path expected : String),
        c.validateWith rules ≠ .error (.schemaMismatch path expected) := by
  refine ⟨fun table doc rules h => ConstraintTable.validate_ne_shapeMismatch h rules,
    fun table doc rules h k hk hmisshapen => ?_, fun c => ?_⟩
  · exact (ConstraintTable.meets_of_validate h hk).of_misshapen hmisshapen
  · exact ⟨c.schemaCheck_toDocument, fun rules _ _ => c.shapeFree_of_validateWith rules _⟩

/-- An identifier that breaks its rule is no matter of shapes. An empty text where an object may
stand is one to the first check alone. -/
theorem shapes_agree_tag :
    let tag : Constraint := .allow "tag" .object
    let table : ConstraintTable := [tag, (Constraint.require "ids" .texts).withRule "ascii"]
    let unruly : Json := .obj [("ids", .strings ["sn-1", "sn-ä"])]
    let empty : Json := .obj [("ids", .strings ["sn-1"]), ("tag", .str "")]
    table.validate unruly .standard = .error (.violation "ids[1]" "ascii") ∧
      (∀ path expected, table.validate unruly .standard ≠ .error (.shapeMismatch path expected)) ∧
      table.schemaCheck empty = .error (.shapeMismatch "tag" "object") ∧
      table.validate empty .standard = .ok () ∧ tag.required = false ∧
      empty.resolve? "tag" = some (.str "") := by
  intro tag table unruly empty
  have hschema : table.schemaCheck unruly = .ok () := by decide +kernel
  have hvalid : table.validate empty .standard = .ok () := by decide +kernel
  have hvalue : empty.resolve? "tag" = some (.str "") := by decide +kernel
  have hmisshapen : tag.Misshapen empty := ⟨_, hvalue, nofun, rfl⟩
  obtain ⟨hnever, honly, -⟩ := shapes_agree
  obtain ⟨hoptional, -⟩ := honly table empty .standard hvalid tag List.mem_cons_self hmisshapen
  exact ⟨by decide +kernel, hnever table unruly .standard hschema, by decide +kernel, hvalid,
    hoptional, hvalue⟩

end Cluster

end StackForm
