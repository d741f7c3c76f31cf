import StackForm.Lookup.Query
import StackForm.Proofs.Json.Tidy

/-!
# What a query tells

The tag and the network stand in one argument as a document, which is read back whatever characters
they hold. Every other argument is the name of an option or the value after it, so the arguments
tell the tag, the network, the region and the profile that they were made from.
-/

namespace StackForm

open Json

/-! ### The document -/

lemma tidy_filter (levels : Nat) (name value : String) :
    (Json.filter name value).Tidy (levels + 2) := by
  refine tidy_obj (.of_keys ["Name", "Values"] rfl (by decide)) ?_
  rw [List.forall_mem_cons, List.forall_mem_singleton]
  exact ⟨tidy_str _ name, tidy_strings _ [value]⟩

lemma tidy_subnetFilters (levels : Nat) (tag scope : String) :
    (subnetFilters tag scope).Tidy (levels + 3) := by
  refine tidy_arr ?_
  rw [List.forall_mem_cons, List.forall_mem_singleton]
  exact ⟨tidy_filter levels "tag-key" tag, tidy_filter levels "vpc-id" scope⟩

/-- The argument that holds the conditions is read back. -/
lemma parse_subnetFilters (tag scope : String) :
    parse (Utf8.encode (subnetFilters tag scope).compact) = .ok (subnetFilters tag scope) :=
  parse_write_of_ordered .compact (tidy_subnetFilters _ tag scope).plain
    (tidy_subnetFilters 0 tag scope).ordered

lemma subnetFilters_inj {tag tag' scope scope' : String} :
    subnetFilters tag scope = subnetFilters tag' scope' ↔ tag = tag' ∧ scope = scope' := by
  simp [subnetFilters, Json.filter, strings]

/-- What is read back was written. -/
lemma compact_subnetFilters_inj {tag tag' scope scope' : String} :
    (subnetFilters tag scope).compact = (subnetFilters tag' scope').compact ↔
      tag = tag' ∧ scope = scope' := by
  constructor
  · intro h
    have hparse := parse_subnetFilters tag scope
    rw [h, parse_subnetFilters tag' scope'] at hparse
    exact subnetFilters_inj.1 (Except.ok.inj hparse).symm
  · rintro ⟨rfl, rfl⟩
    rfl

/-! ### The arguments -/

namespace LookupConfig

/-- The options come in a fixed order and the value of each follows its name, so a value that looks
like an option is none. -/
lemma optionArguments_inj {region region' profile profile' : Option String} :
    optionArguments "--region" region ++ optionArguments "--profile" profile =
        optionArguments "--region" region' ++ optionArguments "--profile" profile' ↔
      region = region' ∧ profile = profile' := by
  cases region <;> cases region' <;> cases profile <;> cases profile' <;> simp [optionArguments]

/-- The sixth argument is a document of the tag and the network, and the arguments of two queries
are the same only if the two agree on the tag, the network, the region and the profile. -/
theorem arguments_faithful (c : LookupConfig) (tag scope : String) :
    (∃ text, (c.arguments tag scope)[5]? = some text ∧
      parse (Utf8.encode text) = .ok (.arr [
        .obj [("Name", .str "tag-key"), ("Values", .arr [.str tag])],
        .obj [("Name", .str "vpc-id"), ("Values", .arr [.str scope])]])) ∧
    ∀ (c' : LookupConfig) (tag' scope' : String),
      c.arguments tag scope = c'.arguments tag' scope' ↔
        tag = tag' ∧ scope = scope' ∧ c.region = c'.region ∧ c.profile = c'.profile := by
  refine ⟨⟨_, rfl, parse_subnetFilters tag scope⟩, fun c' tag' scope' => ?_⟩
  have hparts : c.arguments tag scope = c'.arguments tag' scope' ↔
      (subnetFilters tag scope).compact = (subnetFilters tag' scope').compact ∧
        optionArguments "--region" c.region ++ optionArguments "--profile" c.profile =
          optionArguments "--region" c'.region ++ optionArguments "--profile" c'.profile := by
    simp [arguments]
  rw [hparts, compact_subnetFilters_inj, optionArguments_inj, and_assoc]

end LookupConfig

end StackForm
