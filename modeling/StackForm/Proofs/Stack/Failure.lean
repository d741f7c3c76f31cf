import StackForm.Proofs.Cluster.Decode
import StackForm.Proofs.Cluster.Validity
import StackForm.Stack.Load

/-!
# How loading fails

Each step of loading has errors of its own, from a source that cannot be read to a failed
validation. `StackError.Arises` lists them, each with the place that it is located at: a shape is
only ever found wrong at a field of the table, at the kind or at the root, and a validation fails
at one of the checks of a cluster. Errors of lookups and of rendering are none of them.
-/

namespace StackForm

/-- An error of one of the steps of loading. -/
def StackError.OfLoading : StackError → Prop
  | .lookupFailure .. => False
  | .render _ => False
  | _ => True

/-- The errors that the steps of loading end with. -/
inductive StackError.Arises : StackError → Prop where
  | sourceUnavailable (path reason : String) : Arises (.sourceUnavailable path reason)
  | malformed (cause : Malformed) : Arises (.malformed cause)
  | missingKind : Arises .missingKind
  | unknownKind (kind : String) (registered : List String) : Arises (.unknownKind kind registered)
  | kindMismatch : Arises (.schemaMismatch "kind" "string")
  | rootMismatch (expected : String) : Arises (.schemaMismatch "<root>" expected)
  | fieldMismatch {k : Constraint} : k ∈ Cluster.constraints →
      Arises (.schemaMismatch k.path k.shape.name)
  | validation {c : Cluster} {k : Check} (detail : String) : k ∈ c.checks →
      Arises (.validation k.path k.rule detail)

namespace StackError

lemma OfLoading.exitCode {e : StackError} (h : e.OfLoading) : 3 ≤ e.exitCode ∧ e.exitCode ≤ 8 := by
  cases e with
  | lookupFailure => exact h.elim
  | render => exact h.elim
  | _ => simp [StackError.exitCode]

lemma Arises.ofLoading {e : StackError} (h : e.Arises) : e.OfLoading := by
  cases h <;> trivial

end StackError

/-! ### Steps that fail -/

/-- If the step fails, then with an error that has the property. -/
def FailsWith (p : StackError → Prop) {α : Type} (x : Except StackError α) : Prop :=
  ∀ e, x = .error e → p e

/-- If the step fails, then with an error of loading. -/
def FailsInLoading {α : Type} (x : Except StackError α) : Prop :=
  ∀ e, x = .error e → e.OfLoading

namespace FailsWith

variable {p : StackError → Prop} {α β : Type}

lemma ok (a : α) : FailsWith p (.ok a : Except StackError α) :=
  nofun

lemma error {e : StackError} (h : p e) : FailsWith p (.error e : Except StackError α) := by
  rintro _ ⟨rfl⟩
  exact h

/-- A chain of steps fails as one of the steps does. -/
lemma bind {x : Except StackError α} {f : α → Except StackError β} (hx : FailsWith p x)
    (hf : ∀ a, FailsWith p (f a)) : FailsWith p (x >>= f) := by
  cases x with
  | ok a => exact hf a
  | error e => exact .error (hx e rfl)

lemma map {x : Except StackError α} (hx : FailsWith p x) (f : α → β) : FailsWith p (x.map f) := by
  cases x with
  | ok a => exact .ok (f a)
  | error e => exact .error (hx e rfl)

lemma mapError {ε : Type} {f : ε → StackError} (h : ∀ e, p (f e)) (x : Except ε α) :
    FailsWith p (x.mapError f) := by
  cases x with
  | ok a => exact .ok a
  | error e => exact .error (h e)

end FailsWith

/-! ### The steps of loading -/

open StackError

lemma Format.arises_of_parse (format : Format) (bytes : List UInt8) :
    FailsWith Arises (format.parse bytes) := by
  cases format with
  | json => exact .mapError (fun e => .malformed (.json e)) _
  | yaml => exact .mapError (fun fault => .malformed (.yaml fault)) _

lemma arises_of_kindOf (doc : Json) : FailsWith Arises (kindOf doc) := by
  cases doc with
  | obj members =>
    rw [kindOf]
    split
    · exact .error .missingKind
    · exact .error .missingKind
    · split
      · exact .error .missingKind
      · exact .ok _
    · exact .error .kindMismatch
  | _ => exact .error (.malformed _)

namespace Cluster

lemma arises_of_currentSpelling (doc : Json) : FailsWith Arises (currentSpelling doc) := by
  rw [currentSpelling_eq]
  split
  · exact .error (.malformed _)
  · exact .ok _

lemma arises_of_schemaCheck {doc : Json} {e : RuleError}
    (h : constraints.schemaCheck doc = .error e) : (ofRule e).Arises := by
  by_cases hobj : doc.isObject = true
  · obtain ⟨before, k, after, htable, -, -, rfl⟩ :=
      (ConstraintTable.schemaCheck_eq_error_iff hobj).1 h
    apply Arises.fieldMismatch
    rw [htable]
    exact List.mem_append_right _ List.mem_cons_self
  · rw [ConstraintTable.schemaCheck, if_neg hobj] at h
    cases h
    exact .rootMismatch _

lemma arises_of_decode (c : Cluster) (doc : Json) : FailsWith Arises (c.decode doc) := by
  refine .bind (arises_of_currentSpelling doc) fun n => ?_
  cases hschema : constraints.schemaCheck n with
  | error e => exact .error (arises_of_schemaCheck hschema)
  | ok u =>
    show FailsWith Arises (decodeOnto c n)
    rw [decodeOnto]
    split
    · exact .ok _
    · exact .error (.rootMismatch _)

lemma arises_of_validate (c : Cluster) : FailsWith Arises c.validate := by
  intro e he
  have hreported := c.reported_validate
  rw [he] at hreported
  obtain ⟨k, hk, detail, rfl⟩ := hreported.exists_of_error
  exact .validation detail hk

end Cluster

namespace StackKinds

variable (kinds : StackKinds)

lemma arises_of_construct (kind : String) : FailsWith Arises (kinds.construct kind) := by
  rw [construct]
  split
  · exact .ok _
  · exact .error (.unknownKind _ _)

lemma arises_of_load (bytes : List UInt8) (format : Format) :
    FailsWith Arises (kinds.load bytes format) := by
  refine .bind (.bind (format.arises_of_parse bytes) fun doc => ?_) fun stack => ?_
  · refine .bind (arises_of_kindOf doc) fun kind => ?_
    refine .bind (kinds.arises_of_construct kind) fun stack => ?_
    obtain ⟨c, rfl⟩ := stack.exists_cluster
    exact .map (c.arises_of_decode doc) _
  · obtain ⟨c, rfl⟩ := stack.exists_cluster
    exact .bind c.arises_of_validate fun _ => .ok _

lemma arises_of_loadFile (path : String) (content : Except String (List UInt8)) :
    FailsWith Arises (kinds.loadFile path content) := by
  cases content with
  | ok bytes => exact kinds.arises_of_load bytes _
  | error reason => exact .error (.sourceUnavailable path reason)

/-- Loading a file fails with an error of loading only, whatever the file holds. -/
theorem failsInLoading_loadFile (path : String) (content : Except String (List UInt8)) :
    FailsInLoading (kinds.loadFile path content) :=
  fun e he => (kinds.arises_of_loadFile path content e he).ofLoading

end StackKinds

end StackForm
