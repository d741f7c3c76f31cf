import StackForm.Proofs.Stack.Failure

/-!
# Where errors are located

An error of loading that is located anywhere is located at a declared field, at an item of one, at a
choice of subnets, at the kind or at the root. None of these lies under the older name of the
profile of a group: what is wrong with a profile is always told under its current name.
-/

namespace StackForm

/-- The path of a profile under its older name. -/
def Cluster.legacyPath : String := groupKey ++ "." ++ legacyProfileKey

namespace StackError

/-- The path at which an error is located, if it is. -/
def path? : StackError → Option String
  | .schemaMismatch path _ => some path
  | .validation path _ _ => some path
  | _ => none

/-- The error is not located under the older name of the profile. -/
def NamesCurrent (e : StackError) : Prop :=
  ∀ path ∈ e.path?, ¬ Cluster.legacyPath.toList <+: path.toList

lemma namesCurrent_of_path {e : StackError} {path : String} (he : e.path? = some path)
    (h : ¬ Cluster.legacyPath.toList <+: path.toList) : e.NamesCurrent := by
  intro path' hpath'
  cases he.symm.trans hpath'
  exact h

lemma namesCurrent_of_none {e : StackError} (he : e.path? = none) : e.NamesCurrent := by
  intro path hpath
  cases he.symm.trans hpath

end StackError

/-- Neither of the path and the older path lies under the other. -/
def Cluster.Apart (path : String) : Prop :=
  ¬ legacyPath.toList <+: path.toList ∧ ¬ path.toList <+: legacyPath.toList

instance (path : String) : Decidable (Cluster.Apart path) :=
  inferInstanceAs (Decidable (_ ∧ _))

/-- What lies under a path that is apart is apart. -/
lemma Cluster.Apart.append {path : String} (h : Apart path) (rest : String) :
    Apart (path ++ rest) := by
  have hrest : path.toList <+: (path ++ rest).toList := by
    rw [String.toList_append]
    exact List.prefix_append _ _
  constructor
  · intro hlegacy
    exact (List.prefix_or_prefix_of_prefix hlegacy hrest).elim h.1 h.2
  · intro hlegacy
    exact h.2 (hrest.trans hlegacy)

namespace Check

/-- All the checks are made at paths that are apart from the older one. -/
def AllApart (checks : List Check) : Prop :=
  ∀ k ∈ checks, Cluster.Apart k.path

variable {path rule : String} {p : Rule}

@[simp] lemma allApart_cons {k : Check} {rest : List Check} :
    AllApart (k :: rest) ↔ Cluster.Apart k.path ∧ AllApart rest :=
  List.forall_mem_cons

@[simp] lemma allApart_nil : AllApart [] :=
  nofun

@[simp] lemma allApart_append {front back : List Check} :
    AllApart (front ++ back) ↔ AllApart front ∧ AllApart back :=
  List.forall_mem_append

lemma allApart_elim {α : Type} {o : Option α} {checks : α → List Check}
    (h : ∀ a, AllApart (checks a)) : AllApart (o.elim [] checks) := by
  cases o with
  | none => exact allApart_nil
  | some a => exact h a

lemma allApart_each (h : Cluster.Apart path) (l : List String) : AllApart (each path rule p l) := by
  intro k hk
  obtain ⟨i, hi, rfl⟩ := List.mem_mapIdx.1 hk
  exact ((h.append "[").append (toString i)).append "]"

lemma allApart_filled (h : Cluster.Apart path) (s : String) : AllApart (filled path s) := by
  simp [filled, h]

lemma allApart_text (h : Cluster.Apart path) (s : String) : AllApart (text path rule p s) := by
  simp [text, filled, h]

lemma allApart_texts (h : Cluster.Apart path) (l : List String) :
    AllApart (texts path rule p l) := by
  simp [texts, h, allApart_each h]

end Check

open Check

lemma Subnets.allApart {path : String} (h : Cluster.Apart path) (s : Subnets) :
    AllApart (s.fieldChecks path) := by
  simp [fieldChecks, h.append, allApart_each (h.append _)]

lemma Policy.allApart (p : Policy) : AllApart p.fieldChecks := by
  rw [fieldChecks, allApart_append]
  exact ⟨allApart_text (by decide) _, allApart_texts (by decide) _⟩

lemma HealthCheck.allApart (c : HealthCheck) : AllApart c.fieldChecks := by
  simp only [fieldChecks, allApart_append, and_assoc]
  exact ⟨allApart_text (by decide) _, allApart_text (by decide) _, allApart_text (by decide) _,
    allApart_text (by decide) _, allApart_text (by decide) _⟩

lemma LoadBalancer.allApart (b : LoadBalancer) : AllApart b.fieldChecks := by
  simp only [fieldChecks, allApart_append, and_assoc]
  exact ⟨allApart_text (by decide) _, b.healthCheck.allApart, b.subnets.allApart (by decide)⟩

lemma MachineGroup.allApart (g : MachineGroup) : AllApart g.fieldChecks := by
  simp only [fieldChecks, allApart_append, and_assoc]
  exact ⟨allApart_filled (by decide) _, allApart_filled (by decide) _,
    g.subnets.allApart (by decide), allApart_elim fun _ => allApart_elim Policy.allApart⟩

namespace Cluster

lemma allApart_checks (c : Cluster) : AllApart c.checks := by
  have hselection : ∀ (s : Subnets) (path : String), Apart path →
      AllApart [s.selectionCheck path] := by
    intro s path h
    exact allApart_cons.2 ⟨h, allApart_nil⟩
  simp only [checks, fieldChecks, allApart_append, and_assoc]
  exact ⟨allApart_text (by decide) _, allApart_text (by decide) _, allApart_text (by decide) _,
    c.group.allApart, allApart_elim LoadBalancer.allApart,
    allApart_elim fun b => hselection b.subnets _ (by decide),
    hselection c.group.subnets _ (by decide)⟩

/-- The table declares nothing under the older name. -/
lemma not_legacyPath_of_mem_constraints :
    ∀ k ∈ constraints, ¬ legacyPath.toList <+: k.path.toList := by
  decide +kernel

end Cluster

/-- An error of loading tells nothing under the older name. -/
theorem StackError.Arises.namesCurrent {e : StackError} (h : e.Arises) : e.NamesCurrent := by
  cases h with
  | kindMismatch => exact namesCurrent_of_path rfl (by decide)
  | rootMismatch _ => exact namesCurrent_of_path rfl (by decide)
  | fieldMismatch hk =>
    exact namesCurrent_of_path rfl (Cluster.not_legacyPath_of_mem_constraints _ hk)
  | @validation c k _ hk => exact namesCurrent_of_path rfl (c.allApart_checks k hk).1
  | _ => exact namesCurrent_of_none rfl

end StackForm
