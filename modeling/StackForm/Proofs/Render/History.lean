import StackForm.Proofs.Render.Text
import Mathlib.Data.List.Forall2

/-!
# Histories of templates

Whoever builds a template declares resources and sets outputs, one after the other. Of the resources
under a name the first one stays, and every later one is refused without touching the template; of
the outputs under a name the last one stays. So only the order of the operations on one name
matters: any other rearrangement builds the same template, with the same text.
-/

namespace StackForm

/-! ### Repeated keys -/

namespace KeyMap

variable {α : Type} {map : KeyMap α} {pairs pairs' : List (String × α)}

/-- Under distinct keys the order of the pairs does not matter. -/
lemma ofList_eq_of_perm (hdistinct : (Keyed.keys pairs).Nodup) (hperm : pairs'.Perm pairs) :
    ofList pairs' = ofList pairs := by
  have hkeys : (Keyed.keys pairs').Perm (Keyed.keys pairs) := hperm.map _
  apply eq_of_get?
  intro key
  by_cases hkey : key ∈ Keyed.keys pairs
  · obtain ⟨⟨_, value⟩, hmem, rfl⟩ := List.mem_map.1 hkey
    rw [get?_ofList_of_mem hdistinct hmem,
      get?_ofList_of_mem (hkeys.nodup_iff.2 hdistinct) (hperm.mem_iff.2 hmem)]
  · have hkey' : key ∉ Keyed.keys pairs' := fun h => hkey (hkeys.mem_iff.1 h)
    rw [ofList, ofList, get?_foldl_insert_of_notMem hkey, get?_foldl_insert_of_notMem hkey']

end KeyMap

lemma Resource.type_withProperties (type : String) (properties : List (String × Json)) :
    (withProperties type properties).type = type := by
  have hfold : ∀ r : Resource,
      (properties.foldl (fun r p => r.property p.1 p.2) r).type = r.type := by
    induction properties with
    | nil => exact fun r => rfl
    | cons p rest ih => exact fun r => ih (r.property p.1 p.2)
  exact hfold (ofType type)

lemma Resource.withProperties_eq_of_perm {type : String}
    {properties properties' : List (String × Json)} (hdistinct : (Keyed.keys properties).Nodup)
    (hperm : properties'.Perm properties) :
    withProperties type properties' = withProperties type properties := by
  have hproperties : (withProperties type properties').properties =
      (withProperties type properties).properties := by
    rw [properties_withProperties, properties_withProperties,
      KeyMap.ofList_eq_of_perm hdistinct hperm]
  have htype : (withProperties type properties').type = (withProperties type properties).type := by
    rw [type_withProperties, type_withProperties]
  exact Resource.mk.injEq .. ▸ ⟨htype, hproperties⟩

namespace Template

/-! ### Operations -/

/-- An operation of whoever builds a template. A resource is given by its type and its properties,
which are set one after the other. -/
inductive Operation where
  | addResource (name type : String) (properties : List (String × Json))
  | addOutput (name : String) (output : Output)

/-- What an operation is about; resources and outputs do not share their names. -/
inductive Target where
  | resource (name : String)
  | output (name : String)
  deriving DecidableEq

namespace Operation

def target : Operation → Target
  | addResource name _ _ => .resource name
  | addOutput name _ => .output name

/-- The resource that an operation declares, under its name. -/
def resource? : Operation → Option (String × Resource)
  | addResource name type properties => some (name, .withProperties type properties)
  | addOutput _ _ => none

/-- The output that an operation sets, under its name. -/
def output? : Operation → Option (String × Output)
  | addResource _ _ _ => none
  | addOutput name output => some (name, output)

/-- The operation as a step on the template at hand. -/
def step : Operation → ExceptT StackError (StateM Template) Unit
  | addResource name type properties => declare name (.withProperties type properties)
  | addOutput name output => modify (·.addOutput name output)

/-- Perform an operation: the template that its step leaves, and the answer. -/
def perform (t : Template) (op : Operation) : Template × Except StackError Unit :=
  ((op.step.run.run t).2, (op.step.run.run t).1)

end Operation

/-- The template after the operations, whatever they are answered. -/
def after (t : Template) (ops : List Operation) : Template :=
  ops.foldl (fun t op => (op.perform t).1) t

/-- The resources that the operations declare, in their order. -/
def declared (ops : List Operation) : List (String × Resource) :=
  ops.filterMap Operation.resource?

/-- The outputs that the operations set, in their order. -/
def reported (ops : List Operation) : List (String × Output) :=
  ops.filterMap Operation.output?

/-! ### One operation -/

variable {t : Template}

/-- A resource under a name that is taken is refused, and nothing else happens. -/
lemma perform_of_contains {name type : String} {properties : List (String × Json)}
    (h : t.resources.contains name = true) :
    (Operation.addResource name type properties).perform t =
      (t, .error (.render ("duplicate resource '" ++ name ++ "'"))) := by
  rw [Operation.perform, Operation.step, run_declare, if_pos h]

lemma perform_of_not_contains {name type : String} {properties : List (String × Json)}
    (h : t.resources.contains name = false) :
    (Operation.addResource name type properties).perform t =
      ({ t with resources := t.resources.insert name (.withProperties type properties) },
        .ok ()) := by
  rw [Operation.perform, Operation.step, run_declare, h]
  rfl

/-- A step that is refused leaves the template as it is. -/
theorem perform_of_error {op : Operation} {e : StackError} (h : (op.perform t).2 = .error e) :
    op.perform t = (t, .error e) := by
  cases op with
  | addOutput name output => cases h
  | addResource name type properties =>
    cases hc : t.resources.contains name with
    | true =>
      rw [perform_of_contains hc] at h ⊢
      exact congrArg (Prod.mk t) h
    | false =>
      rw [perform_of_not_contains hc] at h
      cases h

/-- The map with one more resource, unless its name is taken. -/
def keepFirst (map : KeyMap Resource) (r : String × Resource) : KeyMap Resource :=
  if map.contains r.1 then map else map.insert r.1 r.2

/-- What an operation makes of the template, whether it is refused or not. -/
lemma perform_fst (t : Template) (op : Operation) :
    (op.perform t).1 = { t with
      resources := (declared [op]).foldl keepFirst t.resources
      outputs := (reported [op]).foldl (fun map o => map.insert o.1 o.2) t.outputs } := by
  cases op with
  | addOutput name output => rfl
  | addResource name type properties =>
    show _ = { t with resources := keepFirst t.resources (name, .withProperties type properties) }
    rw [keepFirst]
    cases hc : t.resources.contains name with
    | true =>
      rw [perform_of_contains hc]
      rfl
    | false =>
      rw [perform_of_not_contains hc]
      rfl

/-- What is there stays; otherwise the new resource is there. -/
lemma get?_keepFirst (map : KeyMap Resource) (r : String × Resource) (name : String) :
    (keepFirst map r).get? name = (map.get? name).or (if name = r.1 then some r.2 else none) := by
  rw [keepFirst]
  by_cases hname : name = r.1
  · subst hname
    cases hget : map.get? r.1 with
    | none => simp [KeyMap.contains, hget]
    | some first => simp [KeyMap.contains, hget]
  · cases map.contains r.1 <;> simp [KeyMap.get?_insert, hname]

lemma get?_foldl_keepFirst (map : KeyMap Resource) (resources : List (String × Resource))
    (name : String) :
    (resources.foldl keepFirst map).get? name = (map.get? name).or (resources.lookup name) := by
  induction resources generalizing map with
  | nil => exact (Option.or_none).symm
  | cons r rest ih =>
    rw [List.foldl_cons, ih, get?_keepFirst, Option.or_assoc, Keyed.lookup_cons]
    split <;> rfl

/-! ### Whole histories -/

lemma after_cons (t : Template) (op : Operation) (ops : List Operation) :
    t.after (op :: ops) = (op.perform t).1.after ops :=
  rfl

lemma declared_cons (op : Operation) (ops : List Operation) :
    declared (op :: ops) = declared [op] ++ declared ops :=
  List.filterMap_append (l := [op])

lemma reported_cons (op : Operation) (ops : List Operation) :
    reported (op :: ops) = reported [op] ++ reported ops :=
  List.filterMap_append (l := [op])

/-- What the operations make of the template: the version and the description are not touched. -/
lemma after_eq_foldl (t : Template) (ops : List Operation) :
    t.after ops = { t with
      resources := (declared ops).foldl keepFirst t.resources
      outputs := (reported ops).foldl (fun map o => map.insert o.1 o.2) t.outputs } := by
  induction ops generalizing t with
  | nil => rfl
  | cons op ops ih =>
    rw [after_cons, ih, perform_fst, declared_cons op ops, reported_cons op ops, List.foldl_append,
      List.foldl_append]

/-- Of the resources under a name the first one stays. -/
lemma resource?_empty_after (ops : List Operation) (name : String) :
    (empty.after ops).resource? name = (declared ops).lookup name := by
  rw [after_eq_foldl]
  exact get?_foldl_keepFirst .empty (declared ops) name

/-- Of the outputs under a name the last one stays. -/
lemma output_empty_after (ops : List Operation) (name : String) :
    (empty.after ops).outputs.get? name = (reported ops).reverse.lookup name := by
  rw [after_eq_foldl]
  show KeyMap.get? (List.foldl _ _ _) name = _
  rw [KeyMap.get?_foldl_insert]
  exact Option.or_none

/-! ### Rearranged histories -/

/-- The operations are the same, up to the order of properties with distinct names. -/
inductive Operation.Alike : Operation → Operation → Prop where
  | refl (op : Operation) : Alike op op
  | properties {name type : String} {properties properties' : List (String × Json)}
      (hdistinct : (Keyed.keys properties).Nodup) (hperm : properties'.Perm properties) :
      Alike (.addResource name type properties) (.addResource name type properties')

/-- The operations in another order, those on one resource or output in the same order. -/
structure Reordered (ops ops' : List Operation) : Prop where
  perm : ops'.Perm ops
  order : ∀ target : Target,
    ops'.filter (fun op => op.target = target) = ops.filter (fun op => op.target = target)

/-- The operations in another order, those on one resource or output in the same order, and the
properties of each resource in some order of their own. -/
def Rearranged (ops ops' : List Operation) : Prop :=
  ∃ mid, Reordered ops mid ∧ List.Forall₂ Operation.Alike mid ops'

/-- Two operations in a row on different resources or outputs may change places. -/
lemma Reordered.swap {a b : Operation} (h : a.target ≠ b.target) (front back : List Operation) :
    Reordered (front ++ a :: b :: back) (front ++ b :: a :: back) where
  perm := (List.Perm.swap a b back).append_left front
  order := by
    intro target
    rw [List.filter_append, List.filter_append]
    by_cases ha : a.target = target
    · have hb : b.target ≠ target := fun hb => h (ha.trans hb.symm)
      simp [ha, hb]
    · simp [List.filter_cons, ha]

lemma Operation.Alike.resource?_eq {op op' : Operation} (h : op.Alike op') :
    op'.resource? = op.resource? := by
  cases h with
  | refl => rfl
  | properties hdistinct hperm =>
    rw [resource?, resource?, Resource.withProperties_eq_of_perm hdistinct hperm]

lemma Operation.Alike.output?_eq {op op' : Operation} (h : op.Alike op') :
    op'.output? = op.output? := by
  cases h <;> rfl

lemma declared_eq_of_alike {ops ops' : List Operation} (h : List.Forall₂ Operation.Alike ops ops') :
    declared ops' = declared ops := by
  induction h with
  | nil => rfl
  | cons hop _ ih => simp only [declared, List.filterMap_cons, hop.resource?_eq] at ih ⊢; rw [ih]

lemma reported_eq_of_alike {ops ops' : List Operation} (h : List.Forall₂ Operation.Alike ops ops') :
    reported ops' = reported ops := by
  induction h with
  | nil => rfl
  | cons hop _ ih => simp only [reported, List.filterMap_cons, hop.output?_eq] at ih ⊢; rw [ih]

/-- What stands first under a name is told by the operations on that name. -/
lemma lookup_filterMap_filter {α : Type} {f : Operation → Option (String × α)}
    {targetOf : String → Target} (hf : ∀ op k v, f op = some (k, v) → op.target = targetOf k)
    (ops : List Operation) (name : String) :
    ((ops.filter fun op => op.target = targetOf name).filterMap f).lookup name =
      (ops.filterMap f).lookup name := by
  induction ops with
  | nil => rfl
  | cons op ops ih =>
    by_cases hop : op.target = targetOf name
    · rw [List.filter_cons_of_pos (by simpa using hop), List.filterMap_cons, List.filterMap_cons]
      cases hfop : f op with
      | none => exact ih
      | some e => rw [Keyed.lookup_cons, Keyed.lookup_cons, ih]
    · rw [List.filter_cons_of_neg (by simpa using hop), ih, List.filterMap_cons]
      cases hfop : f op with
      | none => rfl
      | some e =>
        have hne : name ≠ e.1 := fun heq => hop (heq ▸ hf op e.1 e.2 hfop)
        rw [Keyed.lookup_cons, if_neg hne]

lemma target_of_resource? (op : Operation) (name : String) (r : Resource)
    (h : op.resource? = some (name, r)) : op.target = .resource name := by
  cases op with
  | addResource other type properties =>
    cases h
    rfl
  | addOutput other output => cases h

lemma target_of_output? (op : Operation) (name : String) (o : Output)
    (h : op.output? = some (name, o)) : op.target = .output name := by
  cases op with
  | addResource other type properties => cases h
  | addOutput other output =>
    cases h
    rfl

lemma Reordered.lookup_declared {ops ops' : List Operation} (h : Reordered ops ops')
    (name : String) : (declared ops').lookup name = (declared ops).lookup name := by
  rw [declared, ← lookup_filterMap_filter target_of_resource?, h.order,
    lookup_filterMap_filter target_of_resource?, declared]

lemma Reordered.lookup_reported {ops ops' : List Operation} (h : Reordered ops ops')
    (name : String) :
    (reported ops').reverse.lookup name = (reported ops).reverse.lookup name := by
  simp only [reported, ← List.filterMap_reverse]
  rw [← lookup_filterMap_filter target_of_output?, List.filter_reverse, h.order,
    ← List.filter_reverse, lookup_filterMap_filter target_of_output?]

/-- A rearranged history builds the same template. -/
lemma Rearranged.after_eq {ops ops' : List Operation} (h : Rearranged ops ops') :
    empty.after ops' = empty.after ops := by
  obtain ⟨mid, hmid, halike⟩ := h
  apply eq_of_resource?
  · rw [after_eq_foldl, after_eq_foldl]
  · rw [after_eq_foldl, after_eq_foldl]
  · intro name
    rw [resource?_empty_after, resource?_empty_after, declared_eq_of_alike halike,
      hmid.lookup_declared]
  · intro name
    rw [output_empty_after, output_empty_after, reported_eq_of_alike halike, hmid.lookup_reported]

/-! ### The law of histories -/

lemma contains_empty_after_iff (ops : List Operation) (name : String) :
    (empty.after ops).resources.contains name = true ↔ name ∈ Keyed.keys (declared ops) := by
  rw [KeyMap.contains, ← resource?, resource?_empty_after, Keyed.mem_keys_iff]

lemma mem_resourcesOfType {type name : String} :
    name ∈ t.resourcesOfType type ↔ ∃ r, t.resource? name = some r ∧ r.type = type := by
  simp only [resourcesOfType, Keyed.keys, List.mem_map, List.mem_filter, beq_iff_eq, resource?,
    ← KeyMap.mem_entries_iff]
  constructor
  · rintro ⟨⟨_, r⟩, ⟨hmem, htype⟩, rfl⟩
    exact ⟨r, hmem, htype⟩
  · rintro ⟨r, hmem, htype⟩
    exact ⟨(name, r), ⟨hmem, htype⟩, rfl⟩

lemma pairwise_resourcesOfType (t : Template) (type : String) :
    (t.resourcesOfType type).Pairwise (· < ·) := by
  rw [resourcesOfType, Keyed.keys, List.pairwise_map]
  exact t.resources.ascending.filter _

/-- A new template holds after any history, under each name, the first resource that was declared
and the last output that was set; it refuses every later resource of the name and stays as it is.
The resources of a type are listed in ascending order. And every rearrangement of the history gives
the same text. -/
theorem after_history (ops : List Operation) :
    (∀ name, (empty.after ops).resource? name = (declared ops).lookup name) ∧
    (∀ name type properties, name ∈ Keyed.keys (declared ops) →
      (Operation.addResource name type properties).perform (empty.after ops) =
        (empty.after ops, .error (.render ("duplicate resource '" ++ name ++ "'")))) ∧
    (∀ name, (empty.after ops).outputs.get? name = (reported ops).reverse.lookup name) ∧
    (∀ type, ((empty.after ops).resourcesOfType type).Pairwise (· < ·) ∧
      ∀ name, name ∈ (empty.after ops).resourcesOfType type ↔
        ∃ r, (empty.after ops).resource? name = some r ∧ r.type = type) ∧
    ∀ ops', Rearranged ops ops' → (empty.after ops').text = (empty.after ops).text := by
  refine ⟨resource?_empty_after ops, fun name type properties hname => ?_,
    output_empty_after ops, fun type => ⟨pairwise_resourcesOfType _ type, fun name => ?_⟩,
    fun ops' h => ?_⟩
  · exact perform_of_contains ((contains_empty_after_iff ops name).2 hname)
  · exact mem_resourcesOfType
  · rw [h.after_eq]

/-- Two resources change places, the properties of one are set in another order, and a third one
comes too late. -/
theorem after_history_swapped :
    let first : List Operation := [
      .addResource "B" "T" [("z", .str "1"), ("a", .str "2")], .addResource "A" "T" [],
      .addResource "B" "U" [("z", .null)]]
    let second : List Operation := [
      .addResource "A" "T" [], .addResource "B" "T" [("a", .str "2"), ("z", .str "1")],
      .addResource "B" "U" [("z", .null)]]
    Rearranged first second ∧ (empty.after second).text = (empty.after first).text ∧
    "B" ∈ Keyed.keys (declared first) ∧
    (Operation.addResource "B" "U" [("z", .null)]).perform (empty.after first) =
      (empty.after first, .error (.render "duplicate resource 'B'")) := by
  intro first second
  have hrearranged : Rearranged first second := by
    refine ⟨_, Reordered.swap (by simp [Operation.target]) [] _, ?_⟩
    exact .cons (.refl _) (.cons (.properties (by decide) (.swap _ _ _)) (.cons (.refl _) .nil))
  have hdeclared : "B" ∈ Keyed.keys (declared first) := List.mem_cons_self
  obtain ⟨-, hrefused, -, -, htext⟩ := after_history first
  exact ⟨hrearranged, htext second hrearranged, hdeclared,
    hrefused "B" "U" [("z", .null)] hdeclared⟩

end Template

end StackForm
