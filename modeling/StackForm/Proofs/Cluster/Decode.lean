import StackForm.Proofs.Cluster.Spelling
import StackForm.Proofs.Cluster.Update
import StackForm.Proofs.Constraint

/-!
# What decoding a cluster gives

Decoding is renaming, checking shapes, and updating field by field. The law `decode_eq_ok_iff` says
so, and with it what nulls do: they are like missing members, except beside the other spelling of
the profile and inside an optional part that the cluster does not have. Without nulls the checks of
shapes are all that can fail, so that every failure names the field that is wrong.
-/

namespace StackForm

namespace Cluster

open Json

/-! ### Shapes -/

/-- The fields that the table checks: the shape of each, and the keys that lead to it. -/
lemma map_constraints :
    constraints.map (fun k => (k.shape, pathKeys k.path)) = [
      (.text, ["name"]), (.text, ["region"]), (.text, ["vpcId"]), (.object, [groupKey]),
      (.text, [groupKey, "image"]), (.text, [groupKey, "instanceType"]),
      (.object, [groupKey, "subnets"]), (.text, [groupKey, "subnets", "tag"]),
      (.text, [groupKey, "subnets", "tagName"]), (.texts, [groupKey, "subnets", "ids"]),
      (.object, [groupKey, profileKey]), (.texts, [groupKey, profileKey, "roles"]),
      (.object, [groupKey, profileKey, "policy"]),
      (.text, [groupKey, profileKey, "policy", "effect"]),
      (.texts, [groupKey, profileKey, "policy", "action"]), (.object, [balancerKey]),
      (.text, [balancerKey, "scheme"]), (.flag, [balancerKey, "public"]),
      (.object, [balancerKey, "healthCheck"]), (.text, [balancerKey, "healthCheck", "target"]),
      (.text, [balancerKey, "healthCheck", "healthyThreshold"]),
      (.text, [balancerKey, "healthCheck", "unhealthyThreshold"]),
      (.text, [balancerKey, "healthCheck", "interval"]),
      (.text, [balancerKey, "healthCheck", "timeout"]), (.object, [balancerKey, "subnets"]),
      (.text, [balancerKey, "subnets", "tag"]), (.text, [balancerKey, "subnets", "tagName"]),
      (.texts, [balancerKey, "subnets", "ids"])] := by
  simp [constraints, Subnets.constraints, Constraint.require, Constraint.allow,
    Constraint.withRule, pathKeys, Text.split, groupKey, balancerKey, profileKey]

/-- The table asks exactly for the shapes that the readers of the records need. -/
lemma admits_constraints_iff {n : Json} :
    (∀ k ∈ constraints, k.shape.Admits (k.partOf n)) ↔ Shaped n := by
  have hfields : (∀ k ∈ constraints, k.shape.Admits (k.partOf n)) ↔
      ∀ f ∈ constraints.map (fun k => (k.shape, pathKeys k.path)), f.1.Admits (n.reach f.2) := by
    rw [List.forall_mem_map]
    rfl
  rw [hfields, map_constraints]
  simp [shaped_iff, MachineGroup.shaped_iff, Subnets.shaped_iff, InstanceProfile.shaped_iff,
    Policy.shaped_iff, LoadBalancer.shaped_iff, HealthCheck.shaped_iff, and_assoc]

lemma schemaCheck_iff_shaped {n : Json} :
    constraints.schemaCheck n = .ok () ↔ n.isObject = true ∧ Shaped n := by
  rw [ConstraintTable.schemaCheck_eq_ok_iff, admits_constraints_iff]

/-! ### The law of decoding -/

lemma decodeOnto_eq_ok_iff {c c' : Cluster} {doc : Json} (ho : doc.Ordered)
    (hs : constraints.schemaCheck (renamed doc) = .ok ()) :
    decodeOnto c (renamed doc) = .ok c' ↔
      ¬ c.Exposes (renamed doc) ∧ c.update (renamed doc) = c' := by
  obtain ⟨hobj, hshaped⟩ := schemaCheck_iff_shaped.1 hs
  rw [← ofDocument_overlay c hobj hshaped (ordered_renamed ho) (part_legacy_renamed doc)]
  have hlay : layOver c (renamed doc) = ofDocument (overlay c.toDocument (renamed doc)) := rfl
  rw [decodeOnto, hlay]
  cases ofDocument (overlay c.toDocument (renamed doc)) <;> simp

/-- A cluster is decoded if one spelling at most is set, the shapes are right and no null is
exposed; it is then the update of the old one. -/
theorem decode_eq_ok_iff {c c' : Cluster} {doc : Json} (ho : doc.Ordered) :
    c.decode doc = .ok c' ↔
      ¬ SetsBothSpellings doc ∧ constraints.schemaCheck (renamed doc) = .ok () ∧
        ¬ c.Exposes (renamed doc) ∧ c.update (renamed doc) = c' := by
  rw [decode, currentSpelling_eq]
  by_cases hboth : SetsBothSpellings doc
  · simp [hboth, bind, Except.bind]
  · simp only [hboth, if_false, not_false_eq_true, true_and, bind, Except.bind]
    cases hs : constraints.schemaCheck (renamed doc) with
    | error e => simp [throw, throwThe, MonadExceptOf.throw]
    | ok u =>
      simp only [true_and]
      exact decodeOnto_eq_ok_iff ho hs

end Cluster

/-! ### Documents without nulls -/

open Json

lemma Subnets.not_hasNull {n : Json} (h : n.NullFree) : ¬ HasNull n := by
  simp [HasNull, h.get?_ne]

lemma Policy.not_hasNull {n : Json} (h : n.NullFree) : ¬ HasNull n := by
  simp [HasNull, h.get?_ne]

lemma InstanceProfile.not_hasNull {n : Json} (h : n.NullFree) : ¬ HasNull n := by
  simp [HasNull, h.get?_ne, Policy.not_hasNull (h.part _)]

lemma HealthCheck.not_hasNull {n : Json} (h : n.NullFree) : ¬ HasNull n := by
  simp [HasNull, h.get?_ne]

lemma LoadBalancer.not_hasNull {n : Json} (h : n.NullFree) : ¬ HasNull n := by
  simp [HasNull, h.get?_ne, HealthCheck.not_hasNull (h.part _), Subnets.not_hasNull (h.part _)]

/-- A document without nulls has none to expose. -/
lemma Cluster.not_exposes (c : Cluster) {n : Json} (h : n.NullFree) : ¬ c.Exposes n := by
  have hgroup : ¬ c.group.Exposes (n.part groupKey) := by
    rw [MachineGroup.Exposes]
    cases c.group.profile with
    | none => exact InstanceProfile.not_hasNull ((h.part _).part _)
    | some p => simp [InstanceProfile.Exposes, Policy.not_hasNull (((h.part _).part _).part _)]
  simp [Exposes, hgroup, LoadBalancer.not_hasNull (h.part _)]

/-! ### Stripped documents -/

lemma Json.recordOr_strip {α : Type} {update : α → Json → α} {n : Json}
    (h : ∀ a : α, update a n.strip = update a n) (zero : α) (old : Option α) :
    n.strip.recordOr update zero old = n.recordOr update zero old := by
  simp [recordOr, h]

lemma Subnets.update_strip (s : Subnets) {n : Json} (h : n.Ordered) :
    s.update n.strip = s.update n := by
  simp [update, part_strip h]

lemma Policy.update_strip (p : Policy) {n : Json} (h : n.Ordered) :
    p.update n.strip = p.update n := by
  simp [update, part_strip h]

lemma InstanceProfile.update_strip (p : InstanceProfile) {n : Json} (h : n.Ordered) :
    p.update n.strip = p.update n := by
  simp [update, part_strip h, recordOr_strip fun q => Policy.update_strip q (h.part _)]

lemma HealthCheck.update_strip (c : HealthCheck) {n : Json} (h : n.Ordered) :
    c.update n.strip = c.update n := by
  simp [update, part_strip h]

lemma LoadBalancer.update_strip (b : LoadBalancer) {n : Json} (h : n.Ordered) :
    b.update n.strip = b.update n := by
  simp [update, part_strip h, HealthCheck.update_strip _ (h.part _),
    Subnets.update_strip _ (h.part _)]

lemma MachineGroup.update_strip (g : MachineGroup) {n : Json} (h : n.Ordered) :
    g.update n.strip = g.update n := by
  simp [update, part_strip h, Subnets.update_strip _ (h.part _),
    recordOr_strip fun p => InstanceProfile.update_strip p (h.part _)]

namespace Cluster

lemma update_strip (c : Cluster) {n : Json} (h : n.Ordered) : c.update n.strip = c.update n := by
  simp [update, part_strip h, MachineGroup.update_strip _ (h.part _),
    recordOr_strip fun b => LoadBalancer.update_strip b (h.part _)]

lemma schemaCheck_strip {n : Json} (h : n.Ordered) :
    constraints.schemaCheck n.strip = .ok () ↔ constraints.schemaCheck n = .ok () := by
  simp [ConstraintTable.schemaCheck_eq_ok_iff, Constraint.partOf, reach_strip h]

lemma setsBothSpellings_of_strip {doc : Json} (ho : doc.Ordered)
    (h : SetsBothSpellings doc.strip) : SetsBothSpellings doc := by
  have hget : ∀ key, ((doc.part groupKey).strip.get? key).isSome = true →
      ((doc.part groupKey).get? key).isSome = true := by
    intro key hk
    rw [get?_strip (ho.part _)] at hk
    split at hk
    · cases hk
    · next hne => rw [get?_of_part hne, Option.isSome_some]
  rw [SetsBothSpellings, part_strip ho] at h
  exact ⟨hget _ h.1, hget _ h.2⟩

/-- Where not both spellings are set, the stripped document is decoded if its shapes are right. -/
lemma decode_strip_eq_ok_iff {c c' : Cluster} {doc : Json} (ho : doc.Ordered)
    (hboth : ¬ SetsBothSpellings doc) :
    c.decode doc.strip = .ok c' ↔
      constraints.schemaCheck (renamed doc) = .ok () ∧ c.update (renamed doc) = c' := by
  have hn := ordered_renamed ho
  rw [decode_eq_ok_iff (ordered_strip ho), renamed_strip ho hboth, schemaCheck_strip hn,
    update_strip c hn]
  have hstrip : ¬ SetsBothSpellings doc.strip := fun h => hboth (setsBothSpellings_of_strip ho h)
  simp [hstrip, c.not_exposes (nullFree_strip _)]

/-- A null of the document does not count as a missing member: it stands beside the other spelling
of the profile, or it is exposed. -/
def NullsMatter (c : Cluster) (doc : Json) : Prop :=
  SetsBothSpellings doc ∨ c.Exposes (renamed doc)

/-- Nulls can only make decoding fail. Where the stripped document is decoded, the document itself
is decoded to the same cluster, unless its nulls matter: then it is not decoded at all. -/
theorem decode_strip_iff (c : Cluster) (d : Document) :
    (∀ c', c.decode d.json = .ok c' → c.decode d.strip.json = .ok c') ∧
      ((c.decode d.json).toOption = (c.decode d.strip.json).toOption ↔
        (c.decode d.strip.json).toOption = none ∨ ¬ c.NullsMatter d.json) := by
  have hkeep : ∀ c', c.decode d.json = .ok c' → c.decode d.strip.json = .ok c' := by
    intro c' h
    obtain ⟨hboth, hs, _, hu⟩ := (decode_eq_ok_iff d.ordered).1 h
    exact (decode_strip_eq_ok_iff d.ordered hboth).2 ⟨hs, hu⟩
  refine ⟨hkeep, ?_⟩
  by_cases hm : c.NullsMatter d.json
  · have hnone : (c.decode d.json).toOption = none := by
      rw [Option.eq_none_iff_forall_ne_some]
      intro c' h
      obtain ⟨hboth, _, hexp, _⟩ := (decode_eq_ok_iff d.ordered).1 (toOption_eq_some_iff.1 h)
      exact hm.elim hboth hexp
    simp [hnone, hm, eq_comm]
  · have heq : (c.decode d.json).toOption = (c.decode d.strip.json).toOption := by
      rw [NullsMatter, not_or] at hm
      apply Option.ext
      intro c'
      have hstrip : c.decode d.strip.json = .ok c' ↔ _ := decode_strip_eq_ok_iff d.ordered hm.1
      rw [toOption_eq_some_iff, toOption_eq_some_iff, hstrip, decode_eq_ok_iff d.ordered]
      simp [hm]
    simp [heq, hm]

/-- A balancer that the initial cluster does not have is read as it stands, its null scheme too. -/
theorem not_decode_strip :
    ¬ ∀ (c : Cluster) (d : Document),
      (c.decode d.json).toOption = (c.decode d.strip.json).toOption := by
  intro h
  have hd := h initial (.ofJson (.obj [("loadBalancer", .obj [("scheme", .null)])]))
  revert hd
  decide +kernel

/-! ### How decoding fails -/

lemma eq_renamed_of_currentSpelling {doc n : Json} (h : currentSpelling doc = .ok n) :
    ¬ SetsBothSpellings doc ∧ n = renamed doc := by
  rw [currentSpelling_eq] at h
  split at h
  · cases h
  · next hboth => exact ⟨hboth, (Except.ok.inj h).symm⟩

lemma decode_of_setsBothSpellings (c : Cluster) {doc : Json} (h : SetsBothSpellings doc) :
    c.decode doc = .error (.malformed (.bothSpellings groupKey profileKey legacyProfileKey)) := by
  rw [decode, currentSpelling_eq, if_pos h]
  rfl

lemma decode_of_schemaCheck (c : Cluster) {doc n : Json} {e : RuleError}
    (hn : currentSpelling doc = .ok n) (h : constraints.schemaCheck n = .error e) :
    c.decode doc = .error (.ofRule e) := by
  rw [decode, hn]
  simp [bind, Except.bind, h, throw, throwThe, MonadExceptOf.throw]

lemma decode_eq_decodeOnto (c : Cluster) {doc n : Json} (hn : currentSpelling doc = .ok n)
    (h : constraints.schemaCheck n = .ok ()) : c.decode doc = decodeOnto c n := by
  rw [decode, hn]
  simp [bind, Except.bind, h]

/-- No field is called as a document as a whole is. -/
lemma path_ne_root {k : Constraint} (h : k ∈ constraints) : k.path ≠ "<root>" := by
  revert k
  decide

/-- Where the shapes are right, reading cannot fail for want of a shape. -/
lemma exists_decodeOnto (c : Cluster) {doc : Json} (ho : doc.Ordered) (hf : doc.NullFree)
    (hs : constraints.schemaCheck (renamed doc) = .ok ()) :
    ∃ c', decodeOnto c (renamed doc) = .ok c' :=
  ⟨c.update (renamed doc),
    (decodeOnto_eq_ok_iff ho hs).2 ⟨c.not_exposes (nullFree_renamed hf), rfl⟩⟩

/-- A document without nulls fails to be decoded for one of two reasons: the profile is set under
both spellings, or some shape is wrong. The error then names the first field of the table that has a
value of another shape, and the whole document only if that is not an object. -/
theorem decode_fails_iff (c : Cluster) (d : Document) (hf : d.json.NullFree) :
    ((∃ e, c.decode d.json = .error e) ↔
      SetsBothSpellings d.json ∨
        ∃ n, currentSpelling d.json = .ok n ∧ constraints.schemaCheck n ≠ .ok ()) ∧
    (SetsBothSpellings d.json →
      c.decode d.json =
        .error (.malformed (.bothSpellings groupKey profileKey legacyProfileKey))) ∧
    (∀ n, currentSpelling d.json = .ok n → constraints.schemaCheck n ≠ .ok () →
      if d.json.isObject then
        ∃ before k after, constraints = before ++ k :: after ∧
          (∀ b ∈ before, ¬ b.Misshapen n) ∧ k.Misshapen n ∧ k.path ≠ "<root>" ∧
          c.decode d.json = .error (.schemaMismatch k.path k.shape.name)
      else c.decode d.json = .error (.schemaMismatch "<root>" "object")) ∧
    ∀ n, currentSpelling d.json = .ok n → constraints.schemaCheck n = .ok () →
      ∃ c', decodeOnto c n = .ok c' := by
  refine ⟨⟨?_, ?_⟩, c.decode_of_setsBothSpellings, ?_, ?_⟩
  · rintro ⟨e, he⟩
    by_cases hboth : SetsBothSpellings d.json
    · exact .inl hboth
    · have hn : currentSpelling d.json = .ok (renamed d.json) := by
        rw [currentSpelling_eq, if_neg hboth]
      refine .inr ⟨_, hn, fun hs => ?_⟩
      have hok : c.decode d.json = .ok (c.update (renamed d.json)) :=
        (decode_eq_ok_iff d.ordered).2 ⟨hboth, hs, c.not_exposes (nullFree_renamed hf), rfl⟩
      rw [hok] at he
      cases he
  · rintro (hboth | ⟨n, hn, hs⟩)
    · exact ⟨_, c.decode_of_setsBothSpellings hboth⟩
    · cases hcheck : constraints.schemaCheck n with
      | ok u => exact absurd hcheck hs
      | error e => exact ⟨_, c.decode_of_schemaCheck hn hcheck⟩
  · intro n hn hs
    obtain ⟨_, rfl⟩ := eq_renamed_of_currentSpelling hn
    cases hcheck : constraints.schemaCheck (renamed d.json) with
    | ok u => exact absurd hcheck hs
    | error e =>
      rw [c.decode_of_schemaCheck hn hcheck]
      by_cases hobj : d.json.isObject = true
      · rw [if_pos hobj]
        rw [← isObject_renamed] at hobj
        obtain ⟨before, k, after, hl, hbefore, hk, rfl⟩ :=
          (ConstraintTable.schemaCheck_eq_error_iff hobj).1 hcheck
        have hmem : k ∈ constraints := by simp [hl]
        exact ⟨before, k, after, hl, hbefore, hk, path_ne_root hmem, rfl⟩
      · rw [if_neg hobj]
        rw [← isObject_renamed] at hobj
        rw [ConstraintTable.schemaCheck, if_neg hobj] at hcheck
        cases hcheck
        rfl
  · intro n hn hs
    obtain ⟨_, rfl⟩ := eq_renamed_of_currentSpelling hn
    exact c.exists_decodeOnto d.ordered hf hs

/-- A number where the name should be a text. -/
theorem decode_fails_at_name :
    (Document.ofJson (.obj [("name", .num (.int 7))])).json.NullFree ∧
      ∃ e, initial.decode (Document.ofJson (.obj [("name", .num (.int 7))])).json = .error e := by
  have hf : (Document.ofJson (.obj [("name", .num (.int 7))])).json.NullFree := by
    simp [Document.ofJson, sorted, sortedMembers, Keyed.insert, NullFree, Every, EveryMember]
  have hs : constraints.schemaCheck (Document.ofJson (.obj [("name", .num (.int 7))])).json =
      .error (.shapeMismatch "name" "string") := rfl
  exact ⟨hf, (decode_fails_iff initial _ hf).1.2 (.inr ⟨_, rfl, by simp [hs]⟩)⟩

end Cluster

end StackForm
