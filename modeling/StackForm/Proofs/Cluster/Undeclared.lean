import StackForm.Proofs.Cluster.Layers
import StackForm.Proofs.Cluster.Saved
import StackForm.Proofs.Json.Restrict

/-!
# Members that are not declared

Decoding gives the same for a document with and without the members that no field of a cluster is
named after: the same cluster or the same error. Renaming, the checks of shapes, the layering and
the readers all commute with dropping them.
-/

namespace StackForm

open Json

/-! ### The names of the fields -/

/-- The names that are declared for a choice of subnets. -/
def Subnets.names : Names :=
  .mk [("ids", .leaf), ("tag", .leaf), ("tagName", .leaf)]

def Policy.names : Names :=
  .mk [("action", .leaf), ("effect", .leaf)]

def InstanceProfile.names : Names :=
  .mk [("policy", Policy.names), ("roles", .leaf)]

/-- The profile of a group is declared under both spellings. -/
def MachineGroup.names : Names :=
  .mk [(Cluster.profileKey, InstanceProfile.names),
    (Cluster.legacyProfileKey, InstanceProfile.names), ("image", .leaf), ("instanceType", .leaf),
    ("subnets", Subnets.names)]

def HealthCheck.names : Names :=
  .mk [("healthyThreshold", .leaf), ("interval", .leaf), ("target", .leaf), ("timeout", .leaf),
    ("unhealthyThreshold", .leaf)]

def LoadBalancer.names : Names :=
  .mk [("healthCheck", HealthCheck.names), ("public", .leaf), ("scheme", .leaf),
    ("subnets", Subnets.names)]

/-- The names that are declared for a cluster and its parts, each at its place. -/
def Cluster.names : Names :=
  .mk [(Cluster.groupKey, MachineGroup.names), (Cluster.balancerKey, LoadBalancer.names),
    ("name", .leaf), ("region", .leaf), ("vpcId", .leaf)]

/-! ### What is written is declared -/

lemma Subnets.restrict_toDocument (s : Subnets) : s.toDocument.restrict names = s.toDocument := by
  simp [toDocument, restrictMembers_cons, names, Names.below?, Keyed.lookup_cons]

lemma Policy.restrict_toDocument (p : Policy) : p.toDocument.restrict names = p.toDocument := by
  simp [toDocument, restrictMembers_cons, names, Names.below?, Keyed.lookup_cons]

lemma InstanceProfile.restrict_toDocument (p : InstanceProfile) :
    p.toDocument.restrict names = p.toDocument := by
  cases hp : p.policy <;> simp [toDocument, hp, optionalMember, restrictMembers_cons, names,
    Names.below?, Keyed.lookup_cons, Policy.restrict_toDocument]

lemma MachineGroup.restrict_toDocument (g : MachineGroup) :
    g.toDocument.restrict names = g.toDocument := by
  cases hp : g.profile <;> simp [toDocument, hp, optionalMember, restrictMembers_cons, names,
    Names.below?, Keyed.lookup_cons, Cluster.profileKey, Cluster.legacyProfileKey,
    InstanceProfile.restrict_toDocument, Subnets.restrict_toDocument]

lemma HealthCheck.restrict_toDocument (c : HealthCheck) :
    c.toDocument.restrict names = c.toDocument := by
  simp [toDocument, restrictMembers_cons, names, Names.below?, Keyed.lookup_cons]

lemma LoadBalancer.restrict_toDocument (b : LoadBalancer) :
    b.toDocument.restrict names = b.toDocument := by
  simp [toDocument, restrictMembers_cons, names, Names.below?, Keyed.lookup_cons,
    HealthCheck.restrict_toDocument, Subnets.restrict_toDocument]

lemma Cluster.restrict_toDocument (c : Cluster) : c.toDocument.restrict names = c.toDocument := by
  cases hb : c.balancer <;> simp [toDocument, hb, optionalMember, restrictMembers_cons, names,
    Names.below?, Keyed.lookup_cons, groupKey, balancerKey, MachineGroup.restrict_toDocument,
    LoadBalancer.restrict_toDocument]

/-! ### What is not declared is not read -/

lemma Subnets.blind : Blind names ofDocument Shaped :=
  .record (fun _ h => h.object) fun _ =>
    blind_texts.member_bind rfl trivial fun _ =>
    blind_text.member_bind rfl trivial fun _ =>
    blind_text.member_bind rfl trivial fun _ => rfl

lemma Policy.blind : Blind names ofDocument Shaped :=
  .record (fun _ h => h.object) fun _ =>
    blind_texts.member_bind rfl trivial fun _ =>
    blind_text.member_bind rfl trivial fun _ => rfl

lemma InstanceProfile.blind : Blind names ofDocument Shaped :=
  .record (fun _ h => h.object) fun h =>
    Policy.blind.option.member_bind rfl h.policy fun _ =>
    blind_texts.member_bind rfl trivial fun _ => rfl

lemma HealthCheck.blind : Blind names ofDocument Shaped :=
  .record (fun _ h => h.object) fun _ =>
    blind_text.member_bind rfl trivial fun _ =>
    blind_text.member_bind rfl trivial fun _ =>
    blind_text.member_bind rfl trivial fun _ =>
    blind_text.member_bind rfl trivial fun _ =>
    blind_text.member_bind rfl trivial fun _ => rfl

lemma LoadBalancer.blind : Blind names ofDocument Shaped :=
  .record (fun _ h => h.object) fun h =>
    HealthCheck.blind.member_bind rfl h.healthCheck fun _ =>
    blind_flag.member_bind rfl trivial fun _ =>
    blind_text.member_bind rfl trivial fun _ =>
    Subnets.blind.member_bind rfl h.subnets fun _ => rfl

namespace MachineGroup

/-- The part has the right shapes, and nothing stands under the older spelling. -/
structure Current (v : Json) : Prop where
  shaped : Shaped v
  legacy : v.part Cluster.legacyProfileKey = .null

lemma profileOfMembers_restrict {members : List (String × Json)} (h : Current (.obj members)) :
    profileOfMembers (restrictMembers names members) = profileOfMembers members := by
  have hlegacy : (restrictMembers names members).lookup Cluster.legacyProfileKey =
      members.lookup Cluster.legacyProfileKey := by
    rw [lookup_restrictMembers_declared rfl]
    cases hl : members.lookup Cluster.legacyProfileKey with
    | none => rfl
    | some v =>
      have hpart : (obj members).part Cluster.legacyProfileKey = v := part_of_get? hl
      rw [← hpart, h.legacy, Option.map_some, restrict_null]
  have hcontains : Keyed.contains Cluster.profileKey (restrictMembers names members) =
      Keyed.contains Cluster.profileKey members := by
    rw [Keyed.contains, lookup_restrictMembers_declared rfl, Option.isSome_map, Keyed.contains]
  refine InstanceProfile.blind.option.member_bind rfl h.shaped.profile fun current => ?_
  rw [hlegacy, hcontains]

lemma blind : Blind names ofDocument Current := by
  refine .record (fun _ h => h.shaped.object) fun {members} h => ?_
  rw [ofMembers, ofMembers, profileOfMembers_restrict h]
  exact bind_congr fun _ =>
    blind_text.member_bind rfl trivial fun _ =>
    blind_text.member_bind rfl trivial fun _ =>
    Subnets.blind.member_bind rfl h.shaped.subnets fun _ => rfl

end MachineGroup

namespace Cluster

lemma blind : Blind names ofDocument fun v =>
    v.isObject = true ∧ Shaped v ∧ (v.part groupKey).part legacyProfileKey = .null :=
  .record (fun _ h => .inr h.1) fun ⟨_, h, hlegacy⟩ =>
    MachineGroup.blind.member_bind rfl ⟨h.group, hlegacy⟩ fun _ =>
    LoadBalancer.blind.option.member_bind rfl h.balancer fun _ =>
    blind_text.member_bind rfl trivial fun _ =>
    blind_text.member_bind rfl trivial fun _ =>
    blind_text.member_bind rfl trivial fun _ => rfl

/-! ### Decoding -/

lemma setsBothSpellings_restrict {doc : Json} :
    SetsBothSpellings (doc.restrict names) ↔ SetsBothSpellings doc := by
  have hgroup : (doc.restrict names).part groupKey =
      (doc.part groupKey).restrict MachineGroup.names := part_restrict rfl doc
  have hprofile : MachineGroup.names.below? profileKey = some InstanceProfile.names := rfl
  have hlegacy : MachineGroup.names.below? legacyProfileKey = some InstanceProfile.names := rfl
  rw [SetsBothSpellings, SetsBothSpellings, hgroup, get?_restrict hprofile, get?_restrict hlegacy,
    Option.isSome_map, Option.isSome_map]

lemma renamedGroup_restrictMembers {group : List (String × Json)} (h : Keyed.Ascending group) :
    renamedGroup (restrictMembers MachineGroup.names group) =
      restrictMembers MachineGroup.names (renamedGroup group) := by
  rw [renamedGroup, renamedGroup, lookup_restrictMembers_declared rfl]
  cases group.lookup legacyProfileKey with
  | none => rfl
  | some profile =>
    -- below either spelling the same names are declared
    have hprofile : MachineGroup.names.below? profileKey = some InstanceProfile.names := rfl
    show Keyed.insert profileKey (profile.restrict InstanceProfile.names) _ = _
    rw [restrictMembers_insert_declared (h.erase _) hprofile, restrictMembers_erase h]

lemma renamed_restrict {doc : Json} (h : doc.Ordered) :
    renamed (doc.restrict names) = (renamed doc).restrict names := by
  have hgroup : names.below? groupKey = some MachineGroup.names := rfl
  rcases group_cases doc with ⟨members, group, rfl, hg⟩ | ⟨hobj, hren, _⟩
  · have hget : (obj members).get? groupKey = some (.obj group) := hg
    have hordered : (obj group).Ordered := Every.of_get? h hget
    have hrestrict : (restrictMembers names members).lookup groupKey =
        some (.obj (restrictMembers MachineGroup.names group)) := by
      rw [lookup_restrictMembers_declared hgroup, hg, Option.map_some, restrict_obj]
    rw [restrict_obj, renamed_obj hrestrict, renamed_obj hg, restrict_obj,
      restrictMembers_insert_declared h.1 hgroup, restrict_obj,
      renamedGroup_restrictMembers hordered.1]
  · rw [hren, renamed_of_not_isObject (by rw [part_restrict hgroup, isObject_restrict, hobj])]

/-- Every field that the table checks is declared. -/
lemma isSome_at?_of_mem_constraints :
    ∀ k ∈ constraints, (names.at? (pathKeys k.path)).isSome = true := by
  have hfields : ∀ f ∈ constraints.map (fun k => (k.shape, pathKeys k.path)),
      (names.at? f.2).isSome = true := by
    rw [map_constraints]
    simp [Names.at?, Names.below?, names, MachineGroup.names, InstanceProfile.names, Policy.names,
      Subnets.names, LoadBalancer.names, HealthCheck.names, Keyed.lookup_cons, groupKey,
      balancerKey, profileKey, legacyProfileKey]
  rwa [List.forall_mem_map] at hfields

lemma decodeOnto_restrict (c : Cluster) {n : Json} (ho : n.Ordered) (hobj : n.isObject = true)
    (hs : Shaped n) (hlegacy : (n.part groupKey).part legacyProfileKey = .null) :
    decodeOnto c (n.restrict names) = decodeOnto c n := by
  have hc : Shaped c.toDocument := c.shown_toDocument.shaped
  have hgroup : (c.toDocument.part groupKey).part legacyProfileKey = .null := by
    show (c.group.toDocument.get? legacyProfileKey).getD .null = .null
    rw [MachineGroup.get?_legacy_toDocument, Option.getD_none]
  -- the readers are blind where no list stands for a record, and nothing under the older spelling
  have hlaid : (overlay c.toDocument n).isObject = true ∧ Shaped (overlay c.toDocument n) ∧
      ((overlay c.toDocument n).part groupKey).part legacyProfileKey = .null := by
    refine ⟨isObject_overlay rfl hobj, hc.overlay rfl hobj hs ho, ?_⟩
    rw [part_overlay (.inr rfl) (.inr hobj) ho,
      part_overlay hc.group.object hs.group.object (ho.part _), hlegacy, overlay_null, hgroup]
  have hread : layOver c (n.restrict names) = layOver c n := by
    show ofDocument (overlay c.toDocument (n.restrict names)) = ofDocument (overlay c.toDocument n)
    rw [← blind _ hlaid, restrict_overlay names (tidy_toDocument 0 c).ordered ho,
      c.restrict_toDocument]
  rw [decodeOnto, decodeOnto, hread]

/-- A document is decoded alike with and without the members that are not declared. -/
lemma decode_restrict (c : Cluster) {doc : Json} (ho : doc.Ordered) :
    c.decode (doc.restrict names) = c.decode doc := by
  by_cases hboth : SetsBothSpellings doc
  · rw [c.decode_of_setsBothSpellings hboth,
      c.decode_of_setsBothSpellings (setsBothSpellings_restrict.2 hboth)]
  · have hn : currentSpelling doc = .ok (renamed doc) := by rw [currentSpelling_eq, if_neg hboth]
    have hn' : currentSpelling (doc.restrict names) = .ok ((renamed doc).restrict names) := by
      rw [currentSpelling_eq, if_neg (mt setsBothSpellings_restrict.1 hboth), renamed_restrict ho]
    have hcheck := ConstraintTable.schemaCheck_restrict isSome_at?_of_mem_constraints (renamed doc)
    cases hs : constraints.schemaCheck (renamed doc) with
    | error e => rw [c.decode_of_schemaCheck hn hs, c.decode_of_schemaCheck hn' (hcheck.trans hs)]
    | ok u =>
      obtain ⟨hobj, hshaped⟩ := schemaCheck_iff_shaped.1 hs
      rw [c.decode_eq_decodeOnto hn hs, c.decode_eq_decodeOnto hn' (hcheck.trans hs),
        c.decodeOnto_restrict (ordered_renamed ho) hobj hshaped (part_legacy_renamed doc)]

/-- Documents that differ only in members that are not declared give the same cluster or the same
error. -/
theorem decode_eq_of_restrict_eq (c : Cluster) {d d' : Document}
    (h : d.json.restrict names = d'.json.restrict names) : c.decode d.json = c.decode d'.json := by
  rw [← c.decode_restrict d.ordered, h, c.decode_restrict d'.ordered]

/-- A member of the health check and one whose name only looks like a path are added; the balancer
is begun all the same. -/
theorem decode_eq_of_restrict_eq_dotted :
    ∃ d d' : Document, d.json ≠ d'.json ∧ d.json.restrict names = d'.json.restrict names ∧
      initial.decode d.json = initial.decode d'.json ∧
      initial.decode d'.json =
        .ok { initial with balancer := some ⟨"internal", false, .zero, .zero⟩ } := by
  let doc (check extra : List (String × Json)) : Json :=
    .obj ((balancerKey, .obj [("healthCheck", .obj check), ("scheme", .str "internal")]) :: extra)
  let full : Json := doc [("path", .arr [.obj []])] [("loadBalancer.scheme", .num (.int 5))]
  let bare : Json := doc [] []
  let d : Document := ⟨full, ordered_sorted full⟩
  let d' : Document := ⟨bare, ordered_sorted bare⟩
  have hfree : bare.NullFree := by simp [bare, doc, NullFree, Every, EveryMember]
  have hshaped : Shaped bare := by
    simp [bare, doc, shaped_iff, MachineGroup.shaped_iff, Subnets.shaped_iff,
      InstanceProfile.shaped_iff, Policy.shaped_iff, LoadBalancer.shaped_iff,
      HealthCheck.shaped_iff, part, Shape.Admits, Shape.isMatch, isObject, isString, groupKey,
      balancerKey]
  have hne : full ≠ bare := by simp [full, bare, doc]
  have heq : d.json.restrict names = d'.json.restrict names := rfl
  exact ⟨d, d', hne, heq, initial.decode_eq_of_restrict_eq heq,
    (decode_eq_ok_iff_of_nullFree d'.ordered hfree rfl).2 ⟨rfl, hshaped, rfl⟩⟩

end Cluster

end StackForm
