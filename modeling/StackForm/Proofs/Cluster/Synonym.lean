import StackForm.Proofs.Cluster.Saved
import StackForm.Proofs.Stack.Location

/-!
# The older spelling is a synonym

A document that gives the profile of its group under the older spelling alone has a respelled
document: the same members everywhere, but the profile under its current name. Both are decoded to
the same cluster or fail with the same error, and so they are loaded alike. No error is located
under the older name. Where both spellings are used, decoding is refused before anything else is
looked at.
-/

namespace StackForm

open Json

/-! ### Respelled documents -/

/-- The group gives its profile under the older spelling alone. -/
structure MachineGroup.OlderOnly (g : Json) : Prop where
  older : (g.get? Cluster.legacyProfileKey).isSome = true
  current : g.get? Cluster.profileKey = none

/-- The second group is the first one with the profile moved from its older name to the current
one. -/
structure MachineGroup.Respelled (g g' : Json) : Prop extends OlderOnly g where
  profile : g'.get? Cluster.profileKey = g.get? Cluster.legacyProfileKey
  gone : g'.get? Cluster.legacyProfileKey = none
  others : ∀ key, key ≠ Cluster.profileKey → key ≠ Cluster.legacyProfileKey →
    g'.get? key = g.get? key

/-- The second document is the first one with its group respelled. -/
structure Cluster.Respelled (d d' : Json) : Prop where
  group : MachineGroup.Respelled (d.part Cluster.groupKey) (d'.part Cluster.groupKey)
  others : ∀ key, key ≠ Cluster.groupKey → d'.get? key = d.get? key

namespace MachineGroup

variable {g v w : Json}

lemma Respelled.isObject (h : Respelled g v) : v.isObject = true := by
  have hprofile : (v.get? Cluster.profileKey).isSome = true := by
    rw [h.profile]
    exact h.older
  exact isObject_of_isSome_get? hprofile

lemma Respelled.unique (hv : Respelled g v) (hw : Respelled g w) (ho : v.Ordered)
    (ho' : w.Ordered) : v = w := by
  refine ext_get? hv.isObject hw.isObject ho ho' fun key => ?_
  by_cases hp : key = Cluster.profileKey
  · rw [hp, hv.profile, hw.profile]
  · by_cases hl : key = Cluster.legacyProfileKey
    · rw [hl, hv.gone, hw.gone]
    · rw [hv.others key hp hl, hw.others key hp hl]

/-- Renaming the profile respells the group. -/
lemma respelled_renamedGroup {group : List (String × Json)} (h : OlderOnly (.obj group)) :
    Respelled (.obj group) (.obj (Cluster.renamedGroup group)) := by
  obtain ⟨profile, hprofile⟩ := Option.isSome_iff_exists.1 h.older
  have hlookup : group.lookup Cluster.legacyProfileKey = some profile := hprofile
  have hrenamed : Cluster.renamedGroup group =
      Keyed.insert Cluster.profileKey profile (Keyed.erase Cluster.legacyProfileKey group) := by
    rw [Cluster.renamedGroup, hlookup]
  rw [hrenamed]
  refine ⟨h, ?_, ?_, fun key hp hl => ?_⟩
  · rw [hprofile]
    exact Keyed.lookup_insert_self _ _ _
  · exact (Keyed.lookup_insert_of_ne Cluster.legacyProfileKey_ne _ _).trans
      (Keyed.lookup_erase_self _ _)
  · exact (Keyed.lookup_insert_of_ne hp _ _).trans (Keyed.lookup_erase_of_ne hl _)

end MachineGroup

namespace Cluster

variable {doc v w : Json} {d d' : Document}

lemma Respelled.get?_group (h : Respelled doc v) : v.get? groupKey = some (v.part groupKey) := by
  apply get?_of_part
  intro hnull
  have hobj := h.group.isObject
  rw [hnull] at hobj
  cases hobj

lemma Respelled.isObject (h : Respelled doc v) : v.isObject = true :=
  isObject_of_get? h.get?_group

lemma Respelled.unique (hv : Respelled doc v) (hw : Respelled doc w) (ho : v.Ordered)
    (ho' : w.Ordered) : v = w := by
  refine ext_get? hv.isObject hw.isObject ho ho' fun key => ?_
  by_cases hkey : key = groupKey
  · rw [hkey, hv.get?_group, hw.get?_group, hv.group.unique hw.group (ho.part _) (ho'.part _)]
  · rw [hv.others key hkey, hw.others key hkey]

/-- Renaming the profile respells the document. -/
lemma respelled_renamed (h : MachineGroup.OlderOnly (doc.part groupKey)) :
    Respelled doc (renamed doc) := by
  have hgroup := isObject_of_isSome_get? h.older
  rcases group_cases doc with ⟨members, group, rfl, hg⟩ | ⟨hobj, -, -⟩
  · have hpart : (obj members).part groupKey = .obj group := part_of_get? hg
    have hpart' : (renamed (.obj members)).part groupKey = .obj (renamedGroup group) := by
      rw [renamed_obj hg]
      exact part_of_get? (Keyed.lookup_insert_self groupKey _ members)
    refine ⟨?_, fun key hkey => ?_⟩
    · rw [hpart] at h ⊢
      rw [hpart']
      exact MachineGroup.respelled_renamedGroup h
    · rw [renamed_obj hg]
      exact Keyed.lookup_insert_of_ne hkey _ members
  · rw [hgroup] at hobj
    cases hobj

/-- Both documents come to the respelled one. -/
lemma Respelled.currentSpelling_eq (h : Respelled d.json d'.json) :
    currentSpelling d.json = .ok d'.json ∧ currentSpelling d'.json = .ok d'.json := by
  have hboth : ¬ SetsBothSpellings d.json := by
    rintro ⟨hcurrent, -⟩
    rw [h.group.current] at hcurrent
    cases hcurrent
  have hboth' : ¬ SetsBothSpellings d'.json := by
    rintro ⟨-, holder⟩
    rw [h.group.gone] at holder
    cases holder
  have hrenamed : renamed d.json = d'.json :=
    (respelled_renamed h.group.toOlderOnly).unique h (ordered_renamed d.ordered) d'.ordered
  constructor
  · rw [Cluster.currentSpelling_eq, if_neg hboth, hrenamed]
  · rw [Cluster.currentSpelling_eq, if_neg hboth',
      renamed_of_legacy_eq_none d'.ordered h.group.gone]

lemma Respelled.decode_eq (h : Respelled d.json d'.json) (c : Cluster) :
    c.decode d.json = c.decode d'.json := by
  obtain ⟨hd, hd'⟩ := h.currentSpelling_eq
  rw [decode, decode, hd, hd']

end Cluster

/-! ### Loading -/

/-- The kind is read from one member. -/
lemma kindOf_congr {v w : Json} (hv : v.isObject = true) (hw : w.isObject = true)
    (h : v.get? "kind" = w.get? "kind") : kindOf v = kindOf w := by
  cases v with
  | obj members =>
    cases w with
    | obj members' =>
      have hlookup : members.lookup "kind" = members'.lookup "kind" := h
      rw [kindOf, kindOf, hlookup]
    | _ => cases hw
  | _ => cases hv

namespace StackKinds

variable (kinds : StackKinds) {d d' : Document}

lemma decode_respelled (h : Cluster.Respelled d.json d'.json) :
    kinds.decode d.json = kinds.decode d'.json := by
  have hobj : d.json.isObject = true :=
    isObject_of_part _ fun hnull => by
      have holder := h.group.older
      rw [hnull] at holder
      cases holder
  have hkind : kindOf d.json = kindOf d'.json :=
    kindOf_congr hobj h.isObject (h.others "kind" (by decide)).symm
  have hstack : ∀ stack : Stack, stack.decode d.json = stack.decode d'.json := by
    intro stack
    obtain ⟨c, rfl⟩ := stack.exists_cluster
    rw [Stack.decode, Stack.decode, h.decode_eq c]
  rw [decode, decode, hkind]
  simp only [hstack]

end StackKinds

namespace Cluster

/-! ### Decoding in place -/

/-- Read a document onto the cluster that is held, which is replaced once all steps succeed. -/
def decodeInPlace (doc : Json) : ExceptT StackError (StateM Cluster) Unit := do
  let doc ← MonadExcept.ofExcept (currentSpelling doc)
  MonadExcept.ofExcept ((constraints.schemaCheck doc).mapError .ofRule)
  let c ← get
  let c' ← MonadExcept.ofExcept (decodeOnto c doc)
  set c'

/-- A step that fails keeps what is held. -/
lemma run_ofExcept_bind {ε σ α β : Type} (x : Except ε α) (f : α → ExceptT ε (StateM σ) β)
    (st : σ) :
    (MonadExcept.ofExcept x >>= f).run.run st =
      match x with
      | .ok a => (f a).run.run st
      | .error e => (.error e, st) := by
  cases x <;> rfl

/-- The cluster that is held is replaced by the decoded one, and kept if there is none. -/
lemma run_decodeInPlace (c : Cluster) (doc : Json) :
    (decodeInPlace doc).run.run c =
      match c.decode doc with
      | .ok c' => (.ok (), c')
      | .error e => (.error e, c) := by
  rw [decodeInPlace, run_ofExcept_bind]
  cases hn : currentSpelling doc with
  | error e =>
    rw [decode, hn]
    rfl
  | ok n =>
    dsimp only
    rw [run_ofExcept_bind]
    cases hschema : constraints.schemaCheck n with
    | error e =>
      rw [c.decode_of_schemaCheck hn hschema]
      rfl
    | ok u =>
      rw [c.decode_eq_decodeOnto hn hschema]
      show (MonadExcept.ofExcept (decodeOnto c n) >>= set :
        ExceptT StackError (StateM Cluster) Unit).run.run c = _
      rw [run_ofExcept_bind]
      cases decodeOnto c n <;> rfl

/-! ### The synonym -/

/-- The error of a document that gives the profile under both spellings. -/
def bothSpellings : StackError :=
  .malformed (.bothSpellings groupKey profileKey legacyProfileKey)

/-- Two documents are decoded to the same cluster or fail with the same error, onto every cluster.
Whatever texts they are read from, and in whatever formats, they are loaded alike. -/
structure ReadAlike (v w : Json) : Prop where
  decode : ∀ c : Cluster, c.decode v = c.decode w
  load : ∀ (kinds : StackKinds) (bytes bytes' : List UInt8) (format format' : Format),
    format.parse bytes = .ok v → format'.parse bytes' = .ok w →
      kinds.load bytes format = kinds.load bytes' format'

variable {d d' : Document}

lemma Respelled.readAlike (h : Respelled d.json d'.json) : ReadAlike d.json d'.json where
  decode := h.decode_eq
  load kinds bytes bytes' format format' hd hd' := by
    rw [StackKinds.load, StackKinds.load, kinds.decodeBytes_of_parse hd,
      kinds.decodeBytes_of_parse hd', kinds.decode_respelled h]

/-- The older spelling is a synonym. A document that gives the profile under it alone is read like
its one respelled document, and no error of decoding or loading is located under the older name. A
document with both spellings is never decoded: it is refused for them, whatever else it holds, and
the cluster it was read onto is kept. -/
theorem decode_synonym (d : Document) :
    (MachineGroup.OlderOnly (d.json.part groupKey) →
      ∃ d' : Document, Respelled d.json d'.json ∧ ReadAlike d.json d'.json ∧
        ∀ w : Document, Respelled d.json w.json → w.json = d'.json) ∧
    (∀ (c : Cluster) (e : StackError), c.decode d.json = .error e → e.NamesCurrent) ∧
    (∀ (kinds : StackKinds) (bytes : List UInt8) (format : Format) (e : StackError),
      kinds.load bytes format = .error e → e.NamesCurrent) ∧
    (SetsBothSpellings d.json → ∀ c : Cluster,
      c.decode d.json = .error bothSpellings ∧
        (decodeInPlace d.json).run.run c = (.error bothSpellings, c)) := by
  refine ⟨fun holder => ?_, fun c e he => ?_, fun kinds bytes format e he => ?_, fun hboth c => ?_⟩
  · let d' : Document := ⟨renamed d.json, ordered_renamed d.ordered⟩
    have hrespelled : Respelled d.json d'.json := respelled_renamed holder
    exact ⟨d', hrespelled, hrespelled.readAlike,
      fun w hw => hw.unique hrespelled w.ordered d'.ordered⟩
  · exact (arises_of_decode c d.json e he).namesCurrent
  · exact (kinds.arises_of_load bytes format e he).namesCurrent
  · have hdecode : c.decode d.json = .error bothSpellings :=
      c.decode_of_setsBothSpellings hboth
    refine ⟨hdecode, ?_⟩
    rw [run_decodeInPlace, hdecode]

/-- A profile with an effect that there is not, written under the older spelling: it is decoded, and
loading it fails at the effect, under the current name, as it does for the saved cluster. -/
theorem decode_synonym_effect :
    ∃ (d : Document) (c : Cluster) (bytes : List UInt8) (detail : String),
      MachineGroup.OlderOnly (d.json.part groupKey) ∧ initial.decode d.json = .ok c ∧
        Format.parse .json bytes = .ok d.json ∧
        StackKinds.builtin.load bytes .json =
          .error (.validation "autoscalingGroup.iamInstanceProfile.policy.effect" "effect" detail) ∧
        StackKinds.builtin.load ((Stack.cluster c).savedBytes .compact) .json =
          StackKinds.builtin.load bytes .json := by
  let c : Cluster := ⟨"web", "eu-west-1", "vpc-1a",
    ⟨"ami-2b", "m3.large", .byTag "db", some ⟨[], some ⟨"Maybe", []⟩⟩⟩, none⟩
  let older : Json := .obj [(groupKey, .obj [
      (legacyProfileKey, .obj [("policy", .obj [("action", .arr []), ("effect", .str "Maybe")]),
        ("roles", .arr [])]),
      ("image", .str "ami-2b"), ("instanceType", .str "m3.large"),
      ("subnets", (Subnets.byTag "db").toDocument)]),
    ("kind", .str "Cluster"), ("name", .str "web"), ("region", .str "eu-west-1"),
    ("vpcId", .str "vpc-1a")]
  let d : Document := ⟨older, ordered_sorted older⟩
  let saved : Document := ⟨(Stack.cluster c).saved, c.tidy_saved.ordered⟩
  have holder : MachineGroup.OlderOnly (d.json.part groupKey) := ⟨rfl, rfl⟩
  have hrespelled : Respelled d.json saved.json := respelled_renamed holder
  obtain ⟨d', -, hread, hunique⟩ := (decode_synonym d).1 holder
  rw [← hunique saved hrespelled] at hread
  have hplain : d.json.Plain maxLevels := by
    simp [d, older, Plain, strings, maxLevels, Subnets.toDocument, Subnets.byTag]
  have hparse : Format.parse .json (Utf8.encode (d.json.write .compact)) = .ok d.json :=
    Format.parse_json_eq_ok_iff.2 (parse_write_of_ordered .compact hplain d.ordered)
  have hload := hread.load .builtin _ _ _ _ hparse (c.parse_savedBytes .compact)
  have hfirst : Check.firstFailing c.checks =
      some ⟨"autoscalingGroup.iamInstanceProfile.policy.effect", "effect", false⟩ := by
    decide +kernel
  have hreported := c.reported_validate
  rw [Check.Reported, hfirst] at hreported
  obtain ⟨detail, hvalidate⟩ := hreported
  refine ⟨d, c, _, detail, holder, (hread.decode initial).trans c.decode_saved, hparse, ?_,
    hload.symm⟩
  rw [hload, c.load_savedBytes_eq .compact, hvalidate]
  rfl

end Cluster

end StackForm
