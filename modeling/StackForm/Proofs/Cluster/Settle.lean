import StackForm.Cluster.Decode
import StackForm.Lookup.Config
import StackForm.Proofs.Cluster.Decode
import StackForm.Proofs.Json.Settle

/-!
# Decoding a document twice

A value that a document has been decoded onto does not change when the same document is decoded onto
it again. There is one exception. A group whose profile the document gives under the older spelling
is read once; the profile is then written under its current name, and the document laid over that
gives it under both. Decoding a cluster as a stack renames the profile first, and knows no exception.
-/

namespace StackForm

open Json

/-! ### Records that settle -/

namespace Subnets

lemma ofMembers_eq_ok_iff {ms : List (String × Json)} {s : Subnets} :
    ofMembers ms = .ok s ↔ memberOr ms "ids" (readList readText) [] = .ok s.ids ∧
      memberOr ms "tag" readText "" = .ok s.tag ∧
      memberOr ms "tagName" readText "" = .ok s.tagName := by
  cases s
  simp only [ofMembers, bind_eq_ok_iff, pure, Except.pure]
  grind

lemma ofDocument_toDocument (s : Subnets) : ofDocument s.toDocument = .ok s :=
  ofMembers_eq_ok_iff.2 (by simp [memberOr, readText, Keyed.lookup_cons])

lemma settles : Settles toDocument ofDocument fun _ => True := by
  refine .record (fun _ => rfl) ofDocument_toDocument fun h _ hfirst => ?_
  rw [ofMembers_eq_ok_iff] at hfirst ⊢
  obtain ⟨hids, htag, htagName⟩ := hfirst
  exact ⟨h.member settles_texts (fun _ => rfl) trivial hids,
    h.member settles_text (fun _ => rfl) trivial htag,
    h.member settles_text (fun _ => rfl) trivial htagName⟩

end Subnets

namespace Policy

lemma ofMembers_eq_ok_iff {ms : List (String × Json)} {p : Policy} :
    ofMembers ms = .ok p ↔ memberOr ms "action" (readList readText) [] = .ok p.action ∧
      memberOr ms "effect" readText "" = .ok p.effect := by
  cases p
  simp only [ofMembers, bind_eq_ok_iff, pure, Except.pure]
  grind

lemma ofDocument_toDocument (p : Policy) : ofDocument p.toDocument = .ok p :=
  ofMembers_eq_ok_iff.2 (by simp [memberOr, readText, Keyed.lookup_cons])

lemma settles : Settles toDocument ofDocument fun _ => True := by
  refine .record (fun _ => rfl) ofDocument_toDocument fun h _ hfirst => ?_
  rw [ofMembers_eq_ok_iff] at hfirst ⊢
  obtain ⟨haction, heffect⟩ := hfirst
  exact ⟨h.member settles_texts (fun _ => rfl) trivial haction,
    h.member settles_text (fun _ => rfl) trivial heffect⟩

end Policy

namespace InstanceProfile

lemma ofMembers_eq_ok_iff {ms : List (String × Json)} {p : InstanceProfile} :
    ofMembers ms = .ok p ↔
      memberOr ms "policy" (readOption Policy.ofDocument) none = .ok p.policy ∧
        memberOr ms "roles" (readList readText) [] = .ok p.roles := by
  cases p
  simp only [ofMembers, bind_eq_ok_iff, pure, Except.pure]
  grind

lemma ofDocument_toDocument (p : InstanceProfile) : ofDocument p.toDocument = .ok p := by
  refine ofMembers_eq_ok_iff.2 ⟨?_, ?_⟩
  · refine memberOr_readOption_of_map Policy.ofDocument_toDocument (fun _ => obj_ne_null _) ?_
    cases p.policy <;> simp [optionalMember, Keyed.lookup_cons]
  · cases p.policy <;> simp [memberOr, optionalMember, Keyed.lookup_cons]

lemma settles : Settles toDocument ofDocument fun _ => True := by
  refine .record (fun _ => rfl) ofDocument_toDocument fun h _ hfirst => ?_
  rw [ofMembers_eq_ok_iff] at hfirst ⊢
  obtain ⟨hpolicy, hroles⟩ := hfirst
  exact ⟨h.optional Policy.settles (fun _ => obj_ne_null _) (fun _ => by simp [toDocument]) trivial
      hpolicy,
    h.member settles_texts (fun _ => by simp [toDocument]) trivial hroles⟩

end InstanceProfile

namespace HealthCheck

lemma ofMembers_eq_ok_iff {ms : List (String × Json)} {c : HealthCheck} :
    ofMembers ms = .ok c ↔ memberOr ms "healthyThreshold" readText "" = .ok c.healthyThreshold ∧
      memberOr ms "interval" readText "" = .ok c.interval ∧
      memberOr ms "target" readText "" = .ok c.target ∧
      memberOr ms "timeout" readText "" = .ok c.timeout ∧
      memberOr ms "unhealthyThreshold" readText "" = .ok c.unhealthyThreshold := by
  cases c
  simp only [ofMembers, bind_eq_ok_iff, pure, Except.pure]
  grind

lemma ofDocument_toDocument (c : HealthCheck) : ofDocument c.toDocument = .ok c :=
  ofMembers_eq_ok_iff.2 (by simp [memberOr, readText, Keyed.lookup_cons])

lemma settles : Settles toDocument ofDocument fun _ => True := by
  refine .record (fun _ => rfl) ofDocument_toDocument fun h _ hfirst => ?_
  rw [ofMembers_eq_ok_iff] at hfirst ⊢
  obtain ⟨hhealthy, hinterval, htarget, htimeout, hunhealthy⟩ := hfirst
  exact ⟨h.member settles_text (fun _ => rfl) trivial hhealthy,
    h.member settles_text (fun _ => rfl) trivial hinterval,
    h.member settles_text (fun _ => rfl) trivial htarget,
    h.member settles_text (fun _ => rfl) trivial htimeout,
    h.member settles_text (fun _ => rfl) trivial hunhealthy⟩

end HealthCheck

namespace LoadBalancer

lemma ofMembers_eq_ok_iff {ms : List (String × Json)} {b : LoadBalancer} :
    ofMembers ms = .ok b ↔
      memberOr ms "healthCheck" HealthCheck.ofDocument .zero = .ok b.healthCheck ∧
        memberOr ms "public" readFlag false = .ok b.isPublic ∧
        memberOr ms "scheme" readText "" = .ok b.scheme ∧
        memberOr ms "subnets" Subnets.ofDocument .zero = .ok b.subnets := by
  cases b
  simp only [ofMembers, bind_eq_ok_iff, pure, Except.pure]
  grind

lemma ofDocument_toDocument (b : LoadBalancer) : ofDocument b.toDocument = .ok b :=
  ofMembers_eq_ok_iff.2 (by simp [memberOr, readText, readFlag, Keyed.lookup_cons,
    HealthCheck.ofDocument_toDocument, Subnets.ofDocument_toDocument])

lemma settles : Settles toDocument ofDocument fun _ => True := by
  refine .record (fun _ => rfl) ofDocument_toDocument fun h _ hfirst => ?_
  rw [ofMembers_eq_ok_iff] at hfirst ⊢
  obtain ⟨hcheck, hpublic, hscheme, hsubnets⟩ := hfirst
  exact ⟨h.member HealthCheck.settles (fun _ => rfl) trivial hcheck,
    h.member settles_flag (fun _ => rfl) trivial hpublic,
    h.member settles_text (fun _ => rfl) trivial hscheme,
    h.member Subnets.settles (fun _ => rfl) trivial hsubnets⟩

end LoadBalancer

/-! ### Groups -/

namespace MachineGroup

/-- The part gives the profile of a group under the older spelling. -/
def SetsLegacy (v : Json) : Prop :=
  v.part Cluster.legacyProfileKey ≠ .null

instance (v : Json) : Decidable (SetsLegacy v) :=
  inferInstanceAs (Decidable (_ ≠ _))

lemma ofMembers_eq_ok_iff {ms : List (String × Json)} {g : MachineGroup} :
    ofMembers ms = .ok g ↔ profileOfMembers ms = .ok g.profile ∧
      memberOr ms "image" readText "" = .ok g.image ∧
      memberOr ms "instanceType" readText "" = .ok g.instanceType ∧
      memberOr ms "subnets" Subnets.ofDocument .zero = .ok g.subnets := by
  cases g
  simp only [ofMembers, bind_eq_ok_iff, pure, Except.pure]
  grind

/-- A profile is read under its current name, or under the older one if only that is there. -/
lemma profileOfMembers_eq_ok_iff {ms : List (String × Json)} {o : Option InstanceProfile} :
    profileOfMembers ms = .ok o ↔
      (ms.lookup Cluster.legacyProfileKey = none ∧
        memberOr ms Cluster.profileKey (readOption InstanceProfile.ofDocument) none = .ok o) ∨
      ∃ v, ms.lookup Cluster.legacyProfileKey = some v ∧ ms.lookup Cluster.profileKey = none ∧
        readOption InstanceProfile.ofDocument v = .ok o := by
  rw [profileOfMembers, Keyed.contains]
  simp only [bind_eq_ok_iff]
  cases hlegacy : ms.lookup Cluster.legacyProfileKey with
  | none => simp [pure, Except.pure]
  | some v =>
    cases hcurrent : ms.lookup Cluster.profileKey with
    | none => simp [memberOr_of_lookup_none hcurrent]
    | some w => simp [throw, throwThe, MonadExceptOf.throw]

/-- A profile under both spellings is an error, if the one under the current name can be read. -/
lemma profileOfMembers_of_both {ms : List (String × Json)} {v w : Json} {p : InstanceProfile}
    (hcurrent : ms.lookup Cluster.profileKey = some v)
    (hlegacy : ms.lookup Cluster.legacyProfileKey = some w)
    (hread : InstanceProfile.ofDocument v = .ok p) :
    profileOfMembers ms = .error (.duplicateField Cluster.profileKey) := by
  have hv : v ≠ .null := by
    rintro rfl
    exact nomatch hread
  rw [profileOfMembers, memberOr_of_lookup hcurrent, readOption_of_ne_null hv, hread, hlegacy,
    Keyed.contains, hcurrent]
  rfl

lemma get?_profile_toDocument (g : MachineGroup) :
    g.toDocument.get? Cluster.profileKey = g.profile.map InstanceProfile.toDocument := by
  simp [toDocument, Cluster.profileKey]

lemma ofDocument_toDocument (g : MachineGroup) : ofDocument g.toDocument = .ok g := by
  refine ofMembers_eq_ok_iff.2 ⟨profileOfMembers_eq_ok_iff.2 (.inl ⟨?_, ?_⟩), ?_⟩
  · exact get?_legacy_toDocument g
  · exact memberOr_readOption_of_map InstanceProfile.ofDocument_toDocument (fun _ => obj_ne_null _)
      (get?_profile_toDocument g)
  · cases g.profile <;> simp [optionalMember, Keyed.lookup_cons, Cluster.profileKey, memberOr,
      readText, Subnets.ofDocument_toDocument]

section Relaid

variable {v : Json} {first again : List (String × Json)} {g : MachineGroup}

/-- Unless the document has it under the older spelling, the profile was read under its current
name. -/
lemma memberOr_profile_of_relaid (h : Relaid toDocument v first again g) (hlegacy : ¬ SetsLegacy v)
    (hprofile : profileOfMembers first = .ok g.profile) :
    memberOr first Cluster.profileKey (readOption InstanceProfile.ofDocument) none =
      .ok g.profile := by
  have hnull : v.part Cluster.legacyProfileKey = .null := Decidable.of_not_not hlegacy
  have hlaid := h.laid_of_unwritten get?_legacy_toDocument
  rw [hnull] at hlaid
  rcases profileOfMembers_eq_ok_iff.1 hprofile with ⟨-, hread⟩ | ⟨w, hw, hmissing, hread⟩
  · exact hread
  · -- a null under the older spelling is all that can be there, and stands for no profile
    rcases hlaid.of_null with hnone | hsome
    · rw [hnone] at hw
      exact nomatch hw
    · cases hw.symm.trans hsome
      rw [memberOr_of_lookup_none hmissing]
      exact hread

/-- If the document has it under the older spelling, a profile was read, and from nowhere else. -/
lemma exists_profile_of_relaid (h : Relaid toDocument v first again g) (hlegacy : SetsLegacy v)
    (hprofile : profileOfMembers first = .ok g.profile) :
    v.part Cluster.profileKey = .null ∧ ∃ p, g.profile = some p := by
  have hlookup : first.lookup Cluster.legacyProfileKey = some (v.part Cluster.legacyProfileKey) :=
    (h.laid_of_unwritten get?_legacy_toDocument).eq_merge hlegacy
  rcases profileOfMembers_eq_ok_iff.1 hprofile with ⟨hnone, -⟩ | ⟨w, hw, hmissing, hread⟩
  · rw [hnone] at hlookup
    exact nomatch hlookup
  · cases hw.symm.trans hlookup
    rw [readOption_of_ne_null hlegacy, map_some_eq_ok_iff] at hread
    obtain ⟨p, -, hp⟩ := hread
    refine ⟨Decidable.of_not_not fun hv => ?_, p, hp.symm⟩
    obtain ⟨old, hlaid⟩ := h.first
    rw [(hlaid Cluster.profileKey).eq_merge hv] at hmissing
    exact nomatch hmissing

end Relaid

/-- A group settles unless its profile is given under the older spelling. -/
lemma settles : Settles toDocument ofDocument fun v => ¬ SetsLegacy v := by
  refine .record (fun _ => rfl) ofDocument_toDocument fun {v first _ g} h hlegacy hfirst => ?_
  have hnull : v.part Cluster.legacyProfileKey = .null := Decidable.of_not_not hlegacy
  rw [ofMembers_eq_ok_iff] at hfirst ⊢
  obtain ⟨hprofile, himage, htype, hsubnets⟩ := hfirst
  refine ⟨profileOfMembers_eq_ok_iff.2 (.inl ⟨?_, ?_⟩),
    h.member settles_text (fun _ => by simp [toDocument, Cluster.profileKey]) trivial himage,
    h.member settles_text (fun _ => by simp [toDocument, Cluster.profileKey]) trivial htype,
    h.member Subnets.settles (fun _ => by simp [toDocument, Cluster.profileKey]) trivial hsubnets⟩
  · rw [h.again, get?_legacy_toDocument, hnull, layered_null]
  · exact h.optional InstanceProfile.settles (fun _ => obj_ne_null _) get?_profile_toDocument trivial
      (memberOr_profile_of_relaid h hlegacy hprofile)

/-- The profile that the older spelling gave is written under its current name; read beside the
document, which still has the older one, it is there twice. -/
lemma ofDocument_twice {old : Option MachineGroup} {v : Json} {g : MachineGroup} (ho : v.Ordered)
    (hlegacy : SetsLegacy v) (hfirst : ofDocument (merge (old.map toDocument) v) = .ok g) :
    ofDocument (overlay g.toDocument v) = .error (.duplicateField Cluster.profileKey) := by
  obtain ⟨first, again, h, hread, hagain⟩ :=
    exists_relaid (fun _ => rfl) ho (isObject_of_part _ hlegacy) hfirst
  obtain ⟨hnull, p, hp⟩ := exists_profile_of_relaid h hlegacy (ofMembers_eq_ok_iff.1 hread).1
  have hcurrent : again.lookup Cluster.profileKey = some p.toDocument := by
    rw [h.again, get?_profile_toDocument, hp, hnull, layered_null, Option.map_some]
  have holder : again.lookup Cluster.legacyProfileKey =
      some (v.part Cluster.legacyProfileKey) := by
    rw [h.again, get?_legacy_toDocument, layered, if_neg hlegacy, merge]
  rw [hagain]
  show ofMembers again = _
  rw [ofMembers, profileOfMembers_of_both hcurrent holder (p.ofDocument_toDocument)]
  rfl

end MachineGroup

namespace Cluster

/-- The document gives the profile of the group under the older spelling. -/
def SetsLegacy (doc : Json) : Prop :=
  MachineGroup.SetsLegacy (doc.part groupKey)

instance (doc : Json) : Decidable (SetsLegacy doc) :=
  inferInstanceAs (Decidable (MachineGroup.SetsLegacy _))

lemma ofMembers_eq_ok_iff {ms : List (String × Json)} {c : Cluster} :
    ofMembers ms = .ok c ↔ memberOr ms groupKey MachineGroup.ofDocument .zero = .ok c.group ∧
      memberOr ms balancerKey (readOption LoadBalancer.ofDocument) none = .ok c.balancer ∧
      memberOr ms "name" readText "" = .ok c.name ∧
      memberOr ms "region" readText "" = .ok c.region ∧
      memberOr ms "vpcId" readText "" = .ok c.vpcId := by
  cases c
  simp only [ofMembers, bind_eq_ok_iff, pure, Except.pure]
  grind

lemma get?_balancer_toDocument (c : Cluster) :
    c.toDocument.get? balancerKey = c.balancer.map LoadBalancer.toDocument := by
  simp [toDocument, balancerKey, groupKey]

lemma ofDocument_toDocument (c : Cluster) : ofDocument c.toDocument = .ok c := by
  refine ofMembers_eq_ok_iff.2 ⟨?_, ?_, ?_⟩
  · exact MachineGroup.ofDocument_toDocument c.group
  · exact memberOr_readOption_of_map LoadBalancer.ofDocument_toDocument (fun _ => obj_ne_null _)
      (get?_balancer_toDocument c)
  · cases c.balancer <;> simp [optionalMember, Keyed.lookup_cons, groupKey, balancerKey, memberOr,
      readText]

/-- A cluster settles unless the profile of its group is given under the older spelling. -/
lemma settles : Settles toDocument ofDocument fun v => ¬ SetsLegacy v := by
  refine .record (fun _ => rfl) ofDocument_toDocument fun h hlegacy hfirst => ?_
  rw [ofMembers_eq_ok_iff] at hfirst ⊢
  obtain ⟨hgroup, hbalancer, hname, hregion, hvpc⟩ := hfirst
  exact ⟨h.member MachineGroup.settles (fun _ => rfl) hlegacy hgroup,
    h.optional LoadBalancer.settles (fun _ => obj_ne_null _) get?_balancer_toDocument trivial
      hbalancer,
    h.member settles_text (fun _ => by simp [toDocument, groupKey, balancerKey]) trivial hname,
    h.member settles_text (fun _ => by simp [toDocument, groupKey, balancerKey]) trivial hregion,
    h.member settles_text (fun _ => by simp [toDocument, groupKey, balancerKey]) trivial hvpc⟩

lemma ofDocument_twice {old : Option Cluster} {v : Json} {c : Cluster} (ho : v.Ordered)
    (hlegacy : SetsLegacy v) (hfirst : ofDocument (merge (old.map toDocument) v) = .ok c) :
    ofDocument (overlay c.toDocument v) = .error (.duplicateField profileKey) := by
  have hgroup : v.part groupKey ≠ .null := fun h => hlegacy (by rw [h, part_null])
  obtain ⟨first, again, h, hread, hagain⟩ :=
    exists_relaid (fun _ => rfl) ho (isObject_of_part _ hgroup) hfirst
  rw [ofMembers_eq_ok_iff] at hread
  obtain ⟨older, hg⟩ := h.read_first (fun _ => rfl) hgroup hread.1
  have hfails := MachineGroup.ofDocument_twice (ho.part groupKey) hlegacy hg
  have hmember : memberOr again groupKey MachineGroup.ofDocument .zero =
      .error (.duplicateField profileKey) := by
    rw [memberOr_of_lookup (h.lookup fun _ => rfl), hfails]
  rw [hagain]
  show ofMembers again = _
  rw [ofMembers, hmember]
  rfl

end Cluster

/-! ### Configuration of lookups -/

namespace LookupConfig

lemma settles_optionalText : Settles optionalText (readOption readText) fun _ => True :=
  .of_not_merging (fun o => by cases o <;> rfl) fun o => by cases o <;> rfl

lemma readSeconds_num (seconds : UInt64) :
    readSeconds (.num (.int seconds.toNat)) = .ok seconds := by
  have hle : seconds.toNat ≤ Number.maxUnsigned := by
    have := seconds.toNat_lt
    simp only [Number.maxUnsigned]
    omega
  have hin : (decide ((0 : Int) ≤ seconds.toNat) &&
      decide ((seconds.toNat : Int) ≤ Number.maxUnsigned)) = true := by
    simp only [Bool.and_eq_true, decide_eq_true_eq]
    omega
  rw [readSeconds, readInt, if_pos hin]
  simp [Except.map]

lemma settles_seconds :
    Settles (fun seconds : UInt64 => .num (.int seconds.toNat)) readSeconds fun _ => True :=
  .of_not_merging readSeconds_num fun _ => rfl

lemma member_eq_ok_iff {α : Type} {ms : List (String × Json)} {name : String}
    {read : Json → Except Mismatch α} (default : α) {a : α} :
    member ms name read = .ok a ↔
      ms.lookup name ≠ none ∧ memberOr ms name read default = .ok a := by
  rw [member, memberOr]
  cases ms.lookup name <;> simp

lemma ofMembers_eq_ok_iff {ms : List (String × Json)} {c : LookupConfig} :
    ofMembers ms = .ok c ↔ member ms "aws_command" readText = .ok c.command ∧
      memberOr ms "profile" (readOption readText) none = .ok c.profile ∧
      memberOr ms "region" (readOption readText) none = .ok c.region ∧
      member ms "timeout_seconds" readSeconds = .ok c.timeoutSeconds := by
  cases c
  simp only [ofMembers, bind_eq_ok_iff, pure, Except.pure]
  grind

lemma ofDocument_toDocument (c : LookupConfig) : ofDocument c.toDocument = .ok c :=
  ofMembers_eq_ok_iff.2 (by simp [member, memberOr, readText, Keyed.lookup_cons,
    settles_optionalText.read_write, readSeconds_num])

lemma settles : Settles toDocument ofDocument fun _ => True := by
  refine .record (fun _ => rfl) ofDocument_toDocument fun h _ hfirst => ?_
  rw [ofMembers_eq_ok_iff, member_eq_ok_iff "", member_eq_ok_iff 0] at hfirst ⊢
  obtain ⟨⟨-, hcommand⟩, hprofile, hregion, -, hseconds⟩ := hfirst
  have hcommandDoc : ∀ c, (toDocument c).get? "aws_command" = some (.str c.command) := fun _ => rfl
  have hsecondsDoc : ∀ c, (toDocument c).get? "timeout_seconds" =
    some (.num (.int c.timeoutSeconds.toNat)) := fun _ => rfl
  exact ⟨⟨by simp [h.lookup hcommandDoc], h.member settles_text hcommandDoc trivial hcommand⟩,
    h.member settles_optionalText (fun _ => rfl) trivial hprofile,
    h.member settles_optionalText (fun _ => rfl) trivial hregion,
    by simp [h.lookup hsecondsDoc], h.member settles_seconds hsecondsDoc trivial hseconds⟩

end LookupConfig

/-! ### Decoding twice -/

/-- What the document has been decoded onto is left as it is when it is decoded again. -/
def Keeps (α : Type) [JsonForm α] (d : Document) : Prop :=
  ∀ t t' : α, decodeOnto t d.json = .ok t' → decodeOnto t' d.json = .ok t'

section Twice

variable {α : Type} [JsonForm α]

lemma decodeOnto_eq_ok {t t' : α} {doc : Json} :
    decodeOnto t doc = .ok t' ↔ ofJson (overlay (toJson t) doc) = .ok t' := by
  rw [decodeOnto, layOver]
  cases (ofJson (overlay (toJson t) doc) : Except Mismatch α) <;> simp

lemma decodeOnto_eq_error {t : α} {doc : Json} {e : Mismatch}
    (h : (ofJson (overlay (toJson t) doc) : Except Mismatch α) = .error e) :
    decodeOnto t doc = .error (.schemaMismatch "<root>" e.message) := by
  rw [decodeOnto, layOver, h]

/-- What settles for one kind of document, and cannot be read again for another. -/
lemma Json.Settles.decodeOnto {p : Json → Prop} [DecidablePred p] {e : Mismatch}
    (hs : Settles toJson (ofJson : Json → Except Mismatch α) fun v => ¬ p v)
    (hfails : ∀ {old : Option α} {v : Json} {a : α}, v.Ordered → p v →
      ofJson (merge (old.map toJson) v) = .ok a →
        (ofJson (overlay (toJson a) v) : Except Mismatch α) = .error e)
    (d : Document) (t t' : α) (h : decodeOnto t d.json = .ok t') :
    decodeOnto t' d.json =
      if p d.json then .error (.schemaMismatch "<root>" e.message) else .ok t' := by
  have hfirst : ofJson (merge ((some t).map toJson) d.json) = .ok t' := decodeOnto_eq_ok.1 h
  split
  · next hp => exact decodeOnto_eq_error (hfails d.ordered hp hfirst)
  · next hp => exact decodeOnto_eq_ok.2 (hs.settle d.ordered hp hfirst)

lemma Json.Settles.keeps (hs : Settles toJson (ofJson : Json → Except Mismatch α) fun _ => True)
    (d : Document) : Keeps α d := by
  intro t t' h
  have hfirst : ofJson (merge ((some t).map toJson) d.json) = .ok t' := decodeOnto_eq_ok.1 h
  exact decodeOnto_eq_ok.2 (hs.settle d.ordered trivial hfirst)

end Twice

lemma Json.keeps_document (d t : Document) (t' : Json) (h : decodeOnto t.json d.json = .ok t') :
    decodeOnto t' d.json = .ok t' := by
  rw [decodeOnto_eq_ok] at h ⊢
  have ht' : overlay t.json d.json = t' := Except.ok.inj h
  rw [← ht']
  exact congrArg _ (overlay_overlay_self t.ordered d.ordered)

/-- Decoding a document a second time changes nothing. A cluster or a group whose profile the
document gives under the older spelling is the exception: the second reading refuses it. -/
theorem decodeOnto_decodeOnto (d : Document) :
    (∀ c c' : Cluster, decodeOnto c d.json = .ok c' → decodeOnto c' d.json =
      if Cluster.SetsLegacy d.json then
        .error (.schemaMismatch "<root>" (Mismatch.duplicateField Cluster.profileKey).message)
      else .ok c') ∧
    (∀ g g' : MachineGroup, decodeOnto g d.json = .ok g' → decodeOnto g' d.json =
      if MachineGroup.SetsLegacy d.json then
        .error (.schemaMismatch "<root>" (Mismatch.duplicateField Cluster.profileKey).message)
      else .ok g') ∧
    Keeps InstanceProfile d ∧ Keeps Policy d ∧ Keeps LoadBalancer d ∧ Keeps HealthCheck d ∧
    Keeps Subnets d ∧ Keeps LookupConfig d ∧
    ∀ (t : Document) (t' : Json), decodeOnto t.json d.json = .ok t' →
      decodeOnto t' d.json = .ok t' :=
  ⟨Cluster.settles.decodeOnto Cluster.ofDocument_twice d,
    MachineGroup.settles.decodeOnto MachineGroup.ofDocument_twice d,
    InstanceProfile.settles.keeps d, Policy.settles.keeps d, LoadBalancer.settles.keeps d,
    HealthCheck.settles.keeps d, Subnets.settles.keeps d, LookupConfig.settles.keeps d,
    keeps_document d⟩

/-- An empty profile under the older spelling is taken once and refused the second time. -/
theorem MachineGroup.not_keeps : ¬ ∀ d : Document, Keeps MachineGroup d := by
  intro h
  have hagain := h (.ofJson (.obj [(Cluster.legacyProfileKey, .obj [])])) .zero
    { zero with profile := some .zero } rfl
  exact nomatch hagain

namespace Cluster

/-- Once the profile is renamed, nothing is left under the older spelling. -/
lemma not_setsLegacy_renamed (doc : Json) : ¬ SetsLegacy (renamed doc) :=
  not_not_intro (part_legacy_renamed doc)

/-- A cluster that a document was decoded onto is left as it is when the document is decoded again,
under whichever spelling it gives the profile, and whatever nulls it holds. -/
theorem decode_decode (d : Document) {c c' : Cluster} (h : c.decode d.json = .ok c') :
    c'.decode d.json = .ok c' := by
  obtain ⟨hboth, hschema, -, -⟩ := (decode_eq_ok_iff d.ordered).1 h
  have hn : currentSpelling d.json = .ok (renamed d.json) := by
    rw [currentSpelling_eq, if_neg hboth]
  rw [c.decode_eq_decodeOnto hn hschema] at h
  have hagain := settles.decodeOnto ofDocument_twice ⟨_, ordered_renamed d.ordered⟩ c c' h
  rw [if_neg (not_setsLegacy_renamed d.json)] at hagain
  rw [c'.decode_eq_decodeOnto hn hschema, hagain]

/-- A policy is begun in a profile that has roles. The document gives the profile under the older
spelling, and nulls for the roles and for the balancer. -/
theorem decode_decode_policy :
    ∃ (d : Document) (c c' : Cluster), SetsLegacy d.json ∧ c ≠ c' ∧
      c.decode d.json = .ok c' ∧ c'.decode d.json = .ok c' := by
  let profile : Json := .obj [("policy", .obj [("effect", .str "Allow")]), ("roles", .null)]
  let doc (key : String) : Json :=
    .obj [(groupKey, .obj [(key, profile), ("image", .str "ami-1")]), (balancerKey, .null)]
  let d : Document := ⟨doc legacyProfileKey, ordered_sorted (doc legacyProfileKey)⟩
  let c : Cluster := { zero with group := { MachineGroup.zero with profile := some ⟨["r"], none⟩ } }
  let c' : Cluster := { zero with
    group := { MachineGroup.zero with
      image := "ami-1", profile := some ⟨["r"], some ⟨"Allow", []⟩⟩ } }
  have hrenamed : renamed d.json = doc profileKey := rfl
  have hshaped : Shaped (doc profileKey) := by
    simp [doc, profile, shaped_iff, MachineGroup.shaped_iff, Subnets.shaped_iff,
      InstanceProfile.shaped_iff, Policy.shaped_iff, LoadBalancer.shaped_iff,
      HealthCheck.shaped_iff, part, Shape.Admits, Shape.isMatch, isObject, isString, groupKey,
      profileKey, balancerKey]
  have hexposes : ¬ c.Exposes (doc profileKey) := by
    simp [doc, profile, c, Exposes, MachineGroup.Exposes, InstanceProfile.Exposes, Policy.HasNull,
      LoadBalancer.HasNull, HealthCheck.HasNull, Subnets.HasNull, part, groupKey, profileKey,
      balancerKey]
  have hdecode : c.decode d.json = .ok c' := by
    rw [decode_eq_ok_iff d.ordered, hrenamed]
    exact ⟨by decide, schemaCheck_iff_shaped.2 ⟨rfl, hshaped⟩, hexposes, rfl⟩
  exact ⟨d, c, c', by decide, by decide, hdecode, decode_decode d hdecode⟩

end Cluster

end StackForm
