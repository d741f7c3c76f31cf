import StackForm.Proofs.Cluster.Decode

/-!
# The fields of a cluster, one by one

A field has a place: the keys that lead to it in a document, and the way to it in a cluster. Every
cluster has the fields at the top and those of its group; the others it has only together with the
optional record that they belong to. With the places at hand the update of a cluster is described
without its definition: what a document gives for a field is the new value, and everything else is
as it was.
-/

namespace StackForm

open Json

/-- The value that the keys lead to, unless it is null. -/
def Json.given? (doc : Json) (keys : List String) : Option Json :=
  (doc.at? keys).filter (!·.isNull)

lemma Json.given?_eq (doc : Json) (keys : List String) :
    doc.given? keys = if doc.reach keys = .null then none else some (doc.reach keys) := by
  rw [given?, ← getD_at?]
  cases doc.at? keys with
  | none => rfl
  | some v => cases v <;> simp [isNull]

lemma Json.given?_eq_none_iff {doc : Json} {keys : List String} :
    doc.given? keys = none ↔ doc.reach keys = .null := by
  simp [given?_eq]

lemma Json.reach_concat (doc : Json) (keys : List String) (key : String) :
    doc.reach (keys ++ [key]) = (doc.reach keys).part key := by
  simp [reach]

lemma Json.isObject_reach_iff {doc : Json} {keys : List String} :
    (doc.reach keys).isObject = true ↔ ∃ members, doc.at? keys = some (.obj members) := by
  rw [← getD_at?]
  constructor
  · intro h
    cases hv : doc.at? keys with
    | none => simp [hv, isObject] at h
    | some v =>
      cases v with
      | obj members => exact ⟨members, rfl⟩
      | _ => simp [hv, isObject] at h
  · rintro ⟨members, h⟩
    rw [h]
    rfl

/-! ### Parts that are no objects -/

lemma Policy.update_of_not_isObject (p : Policy) {v : Json} (hv : v.isObject = false) :
    p.update v = p := by
  simp [update, part_of_not_isObject hv]

lemma InstanceProfile.update_of_not_isObject (p : InstanceProfile) {v : Json}
    (hv : v.isObject = false) : p.update v = p := by
  have hpolicy : (null).recordOr Policy.update .zero p.policy = p.policy := rfl
  simp [update, part_of_not_isObject hv, hpolicy]

lemma LoadBalancer.update_of_not_isObject (b : LoadBalancer) {v : Json}
    (hv : v.isObject = false) : b.update v = b := by
  simp [update, HealthCheck.update, Subnets.update, part_of_not_isObject hv]

namespace Cluster

/-! ### Places -/

/-- Where a document holds a part of a cluster, and what a cluster has there; `none` if it lacks the
record that the part belongs to. -/
structure Place (α : Type) where
  keys : List String
  get? : Cluster → Option α

namespace Place

variable {α ρ : Type}

/-- The cluster itself. -/
def root : Place Cluster := ⟨[], some⟩

/-- A part that every record at a place has. -/
def member (p : Place ρ) (key : String) (get : ρ → α) : Place α :=
  ⟨p.keys ++ [key], fun c => (p.get? c).map get⟩

/-- A part that a record at a place may have. -/
def optional (p : Place ρ) (key : String) (get : ρ → Option α) : Place α :=
  ⟨p.keys ++ [key], fun c => (p.get? c).bind get⟩

def group : Place MachineGroup := root.member groupKey (·.group)

def profile : Place InstanceProfile := group.optional profileKey (·.profile)

def policy : Place Policy := profile.optional "policy" (·.policy)

def balancer : Place LoadBalancer := root.optional balancerKey (·.balancer)

def healthCheck : Place HealthCheck := balancer.member "healthCheck" (·.healthCheck)

def groupSubnets : Place Subnets := group.member "subnets" (·.subnets)

def balancerSubnets : Place Subnets := balancer.member "subnets" (·.subnets)

/-- The texts of a cluster. -/
def texts : List (Place String) := [
  root.member "name" (·.name), root.member "region" (·.region), root.member "vpcId" (·.vpcId),
  group.member "image" (·.image), group.member "instanceType" (·.instanceType),
  groupSubnets.member "tag" (·.tag), groupSubnets.member "tagName" (·.tagName),
  policy.member "effect" (·.effect), balancer.member "scheme" (·.scheme),
  healthCheck.member "target" (·.target),
  healthCheck.member "healthyThreshold" (·.healthyThreshold),
  healthCheck.member "unhealthyThreshold" (·.unhealthyThreshold),
  healthCheck.member "interval" (·.interval), healthCheck.member "timeout" (·.timeout),
  balancerSubnets.member "tag" (·.tag), balancerSubnets.member "tagName" (·.tagName)]

/-- The truth values of a cluster. -/
def flags : List (Place Bool) := [balancer.member "public" (·.isPublic)]

/-- The lists of texts of a cluster. -/
def lists : List (Place (List String)) := [
  groupSubnets.member "ids" (·.ids), profile.member "roles" (·.roles),
  policy.member "action" (·.action), balancerSubnets.member "ids" (·.ids)]

end Place

/-! ### Laying a document over a cluster, field by field -/

/-- What `c'` has at a place is what the document gives there. Where the document gives nothing, it
is what `c` has; and it is the zero value if `c` lacks the record. -/
structure Place.LaidOver {α : Type} (p : Place α) (write : α → Json) (zero : α) (c : Cluster)
    (n : Json) (c' : Cluster) : Prop where
  value : ∀ a, p.get? c' = some a →
    write a = (n.given? p.keys).getD (write ((p.get? c).getD zero))
  unchanged : n.given? p.keys = none → ∀ a, p.get? c = some a → p.get? c' = some a

/-- The record is there if it was there before, or if the document has an object in its place. -/
def Place.Joined {α : Type} (p : Place α) (c : Cluster) (n : Json) (c' : Cluster) : Prop :=
  (p.get? c').isSome = true ↔
    (p.get? c).isSome = true ∨ ∃ members, n.at? p.keys = some (.obj members)

/-- `c'` is `c` with the document `n` laid over it. -/
structure LaidOver (c : Cluster) (n : Json) (c' : Cluster) : Prop where
  texts : ∀ p ∈ Place.texts, p.LaidOver .str "" c n c'
  flags : ∀ p ∈ Place.flags, p.LaidOver .bool false c n c'
  lists : ∀ p ∈ Place.lists, p.LaidOver .strings [] c n c'
  profile : Place.profile.Joined c n c'
  policy : Place.policy.Joined c n c'
  balancer : Place.balancer.Joined c n c'

/-! ### Places of an updated cluster -/

/-- The update of a cluster is an update of what it has at a place, or of the zero value; and it
leaves no gap at a place that was filled, or where the document has an object. -/
structure Place.Updates {α : Type} (p : Place α) (update : α → Json → α) (zero : α) (c : Cluster)
    (n : Json) : Prop where
  eq_update : ∀ a, p.get? (c.update n) = some a →
    a = update ((p.get? c).getD zero) (n.reach p.keys)
  isSome : (p.get? c).isSome = true ∨ (n.reach p.keys).isObject = true →
    (p.get? (c.update n)).isSome = true

namespace Place

variable {α ρ : Type} {p : Place ρ} {update : ρ → Json → ρ} {zero : ρ} {c : Cluster} {n : Json}

lemma updates_root : root.Updates Cluster.update .zero c n := by
  constructor
  · intro a ha
    exact (Option.some.inj ha).symm
  · intro _
    rfl

/-- From a record the update goes on to the parts that it always has. -/
lemma Updates.member (h : p.Updates update zero c n) {key : String} {get : ρ → α}
    {update' : α → Json → α} (hget : ∀ r v, get (update r v) = update' (get r) (v.part key)) :
    (p.member key get).Updates update' (get zero) c n := by
  constructor
  · intro a ha
    obtain ⟨r, hr, rfl⟩ := Option.map_eq_some_iff.1 ha
    have hold : ((p.member key get).get? c).getD (get zero) = get ((p.get? c).getD zero) :=
      Option.getD_map get zero (p.get? c)
    show get r = update' (((p.member key get).get? c).getD (get zero)) (n.reach (p.keys ++ [key]))
    rw [hold, reach_concat, h.eq_update r hr, hget]
  · intro hc
    have hp : (p.get? c).isSome = true ∨ (n.reach p.keys).isObject = true := by
      rcases hc with hc | hc
      · exact .inl (by simpa [Place.member] using hc)
      · refine .inr (isObject_of_part key ?_)
        rintro hnull
        simp [Place.member, reach_concat, hnull, isObject] at hc
    simpa [Place.member] using h.isSome hp

section Optional

variable {key : String} {get : ρ → Option α} {update' : α → Json → α} {zero' : α}

/-- What an updated record has for an optional part, told by what the old cluster has there. -/
lemma Updates.get_optional (h : p.Updates update zero c n)
    (hget : ∀ r v, get (update r v) = (v.part key).recordOr update' zero' (get r))
    (hnone : get zero = none) {r : ρ} (hr : p.get? (c.update n) = some r) :
    get r =
      (n.reach (p.keys ++ [key])).recordOr update' zero' ((p.optional key get).get? c) := by
  have hold : (p.optional key get).get? c = get ((p.get? c).getD zero) := by
    show (p.get? c).bind get = _
    cases p.get? c with
    | none => exact hnone.symm
    | some old => rfl
  rw [h.eq_update r hr, hget, hold, reach_concat]

/-- An optional record is updated where it is there, and begun where only the document has it. -/
lemma Updates.optional (h : p.Updates update zero c n)
    (hget : ∀ r v, get (update r v) = (v.part key).recordOr update' zero' (get r))
    (hnone : get zero = none) (hkeep : ∀ r v, v.isObject = false → update' r v = r) :
    (p.optional key get).Updates update' zero' c n := by
  constructor
  · intro a ha
    obtain ⟨r, hr, hra⟩ := Option.bind_eq_some_iff.1 ha
    rw [h.get_optional hget hnone hr, recordOr] at hra
    split at hra
    · exact (Option.some.inj hra).symm
    · next hobj =>
      rw [hra]
      exact (hkeep a _ (Bool.eq_false_iff.2 hobj)).symm
  · intro hc
    have hp : (p.get? c).isSome = true ∨ (n.reach p.keys).isObject = true := by
      rcases hc with hc | hc
      · exact .inl (Option.isSome_of_isSome_bind hc)
      · refine .inr (isObject_of_part key fun hnull => ?_)
        simp [Place.optional, reach_concat, hnull, isObject] at hc
    obtain ⟨r, hr⟩ := Option.isSome_iff_exists.1 (h.isSome hp)
    show ((p.get? (c.update n)).bind get).isSome = true
    rw [hr, Option.bind_some, h.get_optional hget hnone hr, recordOr]
    split
    · rfl
    · next hobj => exact hc.resolve_right hobj

/-- An optional record comes from the old cluster or from the document. -/
lemma Updates.joined (h : p.Updates update zero c n)
    (hget : ∀ r v, get (update r v) = (v.part key).recordOr update' zero' (get r))
    (hnone : get zero = none) (hkeep : ∀ r v, v.isObject = false → update' r v = r) :
    (p.optional key get).Joined c n (c.update n) := by
  constructor
  · intro hc
    obtain ⟨a, ha⟩ := Option.isSome_iff_exists.1 hc
    obtain ⟨r, hr, hra⟩ := Option.bind_eq_some_iff.1 ha
    rw [h.get_optional hget hnone hr, recordOr] at hra
    split at hra
    · next hobj => exact .inr (isObject_reach_iff.1 hobj)
    · exact .inl (by rw [hra]; rfl)
  · intro hc
    exact (h.optional hget hnone hkeep).isSome (hc.imp_right isObject_reach_iff.2)

end Optional

/-- What is laid over a single value replaces it or leaves it. -/
lemma Updates.laidOver {a : Place α} {pick : α → Json → α} {zero : α} {write : α → Json}
    (h : a.Updates pick zero c n) (hinj : Function.Injective write)
    (hlay : ∀ old, write (pick old (n.reach a.keys)) = overlay (write old) (n.reach a.keys))
    (hwrite : ∀ x, (write x).isObject = false) : a.LaidOver write zero c n (c.update n) := by
  constructor
  · intro x hx
    rw [h.eq_update x hx, hlay, given?_eq]
    split
    · next hnull => rw [hnull, overlay_null, Option.getD_none]
    · next hne => rw [overlay_of_not_merging hne (by simp [hwrite]), Option.getD_some]
  · intro hnone x hx
    have hnull : n.reach a.keys = .null := given?_eq_none_iff.1 hnone
    obtain ⟨y, hy⟩ := Option.isSome_iff_exists.1 (h.isSome (.inl (by rw [hx]; rfl)))
    have hyx : write y = write x := by
      rw [h.eq_update y hy, hlay, hnull, overlay_null, hx, Option.getD_some]
    rw [hy, hinj hyx]

lemma Updates.text (h : p.Updates update zero c n) {key : String} {get : ρ → String}
    (hget : ∀ r v, get (update r v) = (v.part key).textOr (get r)) (hzero : get zero = "")
    (hv : Shape.text.Admits ((n.reach p.keys).part key)) :
    (p.member key get).LaidOver .str "" c n (c.update n) := by
  have hu : (p.member key get).Updates (fun old v => v.textOr old) (get zero) c n := h.member hget
  rw [hzero] at hu
  refine hu.laidOver (fun _ _ => Json.str.inj) (fun old => ?_) fun _ => rfl
  exact (overlay_str (by rwa [Place.member, reach_concat]) old).symm

lemma Updates.flag (h : p.Updates update zero c n) {key : String} {get : ρ → Bool}
    (hget : ∀ r v, get (update r v) = (v.part key).flagOr (get r)) (hzero : get zero = false)
    (hv : Shape.flag.Admits ((n.reach p.keys).part key)) :
    (p.member key get).LaidOver .bool false c n (c.update n) := by
  have hu : (p.member key get).Updates (fun old v => v.flagOr old) (get zero) c n := h.member hget
  rw [hzero] at hu
  refine hu.laidOver (fun _ _ => Json.bool.inj) (fun old => ?_) fun _ => rfl
  exact (overlay_bool (by rwa [Place.member, reach_concat]) old).symm

/-- A list is one value: it is replaced as a whole. -/
lemma Updates.list (h : p.Updates update zero c n) {key : String} {get : ρ → List String}
    (hget : ∀ r v, get (update r v) = (v.part key).textsOr (get r)) (hzero : get zero = [])
    (hv : Shape.texts.Admits ((n.reach p.keys).part key)) :
    (p.member key get).LaidOver .strings [] c n (c.update n) := by
  have hu : (p.member key get).Updates (fun old v => v.textsOr old) (get zero) c n := h.member hget
  rw [hzero] at hu
  refine hu.laidOver strings_injective (fun old => ?_) fun _ => rfl
  exact (overlay_strings (by rwa [Place.member, reach_concat]) old).symm

end Place

/-! ### The update lays the document over the cluster -/

lemma updates_group (c : Cluster) (n : Json) :
    Place.group.Updates MachineGroup.update .zero c n :=
  Place.updates_root.member fun _ _ => rfl

lemma updates_profile (c : Cluster) (n : Json) :
    Place.profile.Updates InstanceProfile.update .zero c n :=
  (updates_group c n).optional (fun _ _ => rfl) rfl fun p _ => p.update_of_not_isObject

lemma updates_policy (c : Cluster) (n : Json) :
    Place.policy.Updates Policy.update .zero c n :=
  (updates_profile c n).optional (fun _ _ => rfl) rfl fun p _ => p.update_of_not_isObject

lemma updates_balancer (c : Cluster) (n : Json) :
    Place.balancer.Updates LoadBalancer.update .zero c n :=
  Place.updates_root.optional (fun _ _ => rfl) rfl fun b _ => b.update_of_not_isObject

lemma updates_healthCheck (c : Cluster) (n : Json) :
    Place.healthCheck.Updates HealthCheck.update .zero c n :=
  (updates_balancer c n).member fun _ _ => rfl

lemma updates_groupSubnets (c : Cluster) (n : Json) :
    Place.groupSubnets.Updates Subnets.update .zero c n :=
  (updates_group c n).member fun _ _ => rfl

lemma updates_balancerSubnets (c : Cluster) (n : Json) :
    Place.balancerSubnets.Updates Subnets.update .zero c n :=
  (updates_balancer c n).member fun _ _ => rfl

/-- Where the shapes are right, the update lays the document over the cluster. -/
lemma laidOver_update (c : Cluster) {n : Json} (h : Shaped n) : c.LaidOver n (c.update n) := by
  have hroot : Place.root.Updates Cluster.update .zero c n := Place.updates_root
  have hgroup := updates_group c n
  have hprofile := updates_profile c n
  have hpolicy := updates_policy c n
  have hbalancer := updates_balancer c n
  have hcheck := updates_healthCheck c n
  have hsubnets := updates_groupSubnets c n
  have hsubnets' := updates_balancerSubnets c n
  constructor
  · simp only [Place.texts, List.forall_mem_cons, List.not_mem_nil, false_implies,
      implies_true, and_true]
    exact ⟨hroot.text (fun _ _ => rfl) rfl h.name, hroot.text (fun _ _ => rfl) rfl h.region,
      hroot.text (fun _ _ => rfl) rfl h.vpcId, hgroup.text (fun _ _ => rfl) rfl h.group.image,
      hgroup.text (fun _ _ => rfl) rfl h.group.instanceType,
      hsubnets.text (fun _ _ => rfl) rfl h.group.subnets.tag,
      hsubnets.text (fun _ _ => rfl) rfl h.group.subnets.tagName,
      hpolicy.text (fun _ _ => rfl) rfl h.group.profile.policy.effect,
      hbalancer.text (fun _ _ => rfl) rfl h.balancer.scheme,
      hcheck.text (fun _ _ => rfl) rfl h.balancer.healthCheck.target,
      hcheck.text (fun _ _ => rfl) rfl h.balancer.healthCheck.healthyThreshold,
      hcheck.text (fun _ _ => rfl) rfl h.balancer.healthCheck.unhealthyThreshold,
      hcheck.text (fun _ _ => rfl) rfl h.balancer.healthCheck.interval,
      hcheck.text (fun _ _ => rfl) rfl h.balancer.healthCheck.timeout,
      hsubnets'.text (fun _ _ => rfl) rfl h.balancer.subnets.tag,
      hsubnets'.text (fun _ _ => rfl) rfl h.balancer.subnets.tagName⟩
  · simp only [Place.flags, List.forall_mem_singleton]
    exact hbalancer.flag (fun _ _ => rfl) rfl h.balancer.isPublic
  · simp only [Place.lists, List.forall_mem_cons, List.not_mem_nil, false_implies,
      implies_true, and_true]
    exact ⟨hsubnets.list (fun _ _ => rfl) rfl h.group.subnets.ids,
      hprofile.list (fun _ _ => rfl) rfl h.group.profile.roles,
      hpolicy.list (fun _ _ => rfl) rfl h.group.profile.policy.action,
      hsubnets'.list (fun _ _ => rfl) rfl h.balancer.subnets.ids⟩
  · exact hgroup.joined (fun _ _ => rfl) rfl fun p _ => p.update_of_not_isObject
  · exact hprofile.joined (fun _ _ => rfl) rfl fun p _ => p.update_of_not_isObject
  · exact hroot.joined (fun _ _ => rfl) rfl fun b _ => b.update_of_not_isObject

/-! ### No more than that -/

namespace Place

variable {α ρ : Type}

/-- The clusters do not differ at a place where both have something. -/
def Agrees (p : Place α) (x y : Cluster) : Prop :=
  ∀ a b, p.get? x = some a → p.get? y = some b → a = b

/-- What is laid over a place is told by the old cluster and the document. -/
lemma LaidOver.agrees {p : Place α} {write : α → Json} {zero : α} {c x y : Cluster} {n : Json}
    (hinj : Function.Injective write) (hx : p.LaidOver write zero c n x)
    (hy : p.LaidOver write zero c n y) : p.Agrees x y := by
  intro a b ha hb
  apply hinj
  rw [hx.value a ha, hy.value b hb]

lemma Joined.isSome_eq {p : Place α} {c x y : Cluster} {n : Json} (hx : p.Joined c n x)
    (hy : p.Joined c n y) : (p.get? x).isSome = (p.get? y).isSome :=
  Bool.eq_iff_iff.2 (hx.trans hy.symm)

variable {p : Place ρ} {x y : Cluster} {a b : ρ} {key : String}

lemma Agrees.of_member {get : ρ → α} (h : (p.member key get).Agrees x y) (ha : p.get? x = some a)
    (hb : p.get? y = some b) : get a = get b := by
  apply h
  · show (p.get? x).map get = _
    rw [ha, Option.map_some]
  · show (p.get? y).map get = _
    rw [hb, Option.map_some]

lemma Agrees.of_optional {get : ρ → Option α} (h : (p.optional key get).Agrees x y)
    (hsome : ((p.optional key get).get? x).isSome = ((p.optional key get).get? y).isSome)
    (ha : p.get? x = some a) (hb : p.get? y = some b) : get a = get b := by
  have hga : (p.optional key get).get? x = get a := by
    show (p.get? x).bind get = _
    rw [ha, Option.bind_some]
  have hgb : (p.optional key get).get? y = get b := by
    show (p.get? y).bind get = _
    rw [hb, Option.bind_some]
  rw [hga, hgb] at hsome
  cases hoa : get a with
  | none =>
    rw [hoa] at hsome
    exact (Option.not_isSome_iff_eq_none.1 (by simp [← hsome])).symm
  | some u =>
    rw [hoa] at hsome
    obtain ⟨v, hv⟩ := Option.isSome_iff_exists.1 hsome.symm
    rw [hv, h u v (hga.trans hoa) (hgb.trans hv)]

lemma agrees_subnets {p : Place Subnets} (htag : (p.member "tag" (·.tag)).Agrees x y)
    (htagName : (p.member "tagName" (·.tagName)).Agrees x y)
    (hids : (p.member "ids" (·.ids)).Agrees x y) : p.Agrees x y := by
  rintro ⟨_, _, _⟩ ⟨_, _, _⟩ ha hb
  rw [Subnets.mk.injEq]
  exact ⟨htag.of_member ha hb, htagName.of_member ha hb, hids.of_member ha hb⟩

end Place

/-- Clusters are told by their texts, truth values and lists, and by which optional records they
have. -/
lemma eq_of_agrees {x y : Cluster} (htexts : ∀ p ∈ Place.texts, p.Agrees x y)
    (hflags : ∀ p ∈ Place.flags, p.Agrees x y) (hlists : ∀ p ∈ Place.lists, p.Agrees x y)
    (hprofile : (Place.profile.get? x).isSome = (Place.profile.get? y).isSome)
    (hpolicy : (Place.policy.get? x).isSome = (Place.policy.get? y).isSome)
    (hbalancer : (Place.balancer.get? x).isSome = (Place.balancer.get? y).isSome) : x = y := by
  simp only [Place.texts, Place.flags, Place.lists, List.forall_mem_cons, List.not_mem_nil,
    false_implies, implies_true, and_true] at htexts hflags hlists
  obtain ⟨hname, hregion, hvpc, himage, htype, htag, htagName, heffect, hscheme, htarget, hhealthy,
    hunhealthy, hinterval, htimeout, htag', htagName'⟩ := htexts
  obtain ⟨hids, hroles, haction, hids'⟩ := hlists
  have hpolicies : Place.policy.Agrees x y := by
    rintro ⟨_, _⟩ ⟨_, _⟩ ha hb
    rw [Policy.mk.injEq]
    exact ⟨heffect.of_member ha hb, haction.of_member ha hb⟩
  have hprofiles : Place.profile.Agrees x y := by
    rintro ⟨_, _⟩ ⟨_, _⟩ ha hb
    rw [InstanceProfile.mk.injEq]
    exact ⟨hroles.of_member ha hb, hpolicies.of_optional hpolicy ha hb⟩
  have hgroups : Place.group.Agrees x y := by
    rintro ⟨_, _, _, _⟩ ⟨_, _, _, _⟩ ha hb
    rw [MachineGroup.mk.injEq]
    exact ⟨himage.of_member ha hb, htype.of_member ha hb,
      (Place.agrees_subnets htag htagName hids).of_member ha hb,
      hprofiles.of_optional hprofile ha hb⟩
  have hchecks : Place.healthCheck.Agrees x y := by
    rintro ⟨_, _, _, _, _⟩ ⟨_, _, _, _, _⟩ ha hb
    rw [HealthCheck.mk.injEq]
    exact ⟨htarget.of_member ha hb, hhealthy.of_member ha hb, hunhealthy.of_member ha hb,
      hinterval.of_member ha hb, htimeout.of_member ha hb⟩
  have hbalancers : Place.balancer.Agrees x y := by
    rintro ⟨_, _, _, _⟩ ⟨_, _, _, _⟩ ha hb
    rw [LoadBalancer.mk.injEq]
    exact ⟨hscheme.of_member ha hb, hflags.of_member ha hb, hchecks.of_member ha hb,
      (Place.agrees_subnets htag' htagName' hids').of_member ha hb⟩
  have hx : Place.root.get? x = some x := rfl
  have hy : Place.root.get? y = some y := rfl
  obtain ⟨_, _, _, _, _⟩ := x
  obtain ⟨_, _, _, _, _⟩ := y
  rw [Cluster.mk.injEq]
  exact ⟨hname.of_member hx hy, hregion.of_member hx hy, hvpc.of_member hx hy,
    hgroups.of_member hx hy, hbalancers.of_optional hbalancer hx hy⟩

lemma LaidOver.eq {c x y : Cluster} {n : Json} (hx : c.LaidOver n x) (hy : c.LaidOver n y) :
    x = y :=
  eq_of_agrees (fun p hp => (hx.texts p hp).agrees (fun _ _ => Json.str.inj) (hy.texts p hp))
    (fun p hp => (hx.flags p hp).agrees (fun _ _ => Json.bool.inj) (hy.flags p hp))
    (fun p hp => (hx.lists p hp).agrees strings_injective (hy.lists p hp))
    (hx.profile.isSome_eq hy.profile) (hx.policy.isSome_eq hy.policy)
    (hx.balancer.isSome_eq hy.balancer)

/-! ### Decoding -/

/-- A cluster that was decoded is the old one with the document laid over it, and it is the only
cluster that is. -/
theorem laidOver_iff_eq_of_decode {c c' : Cluster} {d : Document} {n : Json}
    (hn : currentSpelling d.json = .ok n) (hc : c.decode d.json = .ok c') (x : Cluster) :
    c.LaidOver n x ↔ x = c' := by
  obtain ⟨_, rfl⟩ := eq_renamed_of_currentSpelling hn
  obtain ⟨_, hschema, _, rfl⟩ := (decode_eq_ok_iff d.ordered).1 hc
  have hlaid := c.laidOver_update (schemaCheck_iff_shaped.1 hschema).2
  constructor
  · intro hx
    exact hx.eq hlaid
  · rintro rfl
    exact hlaid

/-- A document with a tag, a role and a public balancer, laid over the initial cluster. The default
tag name stays, and the fields that the balancer is not given are empty. -/
theorem laidOver_initial_public :
    ∃ (d : Document) (n : Json) (c : Cluster), currentSpelling d.json = .ok n ∧
      initial.decode d.json = .ok c ∧ c.group.subnets = ⟨"db", "Name", []⟩ ∧
      c.group.profile = some ⟨["admin"], none⟩ ∧
      c.balancer = some ⟨"", true, .zero, .zero⟩ ∧ initial.LaidOver n c := by
  let doc (key : String) : Json := .obj [
    (groupKey, .obj [(key, .obj [("roles", .strings ["admin"])]),
      ("subnets", .obj [("tag", .str "db")])]),
    (balancerKey, .obj [("public", .bool true)])]
  let c : Cluster := ⟨"", "", "", ⟨"", "", ⟨"db", "Name", []⟩, some ⟨["admin"], none⟩⟩,
    some ⟨"", true, .zero, .zero⟩⟩
  have ho : (doc legacyProfileKey).Ordered := ordered_sorted (doc legacyProfileKey)
  have hn : currentSpelling (doc legacyProfileKey) = .ok (doc profileKey) := rfl
  have hfree : (doc profileKey).NullFree := by
    simp [doc, strings, NullFree, Every, EveryMember, EveryItem]
  have hshaped : Shaped (doc profileKey) := by
    simp [doc, shaped_iff, MachineGroup.shaped_iff, Subnets.shaped_iff, InstanceProfile.shaped_iff,
      Policy.shaped_iff, LoadBalancer.shaped_iff, HealthCheck.shaped_iff, part, Shape.Admits,
      Shape.isMatch, isObject, isString, isBool, strings, groupKey, profileKey, balancerKey]
  have hc : initial.decode (doc legacyProfileKey) = .ok c :=
    (decode_eq_ok_iff ho).2
      ⟨by decide, schemaCheck_iff_shaped.2 ⟨rfl, hshaped⟩, initial.not_exposes hfree, rfl⟩
  exact ⟨⟨_, ho⟩, _, c, hn, hc, rfl, rfl, rfl,
    (laidOver_iff_eq_of_decode (d := ⟨_, ho⟩) hn hc c).2 rfl⟩

end Cluster

end StackForm
