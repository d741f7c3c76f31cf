import StackForm.Proofs.Cluster.Preparation
import StackForm.Proofs.Cluster.Validity
import StackForm.Proofs.Lookup.Enquiry

/-!
# What preparation asks

Preparation asks for the group's subnets and then for those of the load balancer, each time only if
no identifiers are given, and not again after an enquiry that did not succeed. `Prepares` tells its
runs together with their enquiries. From it follow which questions a service is asked, when
preparation succeeds, and which error it ends with.
-/

namespace StackForm

section Steps

variable {ε σ α β : Type} {x : ExceptT ε (StateM σ) α} {f : α → ExceptT ε (StateM σ) β} {st st₁ : σ}

lemma run_bind_of_ok {a : α} (h : x.run.run st = (.ok a, st₁)) :
    (x >>= f).run.run st = (f a).run.run st₁ := by
  rw [ExceptT.run_bind, StateT.run_bind, h]
  rfl

lemma run_bind_of_error {e : ε} (h : x.run.run st = (.error e, st₁)) :
    (x >>= f).run.run st = (.error e, st₁) := by
  rw [ExceptT.run_bind, StateT.run_bind, h]
  rfl

end Steps

variable {σ τ : Type} {service : LookupService σ} {other : LookupService τ} {vpcId : String}
  {st st₁ st' : σ} {t t' : τ} {qs : List Enquiry}

/-! ### One choice of subnets -/

namespace Subnets

/-- The questions for a choice of subnets: one for the tag, unless identifiers are given. -/
def questions (s : Subnets) (vpcId : String) : List (String × String) :=
  if s.ids = [] then [(s.tag, vpcId)] else []

/-- What becomes of a choice of subnets, and the enquiries on the way. -/
inductive Resolves (service : LookupService σ) (vpcId : String) (s : Subnets) (st : σ) :
    List Enquiry → Except StackError (List String) → σ → Prop where
  | given : s.ids ≠ [] → Resolves service vpcId s st [] (.ok s.ids) st
  | asked {answer : Except LookupError (List String)} {st' : σ} : s.ids = [] →
      (service.find s.tag vpcId).run st = (answer, st') →
      Resolves service vpcId s st [⟨s.tag, vpcId, answer⟩]
        (Cluster.foundSubnets s.tag vpcId answer) st'

variable {s : Subnets} {result : Except StackError (List String)}

lemma exists_resolves (service : LookupService σ) (vpcId : String) (s : Subnets) (st : σ) :
    ∃ qs result st', s.Resolves service vpcId st qs result st' := by
  by_cases hids : s.ids = []
  · exact ⟨_, _, _, .asked hids rfl⟩
  · exact ⟨_, _, _, .given hids⟩

/-- What the service is asked on the way. -/
lemma Resolves.service_asked (h : s.Resolves service vpcId st qs result st') :
    service.Asked st qs st' := by
  cases h with
  | given _ => exact .nil st
  | asked _ hfind => exact .single hfind

/-- Another service that answers in the same way gives the same result. -/
lemma Resolves.of_asked (h : s.Resolves service vpcId st qs result st')
    (hasked : other.Asked t qs t') : s.Resolves other vpcId t qs result t' := by
  cases h with
  | given hids =>
    cases hasked
    exact .given hids
  | asked hids _ =>
    obtain _ | ⟨hfind, hrest⟩ := hasked
    cases hrest
    exact .asked hids hfind

lemma Resolves.map_question (h : s.Resolves service vpcId st qs result st') :
    qs.map Enquiry.question = s.questions vpcId := by
  rw [questions]
  cases h with
  | given hids => rw [if_neg hids, List.map_nil]
  | asked hids _ =>
    rw [if_pos hids]
    rfl

lemma Resolves.forall_succeeds (h : s.Resolves service vpcId st qs result st') {ids : List String}
    (hok : result = .ok ids) : ∀ q ∈ qs, q.Succeeds := by
  cases h with
  | given _ => exact nofun
  | asked _ _ =>
    rw [List.forall_mem_singleton]
    exact ⟨ids, Cluster.foundSubnets_eq_ok_iff.1 hok⟩

/-- An enquiry that does not succeed ends in the error that tells its question, and what kept the
service from answering. -/
lemma Resolves.exists_of_error (h : s.Resolves service vpcId st qs result st') {e : StackError}
    (he : result = .error e) :
    ∃ q, qs = [q] ∧ ¬ q.Succeeds ∧ e = .lookupFailure q.tag q.scope q.fault? := by
  cases h with
  | given _ => cases he
  | @asked answer _ _ _ =>
    refine ⟨_, rfl, ?_, ?_⟩
    · rintro ⟨ids, hsucceeds⟩
      rw [Cluster.foundSubnets_eq_ok_iff.2 hsucceeds] at he
      cases he
    · cases answer with
      | error e' => exact (Except.error.inj he).symm
      | ok ids =>
        cases ids with
        | nil => exact (Except.error.inj he).symm
        | cons id rest => cases he

end Subnets

/-! ### The whole preparation -/

namespace Cluster

variable {c : Cluster} {ctx ctx' : RenderContext} {result : Except StackError RenderContext}

/-- A choice of subnets is resolved as `resolveSubnets` does. -/
lemma run_resolveSubnets {s : Subnets} {result : Except StackError (List String)}
    (h : s.Resolves service c.vpcId st qs result st') :
    (c.resolveSubnets service s).run.run st = (result, st') := by
  rw [resolveSubnets]
  cases h with
  | given hids =>
    rw [if_neg (by simp [hids])]
    rfl
  | asked hids hfind =>
    rw [if_pos (by simp [hids])]
    show (foundSubnets _ _ ((service.find s.tag c.vpcId).run st).1,
      ((service.find s.tag c.vpcId).run st).2) = _
    rw [hfind]

/-- The context with the subnets of the group, and of the balancer. -/
def contextWith (ctx : RenderContext) (groupSubnets balancerSubnets : List String) :
    RenderContext :=
  (ctx.withValue groupSubnetsKey (.strings groupSubnets)).withValue balancerSubnetsKey
    (.strings balancerSubnets)

/-- The runs of the preparation, and the enquiries on the way: it stops at the group's subnets, it is
done with them, or it goes on to those of the balancer. -/
inductive Prepares (c : Cluster) (service : LookupService σ) (ctx : RenderContext) (st : σ) :
    List Enquiry → Except StackError RenderContext → σ → Prop where
  | stopped {qs : List Enquiry} {e : StackError} {st' : σ} :
      c.group.subnets.Resolves service c.vpcId st qs (.error e) st' →
      Prepares c service ctx st qs (.error e) st'
  | group {qs : List Enquiry} {ids : List String} {st' : σ} : c.balancer = none →
      c.group.subnets.Resolves service c.vpcId st qs (.ok ids) st' →
      Prepares c service ctx st qs (.ok (ctx.withValue groupSubnetsKey (.strings ids))) st'
  | balancer {b : LoadBalancer} {qs qs' : List Enquiry} {ids : List String}
      {result : Except StackError (List String)} {st₁ st' : σ} : c.balancer = some b →
      c.group.subnets.Resolves service c.vpcId st qs (.ok ids) st₁ →
      b.subnets.Resolves service c.vpcId st₁ qs' result st' →
      Prepares c service ctx st (qs ++ qs') (result.map (contextWith ctx ids)) st'

/-- Every preparation is one of these runs. -/
lemma exists_prepares (c : Cluster) (service : LookupService σ) (ctx : RenderContext) (st : σ) :
    ∃ qs result st', c.Prepares service ctx st qs result st' := by
  obtain ⟨qs, found, st₁, hgroup⟩ := c.group.subnets.exists_resolves service c.vpcId st
  cases found with
  | error e => exact ⟨_, _, _, .stopped hgroup⟩
  | ok ids =>
    cases hb : c.balancer with
    | none => exact ⟨_, _, _, .group hb hgroup⟩
    | some b =>
      obtain ⟨qs', found', st', hbalancer⟩ := b.subnets.exists_resolves service c.vpcId st₁
      exact ⟨_, _, _, .balancer hb hgroup hbalancer⟩

/-- The runs are those of `prepare`. -/
lemma Prepares.run (h : c.Prepares service ctx st qs result st') :
    (c.prepare service ctx).run.run st = (result, st') := by
  rw [prepare]
  cases h with
  | stopped hgroup => exact run_bind_of_error (run_resolveSubnets hgroup)
  | group hb hgroup =>
    rw [run_bind_of_ok (run_resolveSubnets hgroup), hb]
    rfl
  | @balancer _ _ _ _ found _ _ hb hgroup hbalancer =>
    rw [run_bind_of_ok (run_resolveSubnets hgroup), hb]
    cases found with
    | error e => exact run_bind_of_error (run_resolveSubnets hbalancer)
    | ok ids' => exact run_bind_of_ok (run_resolveSubnets hbalancer)

lemma Prepares.service_asked (h : c.Prepares service ctx st qs result st') :
    service.Asked st qs st' := by
  cases h with
  | stopped hgroup => exact hgroup.service_asked
  | group _ hgroup => exact hgroup.service_asked
  | balancer _ hgroup hbalancer => exact hgroup.service_asked.append hbalancer.service_asked

/-- Another service that answers in the same way gives the same result. -/
lemma Prepares.of_asked (h : c.Prepares service ctx st qs result st')
    (hasked : other.Asked t qs t') : c.Prepares other ctx t qs result t' := by
  cases h with
  | stopped hgroup => exact .stopped (hgroup.of_asked hasked)
  | group hb hgroup => exact .group hb (hgroup.of_asked hasked)
  | balancer hb hgroup hbalancer =>
    obtain ⟨_, hfront, hback⟩ := hasked.of_append
    exact .balancer hb (hgroup.of_asked hfront) (hbalancer.of_asked hback)

/-- The questions for the group come first. Those for the balancer follow if the former are
answered. -/
lemma Prepares.map_question (h : c.Prepares service ctx st qs result st') :
    ∃ front back, qs = front ++ back ∧
      front.map Enquiry.question = c.group.subnets.questions c.vpcId ∧
      ((∀ q ∈ front, q.Succeeds) →
        back.map Enquiry.question = c.balancer.elim [] (·.subnets.questions c.vpcId)) ∧
      (¬ (∀ q ∈ front, q.Succeeds) → back = []) := by
  cases h with
  | stopped hgroup =>
    obtain ⟨q, rfl, hfails, -⟩ := hgroup.exists_of_error rfl
    refine ⟨[q], [], rfl, hgroup.map_question, fun hsucceeds => ?_, fun _ => rfl⟩
    exact absurd (hsucceeds q List.mem_cons_self) hfails
  | group hb hgroup =>
    refine ⟨qs, [], (List.append_nil qs).symm, hgroup.map_question, fun _ => ?_, fun _ => rfl⟩
    rw [hb]
    rfl
  | balancer hb hgroup hbalancer =>
    refine ⟨_, _, rfl, hgroup.map_question, fun _ => ?_, fun hfails => ?_⟩
    · rw [hb]
      exact hbalancer.map_question
    · exact absurd (hgroup.forall_succeeds rfl) hfails

lemma Prepares.forall_succeeds (h : c.Prepares service ctx st qs (.ok ctx') st') :
    ∀ q ∈ qs, q.Succeeds := by
  generalize hresult : (Except.ok ctx' : Except StackError RenderContext) = result at h
  cases h with
  | stopped _ => cases hresult
  | group _ hgroup => exact hgroup.forall_succeeds rfl
  | @balancer _ _ _ _ found _ _ _ hgroup hbalancer =>
    rw [List.forall_mem_append]
    refine ⟨hgroup.forall_succeeds rfl, ?_⟩
    cases found with
    | error e => cases hresult
    | ok ids => exact hbalancer.forall_succeeds rfl

/-- The last enquiry of a preparation that fails tells its error. -/
lemma Prepares.exists_of_error {e : StackError}
    (h : c.Prepares service ctx st qs (.error e) st') :
    ∃ front q, qs = front ++ [q] ∧ ¬ q.Succeeds ∧
      e = .lookupFailure q.tag q.scope q.fault? := by
  generalize hresult : (Except.error e : Except StackError RenderContext) = result at h
  cases h with
  | stopped hgroup =>
    cases hresult
    obtain ⟨q, rfl, hq⟩ := hgroup.exists_of_error rfl
    exact ⟨[], q, rfl, hq⟩
  | group _ _ => cases hresult
  | @balancer _ front _ _ found _ _ _ _ hbalancer =>
    cases found with
    | error e' =>
      cases hresult
      obtain ⟨q, rfl, hq⟩ := hbalancer.exists_of_error rfl
      exact ⟨front, q, rfl, hq⟩
    | ok ids => cases hresult

/-- Preparation succeeds if all enquiries do. -/
lemma Prepares.exists_eq_ok_iff (h : c.Prepares service ctx st qs result st') :
    (∃ ctx', result = .ok ctx') ↔ ∀ q ∈ qs, q.Succeeds := by
  cases result with
  | ok ctx' => exact ⟨fun _ => h.forall_succeeds, fun _ => ⟨ctx', rfl⟩⟩
  | error e =>
    obtain ⟨front, q, rfl, hfails, -⟩ := h.exists_of_error
    constructor
    · rintro ⟨_, hok⟩
      cases hok
    · intro hsucceeds
      exact absurd (hsucceeds q (List.mem_append_right _ List.mem_cons_self)) hfails

/-! ### Rendering what was prepared -/

lemma template_withGroupSubnets (hb : c.balancer = none) (ctx : RenderContext) (ids : List String) :
    c.template (ctx.withValue groupSubnetsKey (.strings ids)) = .ok (c.templateWith ids []) := by
  refine template_eq_ok_iff.2 ⟨ids, subnetsIn_withValue_self _ _ _, [], ?_, rfl⟩
  rw [balancerSubnetsIn, hb]
  rfl

lemma template_contextWith {b : LoadBalancer} (hb : c.balancer = some b) (ctx : RenderContext)
    (ids ids' : List String) :
    c.template (contextWith ctx ids ids') = .ok (c.templateWith ids ids') := by
  refine template_eq_ok_iff.2 ⟨ids, ?_, ids', ?_, rfl⟩
  · rw [contextWith, subnetsIn_withValue_of_ne _ groupSubnetsKey_ne, subnetsIn_withValue_self]
  · rw [balancerSubnetsIn, hb]
    exact subnetsIn_withValue_self _ _ _

/-- A cluster that was prepared has a template, with the subnets that were obtained. -/
lemma exists_templateWith_of_prepare
    (h : (c.prepare service ctx).run.run st = (.ok ctx', st')) :
    ∃ ids ids' st₁, c.template ctx' = .ok (c.templateWith ids ids') ∧
      c.group.subnets.Obtained service c.vpcId st ids st₁ ∧
      match c.balancer with
      | none => st₁ = st'
      | some b => b.subnets.Obtained service c.vpcId st₁ ids' st' := by
  obtain ⟨ids, st₁, hgroup, hrest⟩ := prepare_eq_ok_iff.1 h
  cases hb : c.balancer with
  | none =>
    rw [hb] at hrest
    obtain ⟨rfl, rfl⟩ := hrest
    exact ⟨ids, [], st₁, template_withGroupSubnets hb ctx ids, hgroup, rfl⟩
  | some b =>
    rw [hb] at hrest
    obtain ⟨ids', hbalancer, rfl⟩ := hrest
    exact ⟨ids, ids', st₁, template_contextWith hb ctx ids ids', hgroup, hbalancer⟩

end Cluster

/-! ### The canned service -/

/-- The questions for a valid choice of subnets ask for a tag that there is. -/
lemma Subnets.Valid.forall_questions {s : Subnets} (h : s.Valid) :
    ∀ q ∈ s.questions vpcId, q.1 ≠ "" ∧ Rule.IsAscii q.1 ∧ q.2 = vpcId := by
  rw [questions]
  intro q hq
  split at hq
  · next hids =>
    obtain rfl := List.mem_singleton.1 hq
    rcases h.selects with ⟨htag, _⟩ | ⟨hne, _⟩
    · exact ⟨htag, h.tag, rfl⟩
    · exact absurd hids hne
  · cases hq

namespace CannedLookup

variable {canned canned' : CannedLookup}

/-- The service finds some identifiers for the tag. -/
def Finds (canned : CannedLookup) (tag : String) : Prop :=
  ∃ ids, canned.answer tag = .ok ids ∧ ids ≠ []

instance (canned : CannedLookup) (tag : String) : Decidable (canned.Finds tag) :=
  match h : canned.answer tag with
  | .error _ => isFalse fun ⟨_, hok, _⟩ => nomatch h.symm.trans hok
  | .ok [] => isFalse fun ⟨_, hok, hne⟩ => hne (Except.ok.inj (hok.symm.trans h))
  | .ok (id :: rest) => isTrue ⟨id :: rest, h, List.cons_ne_nil id rest⟩

/-- The identifiers that a choice of subnets stands for: the given ones as they are, or else the
answer for the tag. -/
def Gives (canned : CannedLookup) (s : Subnets) (ids : List String) : Prop :=
  if s.ids = [] then canned.answer s.tag = .ok ids else s.ids = ids

lemma forall_succeeds_iff (h : ∀ q ∈ qs, q.answer = canned.answer q.tag) :
    (∀ q ∈ qs, q.Succeeds) ↔ ∀ p ∈ qs.map Enquiry.question, canned.Finds p.1 := by
  rw [List.forall_mem_map]
  refine forall₂_congr fun q hq => ?_
  rw [Enquiry.Succeeds, h q hq]
  rfl

lemma gives_of_resolves {s : Subnets} {ids : List String}
    (h : s.Resolves CannedLookup.service vpcId canned qs (.ok ids) canned') :
    canned.Gives s ids := by
  rw [Gives]
  generalize hresult : (Except.ok ids : Except StackError (List String)) = result at h
  cases h with
  | given hids =>
    rw [if_neg hids]
    exact (Except.ok.inj hresult).symm
  | asked hids hfind =>
    rw [if_pos hids]
    cases hfind
    exact (Cluster.foundSubnets_eq_ok_iff.1 hresult.symm).1

end CannedLookup

namespace Cluster

variable {c : Cluster} {ctx ctx' : RenderContext} {canned canned' : CannedLookup}
  {result : Except StackError RenderContext}

/-- The questions that preparation asks a canned service: those for the group, and if they find
something those for the balancer. -/
def questions (c : Cluster) (canned : CannedLookup) : List (String × String) :=
  c.group.subnets.questions c.vpcId ++
    if ∀ q ∈ c.group.subnets.questions c.vpcId, canned.Finds q.1 then
      c.balancer.elim [] (·.subnets.questions c.vpcId)
    else []

lemma Prepares.questions_eq (h : c.Prepares CannedLookup.service ctx canned qs result canned') :
    c.questions canned = qs.map Enquiry.question := by
  obtain ⟨-, hanswers⟩ := CannedLookup.asked_iff.1 h.service_asked
  obtain ⟨front, back, rfl, hfront, hall, hfails⟩ := h.map_question
  have hfinds := CannedLookup.forall_succeeds_iff fun q hq =>
    hanswers q (List.mem_append_left back hq)
  rw [questions, List.map_append, ← hfront]
  by_cases hsucceeds : ∀ q ∈ front, q.Succeeds
  · rw [if_pos (hfinds.1 hsucceeds), hall hsucceeds]
  · rw [if_neg (mt hfinds.2 hsucceeds), hfails hsucceeds, List.map_nil]

/-- The context holds what the canned service gives. -/
lemma Prepares.gives (h : c.Prepares CannedLookup.service ctx canned qs (.ok ctx') canned') :
    ∃ ids, canned.Gives c.group.subnets ids ∧
      match c.balancer with
      | none => ctx' = ctx.withValue groupSubnetsKey (.strings ids)
      | some b => ∃ ids', canned.Gives b.subnets ids' ∧ ctx' = contextWith ctx ids ids' := by
  generalize hresult : (Except.ok ctx' : Except StackError RenderContext) = result at h
  cases h with
  | stopped _ => cases hresult
  | group hb hgroup =>
    cases hresult
    refine ⟨_, CannedLookup.gives_of_resolves hgroup, ?_⟩
    rw [hb]
  | @balancer _ _ _ ids found _ _ hb hgroup hbalancer =>
    refine ⟨ids, CannedLookup.gives_of_resolves hgroup, ?_⟩
    obtain ⟨rfl, -⟩ := CannedLookup.asked_iff.1 hgroup.service_asked
    rw [hb]
    cases found with
    | error e => cases hresult
    | ok ids' =>
      -- The questions asked so far do not change an answer.
      have hgives := CannedLookup.gives_of_resolves hbalancer
      exact ⟨ids', hgives, Except.ok.inj hresult⟩

/-- A valid cluster asks for tags that there are, in its own network. -/
lemma Valid.forall_questions (h : c.Valid) (canned : CannedLookup) :
    ∀ q ∈ c.questions canned, q.1 ≠ "" ∧ Rule.isAscii q.1 = true ∧ Rule.isVpc q.2 = true := by
  have hpart : ∀ s : Subnets, s.Valid → ∀ q ∈ s.questions c.vpcId,
      q.1 ≠ "" ∧ Rule.isAscii q.1 = true ∧ Rule.isVpc q.2 = true := by
    intro s hs q hq
    obtain ⟨hne, hascii, hscope⟩ := hs.forall_questions q hq
    rw [hscope]
    exact ⟨hne, Rule.isAscii_iff.2 hascii, Rule.isResourceId_iff.2 h.vpcId⟩
  rw [questions, List.forall_mem_append]
  refine ⟨hpart _ h.subnets, ?_⟩
  split
  · cases hb : c.balancer with
    | none => exact nofun
    | some b => exact hpart _ (h.balancer b hb).subnets
  · exact nofun

/-- Preparation asks the canned service its questions and nothing else. It succeeds if each of them
finds something, with the given identifiers and the found ones in the context. Otherwise it ends in
an error that tells the last question, and the fault of the service if it did not answer. The
questions of a valid cluster are sound. -/
theorem calls_prepare (c : Cluster) (ctx : RenderContext) (canned : CannedLookup) :
    ∃ result, (c.prepare CannedLookup.service ctx).run.run canned =
        (result, { canned with calls := canned.calls ++ c.questions canned }) ∧
      ((∃ ctx', result = .ok ctx') ↔ ∀ q ∈ c.questions canned, canned.Finds q.1) ∧
      (∀ ctx', result = .ok ctx' → ∃ ids, canned.Gives c.group.subnets ids ∧
        match c.balancer with
        | none => ctx' = ctx.withValue groupSubnetsKey (.strings ids)
        | some b => ∃ ids', canned.Gives b.subnets ids' ∧ ctx' = contextWith ctx ids ids') ∧
      (∀ e, result = .error e → ∃ tag scope cause,
        (c.questions canned).getLast? = some (tag, scope) ∧ e = .lookupFailure tag scope cause ∧
          ∀ fault, cause = some fault ↔ canned.answer tag = .error fault) ∧
      (c.validate = .ok () →
        ∀ q ∈ c.questions canned, q.1 ≠ "" ∧ Rule.isAscii q.1 = true ∧ Rule.isVpc q.2 = true) := by
  obtain ⟨qs, result, canned', h⟩ := c.exists_prepares CannedLookup.service ctx canned
  obtain ⟨rfl, hanswers⟩ := CannedLookup.asked_iff.1 h.service_asked
  refine ⟨result, ?_, ?_, ?_, ?_, fun hvalid => (validate_eq_ok_iff.1 hvalid).forall_questions canned⟩
  · rw [h.run, h.questions_eq]
  · rw [h.exists_eq_ok_iff, h.questions_eq, CannedLookup.forall_succeeds_iff hanswers]
  · rintro ctx' rfl
    exact h.gives
  · rintro e rfl
    obtain ⟨front, q, hqs, -, rfl⟩ := h.exists_of_error
    refine ⟨q.tag, q.scope, q.fault?, ?_, rfl, fun fault => ?_⟩
    · rw [h.questions_eq, hqs, List.map_append]
      exact List.getLast?_concat
    · have hq : q ∈ qs := hqs ▸ List.mem_append_right front List.mem_cons_self
      rw [Enquiry.fault?_eq_some_iff, hanswers q hq]

end Cluster

end StackForm
