import StackForm.Proofs.Cluster.Properties
import StackForm.Proofs.Render.Text
import StackForm.Stack.Load

/-!
# The rendered text of a cluster

Every property that a cluster declares is a tidy document, whatever characters its texts hold. So
the rendered text is read back as the document of the template, and tells the template.
-/

namespace StackForm

open Json

variable {levels : Nat}

/-! ### The properties of a cluster are tidy -/

lemma tidy_reference (name : String) : (reference name).Tidy (levels + 1) := by
  apply tidy_obj
  · exact .of_keys ["Ref"] rfl (by decide)
  · simp [tidy_str]

lemma tidy_attributeOf (name attr : String) : (attributeOf name attr).Tidy (levels + 2) := by
  apply tidy_obj
  · exact .of_keys ["Fn::GetAtt"] rfl (by decide)
  · simp [tidy_strings]

namespace Cluster

variable (c : Cluster)

lemma tidy_nameTags : c.nameTags.Tidy (levels + 2) := by
  apply tidy_arr
  rw [List.forall_mem_singleton]
  apply tidy_obj
  · exact .of_keys ["Key", "Value"] rfl (by decide)
  · simp [tidy_str]

lemma tidy_policyDocument {statement : Json} (h : statement.Tidy levels) :
    (policyDocument statement).Tidy (levels + 2) := by
  apply tidy_obj
  · exact .of_keys ["Statement", "Version"] rfl (by decide)
  · simp [tidy_str, tidy_arr, h]

lemma tidy_profileRoles (p : InstanceProfile) : (profileRoles p).Tidy (levels + 2) := by
  rw [profileRoles]
  split
  · exact tidy_arr (List.forall_mem_singleton.2 (tidy_reference "InstanceRole"))
  · exact tidy_strings _ p.roles

lemma tidy_healthCheckDocument (h : HealthCheck) : (healthCheckDocument h).Tidy (levels + 1) := by
  apply tidy_obj
  · exact .of_keys ["HealthyThreshold", "Interval", "Target", "Timeout", "UnhealthyThreshold"] rfl
      (by decide)
  · simp [tidy_str]

/-- All properties of the resource are tidy. -/
def TidyResource (levels : Nat) (r : Resource) : Prop :=
  ∀ p ∈ r.properties.entries, p.2.Tidy levels

lemma tidyResource_withProperties {type : String} {properties : List (String × Json)}
    (h : ∀ p ∈ properties, p.2.Tidy levels) :
    TidyResource levels (.withProperties type properties) := by
  rw [TidyResource, Resource.properties_withProperties]
  exact fun p hp => h p (KeyMap.mem_of_mem_ofList hp)

lemma tidy_vpc : TidyResource (levels + 5) c.vpc :=
  tidyResource_withProperties (by simp [tidy_str, tidy_bool, tidy_nameTags])

lemma tidy_instanceRole : TidyResource (levels + 5) instanceRole := by
  have hprincipal : (Json.obj [("Service", .strings ["ec2.amazonaws.com"])]).Tidy (levels + 2) :=
    tidy_obj (.of_keys ["Service"] rfl (by decide)) (by simp [tidy_strings])
  have hstatement : (Json.obj [("Action", .strings ["sts:AssumeRole"]), ("Effect", .str "Allow"),
      ("Principal", .obj [("Service", .strings ["ec2.amazonaws.com"])])]).Tidy (levels + 3) :=
    tidy_obj (.of_keys ["Action", "Effect", "Principal"] rfl (by decide))
      (by simp [tidy_strings, tidy_str, hprincipal])
  exact tidyResource_withProperties (by simp [tidy_str, tidy_policyDocument hstatement])

lemma tidy_instancePolicy (p : InstanceProfile) (policy : Policy) :
    TidyResource (levels + 5) (c.instancePolicy p policy) := by
  have hstatement : (Json.obj [("Action", .strings policy.action), ("Effect", .str policy.effect),
      ("Resource", .str "*")]).Tidy (levels + 3) :=
    tidy_obj (.of_keys ["Action", "Effect", "Resource"] rfl (by decide))
      (by simp [tidy_strings, tidy_str])
  exact tidyResource_withProperties
    (by simp [tidy_str, tidy_policyDocument hstatement, tidy_profileRoles])

lemma tidy_instanceProfile (p : InstanceProfile) :
    TidyResource (levels + 5) (instanceProfile p) :=
  tidyResource_withProperties (by simp [tidy_str, tidy_profileRoles])

lemma tidy_launchConfiguration : TidyResource (levels + 5) c.launchConfiguration := by
  rw [launchConfiguration]
  apply tidyResource_withProperties
  cases c.group.profile.isSome <;> simp [tidy_str, tidy_reference]

lemma tidy_securityGroup : TidyResource (levels + 5) c.securityGroup := by
  have hrule : (Json.obj [("CidrIp", .str "0.0.0.0/0"), ("FromPort", .str listenerPort),
      ("IpProtocol", .str "tcp"), ("ToPort", .str listenerPort)]).Tidy (levels + 4) :=
    tidy_obj (.of_keys ["CidrIp", "FromPort", "IpProtocol", "ToPort"] rfl (by decide))
      (by simp [tidy_str])
  exact tidyResource_withProperties (by simp [tidy_str, tidy_arr, hrule])

lemma tidy_balancerResource (b : LoadBalancer) (subnets : List String) :
    TidyResource (levels + 5) (c.balancerResource b subnets) := by
  have hlistener : (Json.obj [("InstancePort", .str listenerPort),
      ("LoadBalancerPort", .str listenerPort), ("Protocol", .str "HTTP")]).Tidy (levels + 4) :=
    tidy_obj (.of_keys ["InstancePort", "LoadBalancerPort", "Protocol"] rfl (by decide))
      (by simp [tidy_str])
  rw [balancerResource]
  apply tidyResource_withProperties
  cases b.isPublic <;> simp [tidy_str, tidy_strings, tidy_arr, hlistener, tidy_healthCheckDocument,
    tidy_nameTags, tidy_reference]

lemma tidy_groupResource (subnets : List String) :
    TidyResource (levels + 5) (c.groupResource subnets) := by
  have htag : (Json.obj [("Key", .str "Name"), ("PropagateAtLaunch", .bool true),
      ("Value", .str c.name)]).Tidy (levels + 4) :=
    tidy_obj (.of_keys ["Key", "PropagateAtLaunch", "Value"] rfl (by decide))
      (by simp [tidy_str, tidy_bool])
  rw [groupResource]
  apply tidyResource_withProperties
  cases c.balancer.isSome <;> simp [tidy_str, tidy_strings, tidy_arr, htag, tidy_reference]

lemma tidy_templateWith (groupSubnets balancerSubnets : List String) :
    (c.templateWith groupSubnets balancerSubnets).Tidy (levels + 5) := by
  constructor
  · intro r hr
    have hmem : r ∈ c.resources groupSubnets balancerSubnets := KeyMap.mem_of_mem_ofList hr
    exact forall_mem_resources c.tidy_vpc tidy_instanceRole c.tidy_instancePolicy
      tidy_instanceProfile c.tidy_launchConfiguration c.tidy_securityGroup
      (fun b => c.tidy_balancerResource b _) (c.tidy_groupResource _) r hmem
  · intro o ho
    have hmem : o ∈ c.outputs := KeyMap.mem_of_mem_ofList ho
    simp only [outputs, List.mem_append, mem_ite_singleton, List.mem_singleton] at hmem
    rcases hmem with ⟨_, rfl⟩ | rfl
    · exact tidy_attributeOf _ _
    · exact tidy_reference _

/-! ### Reading the text back -/

variable {c : Cluster} {ctx : RenderContext} {text : String}

lemma exists_template_of_render (h : c.render ctx = .ok text) :
    ∃ t, c.template ctx = .ok t ∧ t.text = text := by
  rw [render] at h
  cases ht : c.template ctx with
  | error e =>
    rw [ht] at h
    cases h
  | ok t =>
    rw [ht] at h
    exact ⟨t, rfl, Except.ok.inj h⟩

/-- The text of a template is read back as a document that shows the template. -/
lemma parse_text_of_template {t : Template} (h : c.template ctx = .ok t) :
    Json.parse (Utf8.encode t.text) = .ok t.document.sorted ∧ t.ShownBy t.document.sorted := by
  obtain ⟨groupSubnets, _, balancerSubnets, _, rfl⟩ := template_eq_ok_iff.1 h
  have htidy : (c.templateWith groupSubnets balancerSubnets).Tidy (118 + 5) :=
    c.tidy_templateWith groupSubnets balancerSubnets
  exact ⟨htidy.parse_text rfl, htidy.shownBy⟩

lemma formatVersion_of_template {t : Template} (h : c.template ctx = .ok t) :
    t.formatVersion = "2010-09-09" := by
  obtain ⟨_, _, _, _, rfl⟩ := template_eq_ok_iff.1 h
  rfl

/-- A rendered text is read back as the document of the template, which shows its version and every
resource and output of it. So a text is rendered from one template only. -/
theorem parse_render (h : c.render ctx = .ok text) :
    ∃ t, c.template ctx = .ok t ∧ t.formatVersion = "2010-09-09" ∧
      Format.parse .json (Utf8.encode text) = .ok t.document.sorted ∧
      t.ShownBy t.document.sorted ∧
      ∀ (c' : Cluster) (ctx' : RenderContext), c'.render ctx' = .ok text →
        c'.template ctx' = .ok t := by
  obtain ⟨t, ht, rfl⟩ := exists_template_of_render h
  obtain ⟨hparse, hshown⟩ := parse_text_of_template ht
  refine ⟨t, ht, formatVersion_of_template ht, Format.parse_json_eq_ok_iff.2 hparse, hshown,
    fun c' ctx' h' => ?_⟩
  obtain ⟨t', ht', htext⟩ := exists_template_of_render h'
  obtain ⟨hparse', hshown'⟩ := parse_text_of_template ht'
  rw [htext, hparse] at hparse'
  rw [← Except.ok.inj hparse'] at hshown'
  rw [ht', hshown'.unique hshown]

/-- An image with quotes, a backslash, line breaks and other characters that are escaped. -/
theorem parse_render_escaped :
    ∃ (c : Cluster) (ctx : RenderContext) (text : String) (doc : Json),
      c.render ctx = .ok text ∧ Format.parse .json (Utf8.encode text) = .ok doc ∧
      doc.at? ["Resources", "LaunchConfiguration", "Properties", "ImageId"] =
        some (.str "\"ami\\\r\n\x00\x1fé\"") := by
  let c : Cluster := ⟨"web", "", "", ⟨"\"ami\\\r\n\x00\x1fé\"", "", .zero, none⟩, none⟩
  let ctx := RenderContext.empty.withValue groupSubnetsKey (.strings [])
  have ht : c.template ctx = .ok (c.templateWith [] []) := template_withGroupSubnets rfl .empty []
  obtain ⟨t, htemplate, -, hparse, hshown, -⟩ := parse_render (render_of_template ht)
  obtain rfl : c.templateWith [] [] = t := Except.ok.inj (ht.symm.trans htemplate)
  refine ⟨c, ctx, _, _, render_of_template ht, hparse, ?_⟩
  rw [hshown.property]
  exact (property?_launchConfiguration "ImageId").trans c.image_launchConfiguration

end Cluster

end StackForm
