import StackForm.CommandLine.Run
import StackForm.Proofs.Cluster.Enquiries
import StackForm.Proofs.Cluster.Saved
import StackForm.Proofs.CommandLine.Words
import StackForm.Proofs.Stack.Failure

/-!
# Validating and rendering agree

Both actions load the configuration first, and fail alike if that fails. Validating is then done.
Rendering goes on to look up subnets, which is the only thing that can still fail: a cluster that
was prepared has a template, so no failure of rendering itself is ever reported.
-/

namespace StackForm

variable {σ : Type}

/-- The host whose commands are recorded. -/
def Host.recording (host : Host σ) : Host (σ × List CommandRun) :=
  ⟨host.read, host.runner.recording⟩

namespace Invocation

/-- The stack that the configuration describes. -/
def loaded (inv : Invocation) (host : Host σ) : Except StackError Stack :=
  StackKinds.builtin.loadFile inv.stackConfig (host.read inv.stackConfig)

/-- The service that answers the lookups for a stack. -/
def serviceFor (inv : Invocation) (host : Host σ) (stack : Stack) : LookupService σ :=
  (inv.lookupFor stack).service host.runner

variable {inv : Invocation} {host : Host σ} {st st' : σ}

/-! ### What the actions come to -/

lemma run_of_result {result : Except StackError String}
    (h : (inv.result host).run.run st = (result, st')) :
    (inv.run host).run st = (.ofResult result, st') := by
  rw [run, StateT.run_bind, h]
  rfl

lemma run_pure_loaded {loaded : Except StackError Stack} (h : inv.loaded host = loaded) (st : σ) :
    (ExceptT.mk (pure (inv.loaded host)) : ExceptT StackError (StateM σ) Stack).run.run st =
      (loaded, st) := by
  rw [h]
  rfl

lemma run_of_loaded_error {e : StackError} (h : inv.loaded host = .error e) (a : Action) (st : σ) :
    ((inv.asking a).run host).run st = (.failure e, st) := by
  have hresult : ((inv.asking a).result host).run.run st = (.error e, st) :=
    run_bind_of_error (run_pure_loaded h st)
  exact run_of_result hresult

lemma run_validate {stack : Stack} (h : inv.loaded host = .ok stack) (st : σ) :
    ((inv.asking .validate).run host).run st = (.success (inv.validated stack), st) := by
  have hresult : ((inv.asking .validate).result host).run.run st =
      (.ok (inv.validated stack), st) :=
    run_bind_of_ok (run_pure_loaded h st)
  exact run_of_result hresult

variable {c : Cluster} {qs : List Enquiry} {prepared : Except StackError RenderContext}

lemma run_render (h : inv.loaded host = .ok (.cluster c)) {result : Except StackError String}
    (hrendered : (inv.rendered host (.cluster c)).run.run st = (result, st')) :
    ((inv.asking .render).run host).run st = (.ofResult result, st') :=
  run_of_result ((run_bind_of_ok (run_pure_loaded h st)).trans hrendered)

/-- Rendering fails as preparing fails. -/
lemma run_rendered_of_error {e : StackError}
    (h : c.Prepares (inv.serviceFor host (.cluster c)) .empty st qs (.error e) st') :
    (inv.rendered host (.cluster c)).run.run st = (.error e, st') :=
  run_bind_of_error h.run

/-- A prepared cluster is rendered: the text of its template, in lines of its own. -/
lemma run_rendered_of_template {ctx : RenderContext} {t : Template}
    (h : c.Prepares (inv.serviceFor host (.cluster c)) .empty st qs (.ok ctx) st')
    (ht : c.template ctx = .ok t) :
    (inv.rendered host (.cluster c)).run.run st = (.ok (t.text ++ "\n"), st') := by
  have htext : (ExceptT.mk (pure (c.render ctx)) : ExceptT StackError (StateM σ) String).run.run st' =
      (.ok t.text, st') := by
    rw [Cluster.render_of_template ht]
    rfl
  refine (run_bind_of_ok h.run).trans ?_
  exact run_bind_of_ok htext

/-! ### Agreement -/

/-- Validating comes to `v` and rendering to `r`, which ran these commands and left this state. -/
structure Agree (inv : Invocation) (host : Host σ) (st : σ) (v r : Outcome) (runs : List CommandRun)
    (st' : σ) : Prop where
  refused : v.exitCode ≠ 0 → r.exitCode = v.exitCode ∧ r.output = "" ∧ runs = []
  accepted : v.exitCode = 0 → (r.exitCode = 0 ∨ r.exitCode = 9) ∧
    (r.exitCode = 0 ↔ ∀ run ∈ runs, inv.lookup.FoundBy run)
  rendered : r.exitCode = 0 → ∃ stack ctx t, inv.loaded host = .ok stack ∧
    (stack.prepare (inv.serviceFor host stack) .empty).run.run st = (.ok ctx, st') ∧
    stack.template ctx = .ok t ∧ r.output = t.text ++ "\n"
  failed : r.exitCode = 9 → r.output = ""
  codes : ∀ code ∈ [v.exitCode, r.exitCode], code ≠ 1 ∧ code ≠ 10

/-- The region, which only a stack can add, is of no account for what an answer means. -/
lemma lookupFor_foundBy (inv : Invocation) (stack : Stack) (run : CommandRun) :
    (inv.lookupFor stack).FoundBy run ↔ inv.lookup.FoundBy run := by
  have hanswer : (inv.lookupFor stack).answer run.result = inv.lookup.answer run.result := by
    cases run.result <;> rfl
  rw [LookupConfig.FoundBy, hanswer]
  rfl

/-- Neither action gets beyond a configuration that cannot be loaded. -/
lemma agree_of_loaded_error {e : StackError} (h : inv.loaded host = .error e) (st : σ) :
    inv.Agree host st (.failure e) (.failure e) [] st := by
  obtain ⟨hge, hle⟩ := (StackKinds.builtin.failsInLoading_loadFile _ _ e h).exitCode
  have hcode : (Outcome.failure e).exitCode = e.exitCode := rfl
  constructor
  · exact fun _ => ⟨rfl, rfl, rfl⟩
  · omega
  · omega
  · exact fun _ => rfl
  · intro code hmem
    have : code = e.exitCode := by simpa [hcode] using hmem
    omega

/-- A preparation that fails has asked for something that was not found. -/
lemma agree_of_prepares_error {e : StackError} {runs : List CommandRun} {stack : Stack}
    (h : c.Prepares (inv.serviceFor host (.cluster c)) .empty st qs (.error e) st')
    (hruns : (∀ q ∈ qs, q.Succeeds) ↔ ∀ run ∈ runs, inv.lookup.FoundBy run) :
    inv.Agree host st (.success (inv.validated stack)) (.failure e) runs st' := by
  have hfails : ¬ ∀ run ∈ runs, inv.lookup.FoundBy run := by
    rw [← hruns, ← h.exists_eq_ok_iff]
    exact nofun
  obtain ⟨_, q, -, -, rfl⟩ := h.exists_of_error
  constructor
  · exact fun hne => absurd rfl hne
  · exact fun _ => ⟨.inr rfl, nofun, fun hall => absurd hall hfails⟩
  · exact nofun
  · exact fun _ => rfl
  · simp [Outcome.success, Outcome.failure, StackError.exitCode]

lemma agree_of_prepares_ok {ctx : RenderContext} {t : Template} {runs : List CommandRun}
    (hloaded : inv.loaded host = .ok (.cluster c))
    (h : c.Prepares (inv.serviceFor host (.cluster c)) .empty st qs (.ok ctx) st')
    (ht : c.template ctx = .ok t)
    (hruns : (∀ q ∈ qs, q.Succeeds) ↔ ∀ run ∈ runs, inv.lookup.FoundBy run) :
    inv.Agree host st (.success (inv.validated (.cluster c))) (.success (t.text ++ "\n")) runs
      st' := by
  constructor
  · exact fun hne => absurd rfl hne
  · exact fun _ => ⟨.inl rfl, fun _ => hruns.1 h.forall_succeeds, fun _ => rfl⟩
  · exact fun _ => ⟨.cluster c, ctx, t, hloaded, h.run, ht, rfl⟩
  · exact nofun
  · simp [Outcome.success]

/-- The commands that rendering runs are recorded, with the outcome that it has without the
record. -/
lemma exists_agree_of_loaded (h : inv.loaded host = .ok (.cluster c)) (st : σ) :
    ∃ r st' runs, ((inv.asking .render).run host).run st = (r, st') ∧
      ((inv.asking .render).run host.recording).run (st, []) = (r, (st', runs)) ∧
      inv.Agree host st (.success (inv.validated (.cluster c))) r runs st' := by
  obtain ⟨qs, prepared, ⟨st', runs⟩, hrecorded⟩ :=
    c.exists_prepares (inv.serviceFor host.recording (.cluster c)) .empty (st, [])
  obtain ⟨hasked, new, hputs, hnew⟩ := LookupConfig.asked_recording hrecorded.service_asked
  have hplain : c.Prepares (inv.serviceFor host (.cluster c)) .empty st qs prepared st' :=
    hrecorded.of_asked hasked
  have hruns : (∀ q ∈ qs, q.Succeeds) ↔ ∀ run ∈ runs, inv.lookup.FoundBy run := by
    rw [hnew, List.nil_append, LookupConfig.forall_succeeds_iff hputs]
    simp only [lookupFor_foundBy]
  have hrecording : inv.loaded host.recording = .ok (.cluster c) := h
  cases prepared with
  | error e =>
    exact ⟨_, st', _, run_render h (run_rendered_of_error hplain),
      run_render hrecording (run_rendered_of_error hrecorded), agree_of_prepares_error hplain hruns⟩
  | ok ctx =>
    obtain ⟨ids, ids', _, ht, -⟩ := Cluster.exists_templateWith_of_prepare hplain.run
    exact ⟨_, st', _, run_render h (run_rendered_of_template hplain ht),
      run_render hrecording (run_rendered_of_template hrecorded ht),
      agree_of_prepares_ok h hplain ht hruns⟩

/-- On every host, the words of an invocation come to outcomes that agree when they ask to validate
and when they ask to render, all other words being the same. -/
theorem agree_of_parse {env : Environment} {words : List String} {inv : Invocation}
    (h : parse env words = .ok inv) (host : Host σ) (st : σ) :
    ∃ front back, words = front ++ inv.action.name :: back ∧
      ∃ v r st' runs,
        (runProgram env host (front ++ Action.validate.name :: back)).run st = (v, st) ∧
        (runProgram env host (front ++ Action.render.name :: back)).run st = (r, st') ∧
        (runProgram env host.recording (front ++ Action.render.name :: back)).run (st, []) =
          (r, (st', runs)) ∧
        inv.Agree host st v r runs st' := by
  obtain ⟨front, back, hwords, hparse⟩ := exists_of_parse h
  refine ⟨front, back, hwords, ?_⟩
  simp only [runProgram, hparse]
  cases hloaded : inv.loaded host with
  | error e =>
    have hrecording : inv.loaded host.recording = .error e := hloaded
    exact ⟨_, _, st, [], run_of_loaded_error hloaded _ st, run_of_loaded_error hloaded _ st,
      run_of_loaded_error hrecording _ (st, []), agree_of_loaded_error hloaded st⟩
  | ok stack =>
    obtain ⟨c, rfl⟩ := stack.exists_cluster
    obtain ⟨r, st', runs, hrender, hrecorded, hagree⟩ := exists_agree_of_loaded hloaded st
    exact ⟨_, r, st', runs, run_validate hloaded st, hrender, hrecorded, hagree⟩

/-- The command that a valid configuration needs for its tag is not there. One of the words is the
name of an action, but the value of an option. -/
theorem agree_of_parse_notFound :
    ∃ (host : Host Unit) (inv : Invocation) (front back : List String) (v r : Outcome),
      parse ⟨none, none, none, none⟩ ["--region", "render", "validate", "-s", "web.json"] = .ok inv ∧
      ["--region", "render", "validate", "-s", "web.json"] = front ++ Action.validate.name :: back ∧
      (runProgram ⟨none, none, none, none⟩ host (front ++ Action.validate.name :: back)).run () =
        (v, ()) ∧
      (runProgram ⟨none, none, none, none⟩ host (front ++ Action.render.name :: back)).run () =
        (r, ()) ∧
      v.exitCode = 0 ∧ r.exitCode = 9 ∧ r.output = "" := by
  let c : Cluster := ⟨"web", "eu-west-1", "vpc-1a", ⟨"ami-2b", "m3.large", .byTag "db", none⟩, none⟩
  let host : Host Unit := ⟨fun _ => .ok ((Stack.cluster c).savedBytes .compact), .always .notFound⟩
  let inv : Invocation := ⟨.validate, "web.json", false, false, ⟨"aws", some "render", none, 30⟩⟩
  have hparse : parse ⟨none, none, none, none⟩ ["--region", "render", "validate", "-s", "web.json"] =
      .ok inv := by
    decide +kernel
  have hchecks : ∀ k ∈ c.checks, k.holds = true := by
    decide +kernel
  have hloaded : inv.loaded host = .ok (.cluster c) := by
    have hpath : Format.ofPath "web.json" = .json := by decide +kernel
    show StackKinds.builtin.load _ (.ofPath "web.json") = _
    rw [hpath]
    exact c.load_savedBytes (Cluster.valid_iff_allHold.2 hchecks) .compact
  obtain ⟨front, back, hwords, v, r, _, runs, hv, hr, -, hagree⟩ := agree_of_parse hparse host ()
  have hrun : (inv.run host).run () = (v, ()) := by
    rw [← hv, ← hwords, runProgram, hparse]
  obtain rfl : _ = v := congrArg Prod.fst ((run_validate hloaded ()).symm.trans hrun)
  refine ⟨host, inv, front, back, _, r, hparse, hwords, hv, hr, rfl, ?_⟩
  rcases (hagree.accepted rfl).1 with hzero | hnine
  · obtain ⟨stack, ctx, _, hstack, hprepare, -⟩ := hagree.rendered hzero
    obtain rfl : Stack.cluster c = stack := Except.ok.inj (hloaded.symm.trans hstack)
    cases hprepare
  · exact ⟨hnine, hagree.failed hnine⟩

end Invocation

end StackForm
