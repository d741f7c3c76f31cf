import StackForm.Lookup.Command
import Mathlib.Data.List.Forall2

/-!
# Enquiries at lookup services

What a service was asked on the way from one state to another, and what it answered. The canned
service keeps every question, and answers each from its table. A service that runs a command can be
watched too: a recording runner runs the same commands and keeps a record of them, in which there is
one run for each enquiry.
-/

namespace StackForm

variable {σ : Type}

/-- A question to a lookup service, with the answer. -/
structure Enquiry where
  tag : String
  scope : String
  answer : Except LookupError (List String)

namespace Enquiry

/-- The question alone. -/
def question (q : Enquiry) : String × String := (q.tag, q.scope)

/-- Some identifiers were found. -/
def Succeeds (q : Enquiry) : Prop :=
  ∃ ids, q.answer = .ok ids ∧ ids ≠ []

/-- What kept the service from answering, if it did not answer. -/
def fault? (q : Enquiry) : Option LookupError :=
  match q.answer with
  | .ok _ => none
  | .error e => some e

lemma fault?_eq_some_iff {q : Enquiry} {e : LookupError} :
    q.fault? = some e ↔ q.answer = .error e := by
  rw [fault?]
  cases q.answer <;> simp

end Enquiry

/-- The service is asked these questions one after the other, from one state to another. -/
inductive LookupService.Asked (service : LookupService σ) : σ → List Enquiry → σ → Prop where
  | nil (st : σ) : Asked service st [] st
  | cons {st st₁ st' : σ} {tag scope : String} {answer : Except LookupError (List String)}
      {qs : List Enquiry} : (service.find tag scope).run st = (answer, st₁) →
      Asked service st₁ qs st' → Asked service st (⟨tag, scope, answer⟩ :: qs) st'

namespace LookupService

variable {service : LookupService σ} {st st₁ st' : σ} {qs qs' : List Enquiry}

lemma Asked.single {tag scope : String} {answer : Except LookupError (List String)}
    (h : (service.find tag scope).run st = (answer, st')) :
    service.Asked st [⟨tag, scope, answer⟩] st' :=
  .cons h (.nil st')

lemma Asked.append (h : service.Asked st qs st₁) (h' : service.Asked st₁ qs' st') :
    service.Asked st (qs ++ qs') st' := by
  induction h with
  | nil => exact h'
  | cons hfind _ ih => exact .cons hfind (ih h')

/-- Between two parts of the questions there is a state. -/
lemma Asked.of_append (h : service.Asked st (qs ++ qs') st') :
    ∃ st₁, service.Asked st qs st₁ ∧ service.Asked st₁ qs' st' := by
  induction qs generalizing st with
  | nil => exact ⟨st, .nil st, h⟩
  | cons q qs ih =>
    cases h with
    | cons hfind hrest =>
      obtain ⟨st₁, hqs, hqs'⟩ := ih hrest
      exact ⟨st₁, .cons hfind hqs, hqs'⟩

/-- Some questions lead the service from one state to the other. -/
def Reaches (service : LookupService σ) (st st' : σ) : Prop :=
  ∃ qs, service.Asked st qs st'

lemma Reaches.refl (st : σ) : service.Reaches st st :=
  ⟨[], .nil st⟩

lemma Reaches.find {tag scope : String} {answer : Except LookupError (List String)}
    (h : (service.find tag scope).run st = (answer, st')) : service.Reaches st st' :=
  ⟨_, Asked.single h⟩

lemma Reaches.trans (h : service.Reaches st st₁) (h' : service.Reaches st₁ st') :
    service.Reaches st st' := by
  obtain ⟨qs, hqs⟩ := h
  obtain ⟨qs', hqs'⟩ := h'
  exact ⟨qs ++ qs', hqs.append hqs'⟩

/-- From the state on, the answer to a question never changes, whatever was asked before. -/
def Fixed (service : LookupService σ) (st : σ) : Prop :=
  ∃ answers : String → String → Except LookupError (List String),
    ∀ st', service.Reaches st st' → ∀ tag scope,
      ((service.find tag scope).run st').1 = answers tag scope

end LookupService

/-! ### The canned service -/

namespace CannedLookup

variable {canned canned' : CannedLookup} {qs : List Enquiry}

/-- The canned service keeps the questions, and what it answers stays the same. -/
lemma asked_iff :
    CannedLookup.service.Asked canned qs canned' ↔
      canned' = { canned with calls := canned.calls ++ qs.map Enquiry.question } ∧
        ∀ q ∈ qs, q.answer = canned.answer q.tag := by
  induction qs generalizing canned with
  | nil =>
    constructor
    · intro h
      cases h
      simp
    · rintro ⟨rfl, -⟩
      simpa using LookupService.Asked.nil canned
  | cons q qs ih =>
    constructor
    · intro h
      cases h with
      | cons hfind hrest =>
        cases hfind
        obtain ⟨rfl, hanswers⟩ := ih.1 hrest
        exact ⟨by simp [Enquiry.question], List.forall_mem_cons.2 ⟨rfl, hanswers⟩⟩
    · rintro ⟨rfl, hanswers⟩
      obtain ⟨tag, scope, answer⟩ := q
      obtain ⟨hanswer, hrest⟩ := List.forall_mem_cons.1 hanswers
      obtain rfl : answer = canned.answer tag := hanswer
      exact .cons rfl (ih.2 ⟨by simp [Enquiry.question], hrest⟩)

/-- The answers of the canned service are fixed. -/
lemma fixed_service (canned : CannedLookup) : CannedLookup.service.Fixed canned := by
  refine ⟨fun tag _ => canned.answer tag, fun canned' hreaches tag scope => ?_⟩
  obtain ⟨qs, hasked⟩ := hreaches
  obtain ⟨rfl, -⟩ := asked_iff.1 hasked
  rfl

end CannedLookup

/-! ### Recorded commands -/

/-- A command that was run, and what became of it. -/
structure CommandRun where
  command : String
  arguments : List String
  limit : Option Nat
  result : CommandResult

/-- The runner that runs the same commands and keeps a record of them. -/
def CommandRunner.recording (runner : CommandRunner σ) : CommandRunner (σ × List CommandRun) where
  run command arguments limit := fun (st, runs) =>
    match (runner.run command arguments limit).run st with
    | (result, st') => (result, (st', runs ++ [⟨command, arguments, limit, result⟩]))
  ends command arguments := fun (st, _) => runner.ends command arguments st

namespace LookupConfig

/-- The run is the one that puts the question of the enquiry, and its result is the answer. -/
structure Puts (config : LookupConfig) (q : Enquiry) (run : CommandRun) : Prop where
  command : run.command = config.command
  arguments : run.arguments = config.arguments q.tag q.scope
  limit : run.limit = config.limit?
  answer : config.answer run.result = q.answer

variable {config : LookupConfig} {runner : CommandRunner σ} {st st' : σ}
  {runs runs' : List CommandRun} {qs : List Enquiry}

lemma find_recording {tag scope : String} {answer : Except LookupError (List String)}
    (h : ((config.service runner.recording).find tag scope).run (st, runs) =
      (answer, (st', runs'))) :
    ((config.service runner).find tag scope).run st = (answer, st') ∧
      ∃ run, config.Puts ⟨tag, scope, answer⟩ run ∧ runs' = runs ++ [run] := by
  cases h
  exact ⟨rfl, _, ⟨rfl, rfl, rfl, rfl⟩, rfl⟩

/-- A service whose commands are recorded asks what it would ask otherwise, with one run for each
enquiry. -/
lemma asked_recording
    (h : (config.service runner.recording).Asked (st, runs) qs (st', runs')) :
    (config.service runner).Asked st qs st' ∧
      ∃ new, List.Forall₂ config.Puts qs new ∧ runs' = runs ++ new := by
  induction qs generalizing st runs with
  | nil =>
    cases h
    exact ⟨.nil st', [], .nil, by rw [List.append_nil]⟩
  | cons q qs ih =>
    cases h with
    | @cons _ mid _ _ _ _ _ hfind hrest =>
      obtain ⟨st₁, runs₁⟩ := mid
      obtain ⟨hplain, run, hputs, rfl⟩ := find_recording hfind
      obtain ⟨hasked, new, hnew, rfl⟩ := ih hrest
      exact ⟨.cons hplain hasked, run :: new, .cons hputs hnew, by simp⟩

/-- The run of the command found some identifiers. -/
def FoundBy (config : LookupConfig) (run : CommandRun) : Prop :=
  ∃ ids, config.answer run.result = .ok ids ∧ ids ≠ []

/-- The enquiries succeed if the runs find something. -/
lemma forall_succeeds_iff {new : List CommandRun} (h : List.Forall₂ config.Puts qs new) :
    (∀ q ∈ qs, q.Succeeds) ↔ ∀ run ∈ new, config.FoundBy run := by
  induction h with
  | nil => simp
  | cons hputs _ ih =>
    rw [List.forall_mem_cons, List.forall_mem_cons, ih, Enquiry.Succeeds, FoundBy,
      hputs.answer]

end LookupConfig

end StackForm
