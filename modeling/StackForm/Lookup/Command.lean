import StackForm.Lookup.Answer
import StackForm.Lookup.Query
import StackForm.Lookup.Service
import StackForm.Text.Basic

/-!
# Lookups by a command

A lookup may run a command that lists the subnets and read what it prints. The command is run by a
`CommandRunner`, which says what became of it; all else is decided here.
-/

namespace StackForm

/-! ### Running commands -/

/-- What became of a command: it was not found, it could not be started, it had not ended within its
time, or it ended with an exit code and what it wrote. -/
inductive CommandResult where
  | notFound
  | refused (reason : String)
  | unfinished
  | finished (code : Int) (output errors : List UInt8)
  deriving DecidableEq

/-- The exit code of a command that a signal ended. -/
def CommandResult.signalCode : Int := -1

/-- Runs commands, on a state; a command may have a limit in seconds. -/
structure CommandRunner (σ : Type) where
  run : (command : String) → (arguments : List String) → (limit : Option Nat) →
    StateM σ CommandResult
  /-- A command without a limit is waited for until it has ended. -/
  ends : ∀ command arguments st, ((run command arguments none).run st).1 ≠ .unfinished

/-- The runner that starts nothing and gives one result for every command. -/
def CommandRunner.always {σ : Type} (result : CommandResult)
    (h : result ≠ .unfinished := by decide) : CommandRunner σ :=
  ⟨fun _ _ _ => pure result, fun _ _ _ => h⟩

/-! ### The lookup -/

namespace LookupConfig

/-- The limit of the command, if it has one. -/
def limit? (c : LookupConfig) : Option Nat :=
  if c.timeoutSeconds = 0 then none else some c.timeoutSeconds.toNat

/-- What the command's end says of the subnets. Bytes that are no text are replaced, and the white
space around a complaint is left out. -/
def answer (c : LookupConfig) : CommandResult → Except LookupError (List String)
  | .notFound => .error (.commandUnavailable ("'" ++ c.command ++ "' not found on PATH"))
  | .refused reason => .error (.system reason)
  | .unfinished => .error (.timeout c.timeoutSeconds.toNat)
  | .finished code output errors =>
    if code = 0 then SubnetAnswer.identifiers (String.ofList (Utf8.lossyChars output))
    else .error (.commandFailed code (String.ofList (Text.trim (Utf8.lossyChars errors))))

/-- The service that runs the configured command for every question. -/
def service {σ : Type} (c : LookupConfig) (runner : CommandRunner σ) : LookupService σ where
  find tag scope := do
    let result ← runner.run c.command (c.arguments tag scope) c.limit?
    return c.answer result

/-- Only a command that was still running is answered with a timeout. -/
theorem eq_unfinished_of_answer {c : LookupConfig} {result : CommandResult} {seconds : Nat}
    (h : c.answer result = .error (.timeout seconds)) :
    result = .unfinished ∧ seconds = c.timeoutSeconds.toNat := by
  cases result with
  | unfinished =>
    cases h
    exact ⟨rfl, rfl⟩
  | finished code output errors =>
    simp only [answer, SubnetAnswer.identifiers] at h
    split at h
    · split at h
      · cases h
      · cases h
    · cases h
  | _ => cases h

/-- A lookup times out only if it has a limit, which is the number of seconds that it tells. -/
theorem limit?_of_timeout {σ : Type} {c : LookupConfig} {runner : CommandRunner σ}
    {tag scope : String} {st : σ} {seconds : Nat}
    (h : (((c.service runner).find tag scope).run st).1 = .error (.timeout seconds)) :
    c.limit? = some seconds := by
  obtain ⟨hunfinished, rfl⟩ := eq_unfinished_of_answer h
  by_cases hzero : c.timeoutSeconds = 0
  · have hlimit : c.limit? = none := if_pos hzero
    rw [hlimit] at hunfinished
    exact absurd hunfinished (runner.ends _ _ _)
  · exact if_neg hzero

end LookupConfig

end StackForm
