import StackForm.CommandLine.Run
import StackForm.Host.FileTree

/-!
# Scripted hosts

A host in memory. Its files are a tree, every executable file in it gives the next reply of one
script, and it remembers the arguments of every call.
-/

namespace StackForm

/-! ### Scripts -/

/-- How a scripted command ends. -/
inductive Ending where
  | exit (code : Int)
  | killed
  | never
  deriving DecidableEq

/-- What a scripted command writes, and how it ends. -/
structure Reply where
  output : List UInt8
  errors : List UInt8
  ending : Ending
  deriving DecidableEq

/-- What becomes of a command with this reply; an exit code has eight bits. A command that never
ends by itself runs into its limit; without one it is ended from outside, by a signal. -/
def Reply.result (reply : Reply) (limit : Option Nat) : CommandResult :=
  match reply.ending, limit with
  | .exit code, _ => .finished (code % 256) reply.output reply.errors
  | .never, some _ => .unfinished
  | .killed, _ | .never, none => .finished CommandResult.signalCode reply.output reply.errors

theorem Reply.result_none_ne (reply : Reply) : reply.result none ≠ .unfinished := by
  obtain ⟨output, errors, ending⟩ := reply
  cases ending <;> nofun

/-- The replies that are left, and the arguments of the calls so far. -/
structure Script where
  replies : List Reply
  calls : List (List String)

namespace Script

/-- A script from its start. -/
def ofReplies (replies : List Reply) : Script := ⟨replies, []⟩

/-- What a command does when its script has ended. -/
def exhausted : Reply := ⟨[], [], .exit 99⟩

/-- The next reply; the call is remembered. -/
def call (arguments : List String) (limit : Option Nat) : StateM Script CommandResult :=
  fun script =>
    ((script.replies.head?.getD exhausted).result limit,
      ⟨script.replies.tail, script.calls ++ [arguments]⟩)

end Script

/-! ### Hosts -/

/-- A tree of files, and the directory in which commands without a slash are found. -/
structure ScriptedHost where
  files : FileTree
  commands : String

namespace ScriptedHost

/-- The path of a command. -/
def commandPath (host : ScriptedHost) (command : String) : String :=
  if command.isEmpty || command.toList.contains '/' then command else host.commands ++ "/" ++ command

/-- Run a command: it must be an executable file, and neither its name nor its arguments may hold a
zero character. -/
def run (host : ScriptedHost) (command : String) (arguments : List String) (limit : Option Nat) :
    StateM Script CommandResult :=
  if (command :: arguments).any (·.toList.contains '\x00') then
    pure (.refused "nul byte found in provided data")
  else
    match host.files.resolve (host.commandPath command) with
    | .ok (.file ⟨_, true⟩) => Script.call arguments limit
    | .ok _ => pure (.refused FileError.permissionDenied.message)
    | .error .missing => pure .notFound
    | .error e => pure (.refused e.message)

theorem run_none_ne (host : ScriptedHost) (command : String) (arguments : List String)
    (script : Script) : ((host.run command arguments none).run script).1 ≠ .unfinished := by
  rw [run]
  split
  · nofun
  · split
    · exact Reply.result_none_ne _
    all_goals nofun

/-- The tree and its script as a host. -/
def host (host : ScriptedHost) : Host Script where
  read path := (host.files.read path).mapError FileError.message
  runner := ⟨host.run, host.run_none_ne⟩

end ScriptedHost

end StackForm
