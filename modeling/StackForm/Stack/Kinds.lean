import StackForm.Stack.Basic

/-!
# Kinds of stacks

Each kind is known by its name and by the stack that its configurations are read onto.
-/

namespace StackForm

/-- The known kinds, with the stack that each starts from. -/
structure StackKinds (ε : Type := Empty) where
  initial : KeyMap (Stack ε)

namespace StackKinds

variable {ε : Type}

def empty : StackKinds ε := ⟨.empty⟩

/-- Make a kind known, in place of any kind of that name. -/
def register (kinds : StackKinds ε) (kind : String) (initial : Stack ε) : StackKinds ε :=
  ⟨kinds.initial.insert kind initial⟩

/-- The kinds that are known from the start. -/
def builtin : StackKinds ε :=
  empty.register "Cluster" (.cluster .initial)

def contains (kinds : StackKinds ε) (kind : String) : Bool :=
  kinds.initial.contains kind

/-- The names of the kinds in ascending order. -/
def names (kinds : StackKinds ε) : List String :=
  kinds.initial.keys

def size (kinds : StackKinds ε) : Nat :=
  kinds.initial.size

/-- The stack that configurations of a kind start from. -/
def construct (kinds : StackKinds ε) (kind : String) : Except StackError (Stack ε) :=
  match kinds.initial.get? kind with
  | some stack => .ok stack
  | none => .error (.unknownKind kind kinds.names)

/-- A one-line summary of the kinds. -/
def summary (kinds : StackKinds ε) : String :=
  "StackRegistry \x7b kinds: " ++ Text.quotedList kinds.names ++ " \x7d"

end StackKinds

end StackForm
