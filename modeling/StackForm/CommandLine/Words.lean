import StackForm.CommandLine.Given

/-!
# Reading command lines

The words of a command line are read from left to right, first those before the action and then those
after it. A setting takes its value from its own word or from the next one; a value from the next word
is put among the options when another option follows or the words end, so a fault of a later word may
come before a fault of the value.
-/

namespace StackForm

/-! ### Words -/

/-- How a word looks: the separator, an option by name, options by letters, or anything else. -/
inductive Word where
  | separator
  | long (name : String) (value : Option String)
  | short (letters : List Char)
  | plain
  deriving DecidableEq

/-- The form of a word; a name ends at the first equals sign. -/
def Word.ofText (text : String) : Word :=
  match text.toList with
  | ['-', '-'] => .separator
  | '-' :: '-' :: rest =>
    match rest.span (· != '=') with
    | (name, []) => .long (String.ofList name) none
    | (name, _ :: value) => .long (String.ofList name) (some (String.ofList value))
  | '-' :: c :: rest => .short (c :: rest)
  | _ => .plain

/-! ### One side of the action -/

/-- The options so far, and a setting that is not among them yet, with its value if that was read. -/
structure Reading where
  given : Given
  pending : Option (Setting × Option String)
  deriving DecidableEq

namespace Reading

/-- Nothing is read. -/
def start : Reading := ⟨.empty, none⟩

/-- A setting waits for its value. -/
def awaited? (r : Reading) : Option Setting :=
  match r.pending with
  | some (s, none) => some s
  | _ => none

/-- Put the pending setting among the options. -/
def settle (r : Reading) : Except Misuse Given :=
  match r.pending with
  | none => .ok r.given
  | some (_, none) => .error .emptyValue
  | some (s, some value) => r.given.addSetting s value

/-- Read a setting, with the value in its own word if there is one. -/
def setting (r : Reading) (s : Setting) (value : Option String) : Except Misuse Reading := do
  let given ← r.settle
  match value with
  | none => return ⟨given, some (s, none)⟩
  | some v =>
    let given ← given.addSetting s v
    return ⟨given, none⟩

/-- Read an option without a value. -/
def plainOption (action : Option Action) (r : Reading) (meaning : Meaning) : Except Stop Reading := do
  let given ← r.settle.mapError .misuse
  match meaning with
  | .flag f =>
    let given ← (given.addFlag f).mapError .misuse
    return ⟨given, none⟩
  | .setting s => return ⟨given, some (s, none)⟩
  | .help => .error .help
  | .version => .error (.version action)

/-- Read an option by its name. -/
def long (action : Option Action) (r : Reading) (name : String) (value : Option String) :
    Except Stop Reading :=
  match Meaning.ofName? action name with
  | none => .error (.misuse .unknownArgument)
  | some (.setting s) => (r.setting s value).mapError .misuse
  | some meaning =>
    if value.isSome then .error (.misuse .unexpectedValue) else plainOption action r meaning

/-- The value that follows the letter of a setting in its word. -/
def attached? : List Char → Option String
  | [] => none
  | '=' :: value => some (String.ofList value)
  | value => some (String.ofList value)

/-- Read options by their letters, the first setting taking the rest of the word. -/
def short (action : Option Action) : List Char → Reading → Except Stop Reading
  | [], r => .ok r
  | c :: rest, r =>
    match Meaning.ofLetter? action c with
    | none => .error (.misuse .unknownArgument)
    | some (.setting s) => (r.setting s (attached? rest)).mapError .misuse
    | some meaning => do
      let r ← plainOption action r meaning
      short action rest r

/-- The options, once the words of one side have ended. The environment stands for those that are not
given, so its timeout must be a number of seconds then; a flag excludes its opposite. -/
def finish (r : Reading) (env : Environment) : Except Misuse Given := do
  let given ← r.settle
  if given.timeoutSeconds.isNone && env.lookupTimeout.any (seconds? · |>.isNone) then
    .error .invalidValue
  return given

end Reading

/-! ### Both sides -/

/-- Read the words after an action; there are no words but options and their values. -/
def readAfter (action : Action) : List String → Reading → Except Stop Reading
  | [], r => .ok r
  | word :: rest, r =>
    match Word.ofText word with
    | .separator => if rest.isEmpty then .ok r else .error (.misuse .unknownArgument)
    | .long name value => do
      let r ← r.long (some action) name value
      readAfter action rest r
    | .short letters => do
      let r ← Reading.short (some action) letters r
      readAfter action rest r
    | .plain =>
      match r.awaited? with
      | some s => readAfter action rest ⟨r.given, some (s, some word)⟩
      | none => .error (.misuse .unknownArgument)

/-- The word that asks for help, on the program or on what the next word names. -/
def helpName : String := "help"

/-- Whether a word names something to do. -/
def isActionWord (word : String) : Bool :=
  word == helpName || (Action.ofName? word).isSome

/-- What the words after the word for help come to. -/
def helpOn : List String → Stop
  | [] => .help
  | [word] => if isActionWord word then .help else .misuse .unknownAction
  | _ => .misuse .unknownAction

/-- Read the words up to the action, and give it with the words after it. -/
def readBefore : List String → Reading → Except Stop (Reading × Option (Action × List String))
  | [], r => .ok (r, none)
  | word :: rest, r =>
    match Word.ofText word with
    | .separator =>
      match rest with
      | [] => .ok (r, none)
      | next :: _ =>
        .error (.misuse (if isActionWord next then .unknownArgument else .unknownAction))
    | .long name value => do
      let r ← r.long none name value
      readBefore rest r
    | .short letters => do
      let r ← Reading.short none letters r
      readBefore rest r
    | .plain =>
      match r.awaited? with
      | some s => readBefore rest ⟨r.given, some (s, some word)⟩
      | none =>
        if word = helpName then .error (helpOn rest)
        else
          match Action.ofName? word with
          | some action => .ok (r, some (action, rest))
          | none => .error (.misuse .unknownAction)

/-! ### Invocations -/

namespace Given

/-- A flag and its opposite may not stand on one side. -/
def checkFlags (given : Given) : Except Misuse Unit :=
  if given.verbose && given.quiet then .error .argumentConflict else .ok ()

/-- The options after the action hold over those before it, those over the environment, and that
over the standard values. -/
def merge (before after : Given) (env : Environment) : LookupConfig where
  command := ((after.awsCommand <|> before.awsCommand) <|> env.awsCommand).getD
    LookupConfig.defaultCommand
  region := (after.region <|> before.region) <|> env.region
  profile := (after.profile <|> before.profile) <|> env.profile
  timeoutSeconds := ((after.timeoutSeconds <|> before.timeoutSeconds) <|>
    env.lookupTimeout.bind seconds?).getD LookupConfig.defaultTimeoutSeconds

end Given

namespace Invocation

/-- The configuration that an action needs. -/
def requiredConfig (given : Given) : Except Misuse String :=
  match given.stackConfig with
  | some path => .ok path
  | none => .error .missingArgument

/-- The invocation that the words of a command line ask for. The side after the action is checked
before the side in front of it. -/
def parse (env : Environment) (words : List String) : Except Stop Invocation := do
  let (reading, found) ← readBefore words .start
  match found with
  | none =>
    let before ← (reading.finish env).mapError .misuse
    .error (.misuse (if before.isEmpty && env.isEmpty then .nothingGiven else .missingAction))
  | some (action, rest) =>
    let inner ← readAfter action rest .start
    let after ← (inner.finish env).mapError .misuse
    after.checkFlags.mapError .misuse
    let path ← (requiredConfig after).mapError .misuse
    let before ← (reading.finish env).mapError .misuse
    before.checkFlags.mapError .misuse
    return ⟨action, path, after.verbose || before.verbose, after.quiet || before.quiet,
      before.merge after env⟩

end Invocation

end StackForm
