/-!
# Patterns

A pattern describes a stretch of a text: its beginning or its end, given characters, a run of
characters of one class, or one stretch right behind another. It is looked for anywhere in a text,
so a pattern that the whole text must fit begins and ends with the text.
-/

namespace StackForm.Text

/-- A place in a text: the characters before it, the nearest first, and those after it. -/
structure Place where
  before : List Char
  after : List Char

/-- A description of a stretch of text: nothing at the beginning of the text or at its end, the given
characters, one character or more of a class, or one stretch and another right behind it. -/
inductive Pattern where
  | start
  | finish
  | chars (cs : List Char)
  | run (p : Char → Bool)
  | seq (first second : Pattern)

namespace Pattern

instance : Append Pattern := ⟨seq⟩

/-- The places behind the runs of a class. -/
def runEnds (p : Char → Bool) (before : List Char) : (after : List Char) → List Place
  | [] => []
  | c :: after => if p c then ⟨c :: before, after⟩ :: runEnds p (c :: before) after else []

/-- The places behind the stretches that begin at a place. -/
def ends : Pattern → Place → List Place
  | start, place => if place.before.isEmpty then [place] else []
  | finish, place => if place.after.isEmpty then [place] else []
  | chars cs, place =>
    match cs.isPrefixOf? place.after with
    | some rest => [⟨cs.reverse ++ place.before, rest⟩]
    | none => []
  | run p, place => runEnds p place.before place.after
  | seq first second, place => (first.ends place).flatMap second.ends

/-- The places from one place on. -/
def places (before : List Char) : (after : List Char) → List Place
  | [] => [⟨before, []⟩]
  | c :: after => ⟨before, c :: after⟩ :: places (c :: before) after

/-- Some stretch of the text fits the pattern. -/
def isIn (pattern : Pattern) (text : List Char) : Bool :=
  (places [] text).any fun place => !(pattern.ends place).isEmpty

/-- The pattern for the text from its beginning to its end. -/
def whole (pattern : Pattern) : Pattern :=
  start ++ pattern ++ finish

end Pattern

end StackForm.Text
