import StackForm.CommandLine.Words
import StackForm.Proofs.Json.Field

/-!
# The action of a command line

An action is one of the words, and the words on both sides of it are read in the same way for every
action. So the words of an invocation ask for any other action in its place, with everything else as
it was.
-/

namespace StackForm

/-! ### The words after an action -/

namespace Reading

variable {a : Action} {r r' : Reading}

/-- An option can depend on the action only if the reading stops at it. -/
lemma plainOption_eq_ok (meaning : Meaning) (h : plainOption (some a) r meaning = .ok r')
    (b : Action) : plainOption (some b) r meaning = .ok r' := by
  cases meaning with
  | version =>
    obtain ⟨_, _, hstop⟩ := bind_eq_ok_iff.1 h
    cases hstop
  | _ => exact h

lemma long_eq_ok {name : String} {value : Option String}
    (h : r.long (some a) name value = .ok r') (b : Action) :
    r.long (some b) name value = .ok r' := by
  rw [long] at h ⊢
  rw [show Meaning.ofName? (some b) name = Meaning.ofName? (some a) name from rfl]
  cases hmeaning : Meaning.ofName? (some a) name with
  | none =>
    rw [hmeaning] at h
    cases h
  | some meaning =>
    rw [hmeaning] at h
    have hplain : ∀ m : Meaning,
        (if value.isSome then .error (.misuse .unexpectedValue) else plainOption (some a) r m) =
          Except.ok r' →
        (if value.isSome then .error (.misuse .unexpectedValue) else plainOption (some b) r m) =
          Except.ok r' := by
      intro m h
      cases value with
      | none => exact plainOption_eq_ok m h b
      | some v => cases h
    cases meaning with
    | setting s => exact h
    | flag f => exact hplain (.flag f) h
    | help => exact hplain .help h
    | version => exact hplain .version h

lemma short_eq_ok {letters : List Char} (h : short (some a) letters r = .ok r') (b : Action) :
    short (some b) letters r = .ok r' := by
  induction letters generalizing r with
  | nil => exact h
  | cons c rest ih =>
    rw [short] at h ⊢
    rw [show Meaning.ofLetter? (some b) c = Meaning.ofLetter? (some a) c from rfl]
    cases hmeaning : Meaning.ofLetter? (some a) c with
    | none =>
      rw [hmeaning] at h
      cases h
    | some meaning =>
      rw [hmeaning] at h
      cases meaning with
      | setting s => exact h
      | _ =>
        obtain ⟨r₁, hoption, hrest⟩ := bind_eq_ok_iff.1 h
        exact bind_eq_ok_iff.2 ⟨r₁, plainOption_eq_ok _ hoption b, ih hrest⟩

end Reading

/-- Words that can be read after one action can be read after any other, to the same options. -/
lemma readAfter_eq_ok {a : Action} {words : List String} {r r' : Reading}
    (h : readAfter a words r = .ok r') (b : Action) : readAfter b words r = .ok r' := by
  induction words generalizing r with
  | nil => exact h
  | cons word rest ih =>
    rw [readAfter] at h ⊢
    cases hword : Word.ofText word with
    | separator =>
      rw [hword] at h
      exact h
    | long name value =>
      rw [hword] at h
      obtain ⟨r₁, hlong, hrest⟩ := bind_eq_ok_iff.1 h
      exact bind_eq_ok_iff.2 ⟨r₁, Reading.long_eq_ok hlong b, ih hrest⟩
    | short letters =>
      rw [hword] at h
      obtain ⟨r₁, hshort, hrest⟩ := bind_eq_ok_iff.1 h
      exact bind_eq_ok_iff.2 ⟨r₁, Reading.short_eq_ok hshort b, ih hrest⟩
    | plain =>
      rw [hword] at h
      cases hawaited : r.awaited? with
      | none =>
        simp only [hawaited] at h
        cases h
      | some s =>
        simp only [hawaited] at h ⊢
        exact ih h

/-! ### The words up to the action -/

section Words

variable {word : String} {r : Reading} (rest : List String)

lemma readBefore_long {name : String} {value : Option String}
    (hword : Word.ofText word = .long name value) :
    readBefore (word :: rest) r = r.long none name value >>= readBefore rest := by
  rw [readBefore.eq_def]
  simp only [hword]

lemma readBefore_short {letters : List Char} (hword : Word.ofText word = .short letters) :
    readBefore (word :: rest) r = Reading.short none letters r >>= readBefore rest := by
  rw [readBefore.eq_def]
  simp only [hword]

/-- A plain word is the value of the setting that waits for one. -/
lemma readBefore_value {s : Setting} (hword : Word.ofText word = .plain)
    (hawaited : r.awaited? = some s) :
    readBefore (word :: rest) r = readBefore rest ⟨r.given, some (s, some word)⟩ := by
  rw [readBefore.eq_def]
  simp only [hword, hawaited]

/-- The name of an action is no option, and asks for nothing but the action. -/
lemma Action.readBefore_name (a : Action) (hawaited : r.awaited? = none) :
    readBefore (a.name :: rest) r = .ok (r, some (a, rest)) := by
  have hplain : Word.ofText a.name = .plain := by cases a <;> decide
  have hhelp : a.name ≠ helpName := by cases a <;> decide
  have hname : ofName? a.name = some a := by cases a <;> decide
  rw [readBefore.eq_def]
  simp only [hplain, hawaited, if_neg hhelp, hname]

lemma Action.eq_name_of_ofName? {a : Action} (h : ofName? word = some a) : word = a.name := by
  have hname := List.find?_some h
  exact (eq_of_beq hname).symm

end Words

/-- The words up to an action end with its name, in the place of which any other can stand. -/
lemma exists_of_readBefore {words rest : List String} {r r' : Reading} {a : Action}
    (h : readBefore words r = .ok (r', some (a, rest))) :
    ∃ front, words = front ++ a.name :: rest ∧
      ∀ b : Action, readBefore (front ++ b.name :: rest) r = .ok (r', some (b, rest)) := by
  induction words generalizing r with
  | nil => cases h
  | cons word words ih =>
    -- A word that is no action is read in the same way in front of the other action.
    have hstep : ∀ r₁, (∀ tail, readBefore (word :: tail) r = readBefore tail r₁) →
        ∃ front, word :: words = front ++ a.name :: rest ∧
          ∀ b : Action, readBefore (front ++ b.name :: rest) r = .ok (r', some (b, rest)) := by
      intro r₁ hword
      rw [hword] at h
      obtain ⟨front, rfl, hfront⟩ := ih h
      exact ⟨word :: front, rfl, fun b => (hword _).trans (hfront b)⟩
    cases hword : Word.ofText word with
    | separator =>
      rw [readBefore.eq_def] at h
      simp only [hword] at h
      cases words <;> cases h
    | long name value =>
      rw [readBefore_long words hword] at h
      obtain ⟨r₁, hlong, -⟩ := bind_eq_ok_iff.1 h
      refine hstep r₁ fun tail => ?_
      rw [readBefore_long tail hword, hlong]
      rfl
    | short letters =>
      rw [readBefore_short words hword] at h
      obtain ⟨r₁, hshort, -⟩ := bind_eq_ok_iff.1 h
      refine hstep r₁ fun tail => ?_
      rw [readBefore_short tail hword, hshort]
      rfl
    | plain =>
      cases hawaited : r.awaited? with
      | some s => exact hstep _ fun tail => readBefore_value tail hword hawaited
      | none =>
        rw [readBefore.eq_def] at h
        simp only [hword, hawaited] at h
        split at h
        · cases h
        · cases haction : Action.ofName? word with
          | none =>
            rw [haction] at h
            cases h
          | some action =>
            rw [haction] at h
            cases h
            obtain rfl := Action.eq_name_of_ofName? haction
            exact ⟨[], rfl, fun b => b.readBefore_name _ hawaited⟩

/-! ### Invocations -/

namespace Invocation

/-- The invocation with another action. -/
def asking (inv : Invocation) (action : Action) : Invocation :=
  { inv with action := action }

/-- The words of an invocation ask for any other action in the place of its own. -/
lemma exists_of_parse {env : Environment} {words : List String} {inv : Invocation}
    (h : parse env words = .ok inv) :
    ∃ front back, words = front ++ inv.action.name :: back ∧
      ∀ a : Action, parse env (front ++ a.name :: back) = .ok (inv.asking a) := by
  obtain ⟨⟨reading, found⟩, hbefore, h⟩ := bind_eq_ok_iff.1 h
  cases found with
  | none =>
    obtain ⟨_, _, hmissing⟩ := bind_eq_ok_iff.1 h
    cases hmissing
  | some found =>
    obtain ⟨action, back⟩ := found
    obtain ⟨inner, hinner, h⟩ := bind_eq_ok_iff.1 h
    obtain ⟨after, hafter, h⟩ := bind_eq_ok_iff.1 h
    obtain ⟨_, hafterFlags, h⟩ := bind_eq_ok_iff.1 h
    obtain ⟨path, hpath, h⟩ := bind_eq_ok_iff.1 h
    obtain ⟨before, hreading, h⟩ := bind_eq_ok_iff.1 h
    obtain ⟨_, hbeforeFlags, h⟩ := bind_eq_ok_iff.1 h
    cases h
    obtain ⟨front, hwords, hfront⟩ := exists_of_readBefore hbefore
    refine ⟨front, back, hwords, fun a => ?_⟩
    exact bind_eq_ok_iff.2 ⟨_, hfront a, bind_eq_ok_iff.2 ⟨inner, readAfter_eq_ok hinner a,
      bind_eq_ok_iff.2 ⟨after, hafter, bind_eq_ok_iff.2 ⟨_, hafterFlags,
        bind_eq_ok_iff.2 ⟨path, hpath, bind_eq_ok_iff.2 ⟨before, hreading,
          bind_eq_ok_iff.2 ⟨_, hbeforeFlags, rfl⟩⟩⟩⟩⟩⟩⟩

end Invocation

end StackForm
