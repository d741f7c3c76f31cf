import StackForm.Rule.Set
import StackForm.Proofs.Text.Pattern

/-!
# What the rules accept

The classes of characters are those of ASCII, and each rule of the standard set accepts a text if
and only if the whole text has the described form.
-/

namespace StackForm

namespace Rule

/-! ### Classes of characters -/

lemma isUpper_eq (c : Char) : isUpper c = c.isUpper := by
  show (decide ('A' ≤ c) && decide (c ≤ 'Z')) = decide ('A' ≤ c ∧ c ≤ 'Z')
  rw [Bool.decide_and]

lemma isHexDigit_eq (c : Char) : isHexDigit c = c.isHexDigit := rfl

lemma isAlphanumChar_eq (c : Char) : isAlphanumChar c = c.isAlphanum := by
  show (c.isLower || isUpper c || c.isDigit) = (c.isUpper || c.isLower || c.isDigit)
  rw [isUpper_eq, Bool.or_comm c.isLower]

/-! ### Runs -/

/-- A text of at least one character, all of the class. -/
def IsRun (p : Char → Bool) (s : String) : Prop :=
  s ≠ "" ∧ ∀ ch ∈ s.toList, p ch = true

lemma isRun_toList {p : Char → Bool} {s : String} : isRun p s.toList = true ↔ IsRun p s := by
  simp [isRun, IsRun]

lemma isAlphanum_iff {s : String} : isAlphanum s = true ↔ IsRun Char.isAlphanum s := by
  have hp : isAlphanumChar = Char.isAlphanum := funext isAlphanumChar_eq
  rw [isAlphanum, isRun_toList, hp]

lemma isNumeric_iff {s : String} : isNumeric s = true ↔ IsRun Char.isDigit s :=
  isRun_toList

/-! ### Texts that fit a pattern -/

section Pattern

open Text.Pattern

variable {before after : List Char} {s : String}

/-- A text is cut in two for the two parts of a pattern. -/
lemma describes_append_toList_iff {first second : Text.Pattern} :
    (first ++ second).Describes before s.toList after ↔
      ∃ left right : String, s = left ++ right ∧
        first.Describes before left.toList (right.toList ++ after) ∧
        second.Describes (before ++ left.toList) right.toList after := by
  rw [describes_append_iff]
  constructor
  · rintro ⟨left, right, hs, hleft, hright⟩
    refine ⟨String.ofList left, String.ofList right, ?_, ?_, ?_⟩
    · rw [← String.toList_inj, hs]
      simp
    · simpa using hleft
    · simpa using hright
  · rintro ⟨left, right, rfl, hleft, hright⟩
    exact ⟨left.toList, right.toList, String.toList_append, hleft, hright⟩

lemma describes_chars_toList_iff {word : String} :
    (Text.Pattern.chars word.toList).Describes before s.toList after ↔ s = word := by
  rw [describes_chars_iff, String.toList_inj]

lemma describes_run_toList_iff {p : Char → Bool} :
    (Text.Pattern.run p).Describes before s.toList after ↔ IsRun p s := by
  rw [describes_run_iff, IsRun, Ne, String.toList_eq_nil_iff]

end Pattern

/-! ### Identifiers of resources -/

/-- The name of a kind of resource, a hyphen, and a run of hexadecimal digits. -/
def IsResourceId (resource s : String) : Prop :=
  ∃ digits, s = resource ++ "-" ++ digits ∧ IsRun Char.isHexDigit digits

lemma isResourceId_iff {resource s : String} :
    isResourceId resource s = true ↔ IsResourceId resource s := by
  have hfront : resource.toList ++ ['-'] = (resource ++ "-").toList := by simp
  have hclass : isHexDigit = Char.isHexDigit := funext isHexDigit_eq
  rw [isResourceId, resourceIdPattern, Text.Pattern.isIn_whole_iff, hfront, hclass,
    describes_append_toList_iff]
  simp only [describes_chars_toList_iff, describes_run_toList_iff]
  constructor
  · rintro ⟨front, digits, rfl, rfl, hdigits⟩
    exact ⟨digits, rfl, hdigits⟩
  · rintro ⟨digits, rfl, hdigits⟩
    exact ⟨resource ++ "-", digits, rfl, rfl, hdigits⟩

/-- No text ends in a run of a class but with a character of that class. -/
lemma IsRun.last {p : Char → Bool} {front run s : String} {c : Char} (h : IsRun p run)
    (hs : s ++ String.singleton c = front ++ run) : p c = true := by
  have hne : run.toList ≠ [] := by
    rw [Ne, String.toList_eq_nil_iff]
    exact h.1
  have hlast : run.toList.getLast? = some c := by
    calc run.toList.getLast?
      _ = (front.toList ++ run.toList).getLast? := (List.getLast?_append_of_ne_nil _ hne).symm
      _ = (s.toList ++ [c]).getLast? := by rw [← String.toList_append, ← hs]; simp
      _ = some c := by simp
  exact h.2 c (List.mem_of_getLast? hlast)

lemma isResourceId_lineBreak (resource s : String) : isResourceId resource (s ++ "\n") = false := by
  rw [Bool.eq_false_iff, Ne, isResourceId_iff]
  rintro ⟨digits, hs, hdigits⟩
  have hlast : Char.isHexDigit '\n' = true := hdigits.last hs
  cases hlast

/-! ### Actions -/

/-- The text is a service, a colon and an operation. -/
structure SplitsInto (s service operation : String) : Prop where
  text_eq : s = service ++ ":" ++ operation
  service : IsRun (fun c => c.isLower || c.isDigit || c == '-') service
  operation : IsRun (fun c => c.isAlphanum || c == '*') operation

lemma isOperationChar_eq (c : Char) : isOperationChar c = (c.isAlphanum || c == '*') := by
  rw [isOperationChar, isAlphanumChar_eq]

lemma actionPattern_isIn_iff {s : String} :
    actionPattern.isIn s.toList = true ↔ ∃ service operation, SplitsInto s service operation := by
  have hcolon : [':'] = ":".toList := by simp
  have hservice : isServiceChar = fun c => c.isLower || c.isDigit || c == '-' := rfl
  have hoperation : isOperationChar = fun c => c.isAlphanum || c == '*' :=
    funext isOperationChar_eq
  rw [actionPattern, Text.Pattern.isIn_whole_iff, hcolon, hservice, hoperation,
    describes_append_toList_iff]
  simp only [describes_append_toList_iff, describes_chars_toList_iff, describes_run_toList_iff]
  constructor
  · rintro ⟨front, operation, rfl, ⟨service, colon, rfl, hservice, rfl⟩, hoperation⟩
    exact ⟨service, operation, rfl, hservice, hoperation⟩
  · rintro ⟨service, operation, rfl, hservice, hoperation⟩
    exact ⟨service ++ ":", operation, rfl, ⟨service, ":", rfl, hservice, rfl⟩, hoperation⟩

lemma isAction_iff {s : String} :
    isAction s = true ↔ s = "*" ∨ ∃ service operation, SplitsInto s service operation := by
  rw [isAction, Bool.or_eq_true, beq_iff_eq, actionPattern_isIn_iff]

lemma IsRun.notMem {p : Char → Bool} {run : String} {c : Char} (h : IsRun p run)
    (hc : p c = false) : c ∉ run.toList := by
  intro hmem
  rw [h.2 c hmem] at hc
  cases hc

/-- Neither a service nor an operation has a colon in it. -/
lemma SplitsInto.unique {s service operation service' operation' : String}
    (h : SplitsInto s service operation) (h' : SplitsInto s service' operation') :
    service' = service ∧ operation' = operation := by
  have heq : service'.toList ++ ':' :: operation'.toList =
      service.toList ++ ':' :: operation.toList := by
    have htext := congrArg String.toList (h'.text_eq.symm.trans h.text_eq)
    simpa using htext
  rw [List.append_cons_inj_of_notMem (h'.service.notMem rfl) (h'.operation.notMem rfl)] at heq
  exact ⟨String.toList_inj.1 heq.1, String.toList_inj.1 heq.2.2⟩

/-- The patterns accept what they describe and nothing else, and an action tells its service from
its operation. -/
theorem patterns_exact (s : String) :
    (isVpc s = true ↔ IsResourceId "vpc" s) ∧
    (isSubnet s = true ↔ IsResourceId "subnet" s) ∧
    isVpc (s ++ "\n") = false ∧
    isSubnet (s ++ "\n") = false ∧
    (isAction s = true ↔ s = "*" ∨ ∃ service operation, SplitsInto s service operation) ∧
    ∀ service operation, SplitsInto s service operation →
      ∀ service' operation', SplitsInto s service' operation' →
        service' = service ∧ operation' = operation := by
  refine ⟨isResourceId_iff, isResourceId_iff, ?_, ?_, isAction_iff, ?_⟩
  · exact isResourceId_lineBreak "vpc" s
  · exact isResourceId_lineBreak "subnet" s
  · intro service operation h service' operation' h'
    exact h.unique h'

/-- The only way to read an action that describes what there is. -/
theorem patterns_exact_describe :
    SplitsInto "ec2:Describe*" "ec2" "Describe*" ∧
      ∀ service operation, SplitsInto "ec2:Describe*" service operation →
        service = "ec2" ∧ operation = "Describe*" := by
  have h : SplitsInto "ec2:Describe*" "ec2" "Describe*" :=
    ⟨rfl, isRun_toList.1 (by decide +kernel), isRun_toList.1 (by decide +kernel)⟩
  exact ⟨h, (patterns_exact "ec2:Describe*").2.2.2.2.2 "ec2" "Describe*" h⟩

/-! ### Other rules -/

/-- Every character is one of ASCII. -/
def IsAscii (s : String) : Prop :=
  ∀ ch ∈ s.toList, ch.toNat < 0x80

lemma isAscii_iff {s : String} : isAscii s = true ↔ IsAscii s := by
  simp [isAscii, IsAscii]

lemma isRegion_iff {s : String} : isRegion s = true ↔ s ∈ regions := by
  simp [isRegion]

lemma isScheme_iff {s : String} : isScheme s = true ↔ s = "internal" ∨ s = "internet-facing" := by
  simp [isScheme]

lemma isEffect_iff {s : String} : isEffect s = true ↔ s = "Allow" ∨ s = "Deny" := by
  simp [isEffect]

end Rule

end StackForm
