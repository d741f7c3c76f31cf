import StackForm.Proofs.Constraint
import Mathlib.Data.List.Forall2

/-!
# Checks in order

A table with rules in it comes down to a list of checks, of which the first that does not hold is
reported. For each kind of constraint there is the list that it comes down to, given the text or the
texts that its field holds.
-/

namespace StackForm

/-! ### Lists of checks -/

/-- What must hold of a value, with the path and the rule that are reported if it does not. -/
structure Check where
  path : String
  rule : String
  holds : Bool
  deriving DecidableEq

namespace Check

/-- The first check that does not hold. -/
def firstFailing (checks : List Check) : Option Check :=
  checks.find? fun k => !k.holds

/-- All the checks hold. -/
def AllHold (checks : List Check) : Prop :=
  ∀ k ∈ checks, k.holds = true

lemma firstFailing_eq_none_iff {checks : List Check} :
    firstFailing checks = none ↔ AllHold checks := by
  simp [firstFailing, AllHold]

lemma firstFailing_append (front back : List Check) :
    firstFailing (front ++ back) = (firstFailing front).or (firstFailing back) :=
  List.find?_append

/-- The first check that does not hold is a violation. -/
def run (checks : List Check) : Except RuleError Unit :=
  match firstFailing checks with
  | none => .ok ()
  | some k => .error (.violation k.path k.rule)

@[simp] lemma run_nil : run [] = .ok () := rfl

lemma run_cons (k : Check) (rest : List Check) :
    run (k :: rest) = if k.holds then run rest else .error (.violation k.path k.rule) := by
  rw [run, firstFailing, List.find?_cons]
  cases k.holds <;> rfl

lemma run_append (front back : List Check) :
    run (front ++ back) = (run front >>= fun _ => run back) := by
  rw [run, firstFailing_append, run]
  cases firstFailing front <;> rfl

lemma run_eq_ok_iff {checks : List Check} : run checks = .ok () ↔ AllHold checks := by
  rw [← firstFailing_eq_none_iff, run]
  cases firstFailing checks <;> simp

/-! ### Checks of values -/

/-- The rule holds of every text of a list. -/
def each (path rule : String) (p : Rule) (texts : List String) : List Check :=
  texts.mapIdx fun i s => ⟨path ++ "[" ++ toString i ++ "]", rule, p s⟩

/-- A text is there. -/
def filled (path s : String) : List Check :=
  [⟨path, "required", !s.isEmpty⟩]

/-- A text is there and the rule holds of it. -/
def text (path rule : String) (p : Rule) (s : String) : List Check :=
  filled path s ++ [⟨path, rule, p s⟩]

/-- A list is not empty, and the rule holds of every text of it. -/
def texts (path rule : String) (p : Rule) (l : List String) : List Check :=
  ⟨path, "required", !l.isEmpty⟩ :: each path rule p l

@[simp] lemma allHold_nil : AllHold [] := by
  simp [AllHold]

@[simp] lemma allHold_cons {k : Check} {rest : List Check} :
    AllHold (k :: rest) ↔ k.holds = true ∧ AllHold rest :=
  List.forall_mem_cons

@[simp] lemma allHold_append {front back : List Check} :
    AllHold (front ++ back) ↔ AllHold front ∧ AllHold back :=
  List.forall_mem_append

@[simp] lemma allHold_each {path rule : String} {p : Rule} {l : List String} :
    AllHold (each path rule p l) ↔ ∀ s ∈ l, p s = true := by
  simp only [AllHold, each, List.mem_mapIdx]
  constructor
  · intro h s hs
    obtain ⟨i, hi, rfl⟩ := List.mem_iff_getElem.1 hs
    exact h _ ⟨i, hi, rfl⟩
  · rintro h k ⟨i, hi, rfl⟩
    exact h _ (List.getElem_mem hi)

@[simp] lemma allHold_filled {path s : String} : AllHold (filled path s) ↔ s ≠ "" := by
  simp [filled]

@[simp] lemma allHold_text {path rule : String} {p : Rule} {s : String} :
    AllHold (text path rule p s) ↔ s ≠ "" ∧ p s = true := by
  simp [text]

@[simp] lemma allHold_texts {path rule : String} {p : Rule} {l : List String} :
    AllHold (texts path rule p l) ↔ l ≠ [] ∧ ∀ s ∈ l, p s = true := by
  simp [texts]

@[simp] lemma allHold_elim {α : Type} {o : Option α} {checks : α → List Check} :
    AllHold (o.elim [] checks) ↔ ∀ a ∈ o, AllHold (checks a) := by
  cases o <;> simp

end Check

/-! ### Tables as checks -/

/-- Steps that each come down to checks come down to all the checks in a row. -/
lemma forM_eq_run {α : Type} {step : α → Except RuleError Unit} {l : List α}
    {rows : List (List Check)}
    (h : List.Forall₂ (fun x checks => step x = Check.run checks) l rows) :
    l.forM step = Check.run rows.flatten := by
  induction h with
  | nil => rfl
  | cons hx _ ih => rw [List.forM, hx, ih, List.flatten_cons, Check.run_append]

lemma forM_append_eq_run {α : Type} {step : α → Except RuleError Unit} {front back : List α}
    {a b : List Check} (hfront : front.forM step = Check.run a)
    (hback : back.forM step = Check.run b) :
    (front ++ back).forM step = Check.run (a ++ b) := by
  rw [Check.run_append, ← hfront, ← hback]
  exact List.forM_append

/-! ### What a part holds -/

/-- A part holds a text; one that is not there holds the empty text. -/
def Json.HoldsText (v : Json) (s : String) : Prop :=
  v = .str s ∨ v = .null ∧ s = ""

/-- A part holds a list of texts; one that is not there holds the empty list. -/
def Json.HoldsTexts (v : Json) (l : List String) : Prop :=
  v = .strings l ∨ v = .null ∧ l = []

lemma Shape.Admits.holdsText {v : Json} (h : Shape.text.Admits v) : v.HoldsText (v.textOr "") := by
  rcases h with rfl | h
  · exact .inr ⟨rfl, rfl⟩
  · cases v with
    | str s => exact .inl rfl
    | _ => simp [isMatch, Json.isString] at h

lemma Shape.Admits.holdsTexts {v : Json} (h : Shape.texts.Admits v) :
    v.HoldsTexts (v.textsOr []) := by
  rcases h with rfl | h
  · exact .inr ⟨rfl, rfl⟩
  · cases v with
    | arr items => exact .inl (Json.strings_textsOr h []).symm
    | _ => simp [isMatch] at h

lemma Json.isAbsent_strings (l : List String) : (strings l).isAbsent = l.isEmpty := by
  simp [strings, isAbsent]

lemma Shape.isMatch_strings (l : List String) : texts.isMatch (Json.strings l) = true := by
  simp [Json.strings, isMatch, Json.isString]

lemma Json.HoldsText.admits {v : Json} {s : String} (h : v.HoldsText s) :
    Shape.text.Admits v := by
  rcases h with rfl | ⟨rfl, rfl⟩
  · exact .inr rfl
  · exact .inl rfl

lemma Json.HoldsTexts.admits {v : Json} {l : List String} (h : v.HoldsTexts l) :
    Shape.texts.Admits v := by
  rcases h with rfl | ⟨rfl, rfl⟩
  · exact .inr (Shape.isMatch_strings l)
  · exact .inl rfl

lemma Json.isAbsent_of_isObject {v : Json} (h : v.isObject = true) : v.isAbsent = false := by
  cases v with
  | obj members => rfl
  | _ => simp [isObject] at h

/-! ### One constraint -/

namespace ConstraintTable

open Constraint

/-- The paths of the optional fields above a constraint, wherever the table declares them. -/
def optionalAbove (table : ConstraintTable) (k : Constraint) : List String :=
  (table.filter fun a => !a.required && k.isBelow a).map (·.path)

variable {table : ConstraintTable} {rules : RuleSet} {doc : Json} {k : Constraint}

lemma present?_eq (doc : Json) (path : String) :
    doc.present? path =
      if (doc.reach (Json.pathKeys path)).isAbsent then none
      else some (doc.reach (Json.pathKeys path)) := by
  rw [← Json.getD_at?, Json.present?, Json.resolve?]
  cases doc.at? (Json.pathKeys path) with
  | none => rfl
  | some v => cases hv : v.isAbsent <;> simp [hv]

/-- A constraint is left out if the part at some optional field above it is absent. -/
lemma skips_iff :
    table.skips k doc = true ↔
      ∃ path ∈ table.optionalAbove k, (doc.reach (Json.pathKeys path)).isAbsent = true := by
  simp [skips, optionalAbove, present?_eq, and_assoc]

lemma not_skips (h : ∀ path ∈ table.optionalAbove k,
    (doc.reach (Json.pathKeys path)).isAbsent = false) : table.skips k doc = false := by
  rw [Bool.eq_false_iff, ne_eq, skips_iff]
  rintro ⟨path, hpath, habsent⟩
  rw [h path hpath] at habsent
  cases habsent

lemma checkOne_of_skips (h : table.skips k doc = true) :
    table.checkOne rules doc k = Check.run [] := by
  rw [checkOne, if_pos h]
  rfl

lemma forM_of_skips {l : List Constraint} (h : ∀ k ∈ l, table.skips k doc = true) :
    l.forM (table.checkOne rules doc) = Check.run [] :=
  forM_eq_ok_iff.2 fun k hk => checkOne_of_skips (h k hk)

/-- The check of a part that is not left out. -/
lemma checkOne_of_not_skips (h : table.skips k doc = false) :
    table.checkOne rules doc k =
      if (k.partOf doc).isAbsent then
        if k.required then .error (.violation k.path "required") else .ok ()
      else if k.shape.isMatch (k.partOf doc) then
        match k.rule with
        | some rule => rules.checkValue rule k.path (k.partOf doc)
        | none => .ok ()
      else .error (.shapeMismatch k.path k.shape.name) := by
  rw [checkOne, h, present?_eq, partOf]
  cases (doc.reach (Json.pathKeys k.path)).isAbsent <;> rfl

lemma checkOne_text {s : String} (h : table.skips k doc = false) (hk : k.shape = .text)
    (hv : (k.partOf doc).HoldsText s) :
    table.checkOne rules doc k =
      if s.isEmpty then
        if k.required then .error (.violation k.path "required") else .ok ()
      else
        match k.rule with
        | some rule => rules.checkText rule k.path s
        | none => .ok () := by
  rw [checkOne_of_not_skips h, hk]
  rcases hv with hv | ⟨hv, rfl⟩ <;> rw [hv] <;> rfl

lemma checkOne_texts {l : List String} (h : table.skips k doc = false) (hk : k.shape = .texts)
    (hv : (k.partOf doc).HoldsTexts l) :
    table.checkOne rules doc k =
      if l.isEmpty then
        if k.required then .error (.violation k.path "required") else .ok ()
      else
        match k.rule with
        | some rule => rules.checkItems rule k.path 0 (l.map .str)
        | none => .ok () := by
  rw [checkOne_of_not_skips h, hk]
  rcases hv with hv | ⟨hv, rfl⟩
  · rw [hv, Json.isAbsent_strings, Shape.isMatch_strings]
    rfl
  · rw [hv]
    rfl

/-! ### Kinds of constraints -/

section Kinds

variable {path rule : String} {p : Rule} {s : String} {l : List String}

lemma checkText_eq_run (hr : ∀ s, rules.check rule s = .ok (p s)) :
    rules.checkText rule path s = Check.run [⟨path, rule, p s⟩] := by
  rw [RuleSet.checkText, hr, Check.run_cons]
  rfl

lemma checkItems_eq_run (hr : ∀ s, rules.check rule s = .ok (p s)) (i : Nat) :
    rules.checkItems rule path i (l.map .str) =
      Check.run (l.mapIdx fun j s => ⟨path ++ "[" ++ toString (i + j) ++ "]", rule, p s⟩) := by
  -- The rest of the items begins at a later index, so the index varies in the induction.
  induction l generalizing i with
  | nil => rfl
  | cons s rest ih =>
    have hindex : ∀ j, i + 1 + j = i + (j + 1) := by omega
    simp only [RuleSet.checkItems_cons, checkText_eq_run hr, ih, List.mapIdx_cons, hindex]
    exact (Check.run_append [_] _).symm

lemma checkItems_eq_run_each (hr : ∀ s, rules.check rule s = .ok (p s)) :
    rules.checkItems rule path 0 (l.map .str) = Check.run (Check.each path rule p l) := by
  simpa [Check.each] using checkItems_eq_run hr 0

variable (rules)

/-- What asks only for a shape comes down to nothing if the part has it. -/
lemma checkOne_shape (h : table.skips k doc = false) (hk : k.rule = none)
    (hv : k.shape.Admits (k.partOf doc))
    (hthere : k.required = true → (k.partOf doc).isAbsent = false) :
    table.checkOne rules doc k = Check.run [] := by
  rw [checkOne_of_not_skips h, hk]
  cases hp : (k.partOf doc).isAbsent with
  | true =>
    cases hr : k.required with
    | true => simp [hthere hr] at hp
    | false => rfl
  | false =>
    rcases hv with hv | hv
    · simp [hv, Json.isAbsent] at hp
    · rw [hv]
      rfl

lemma checkOne_object (h : table.skips k doc = false) (hk : k.rule = none)
    (hs : k.shape = .object) (hv : (k.partOf doc).isObject = true) :
    table.checkOne rules doc k = Check.run [] := by
  refine checkOne_shape rules h hk ?_ fun _ => ?_
  · rw [hs]
    exact .inr hv
  · exact Json.isAbsent_of_isObject hv

lemma checkOne_require_text (h : table.skips (require path .text) doc = false)
    (hv : (doc.reach (Json.pathKeys path)).HoldsText s) :
    table.checkOne rules doc (require path .text) = Check.run (Check.filled path s) := by
  rw [checkOne_text h rfl hv, Check.filled, Check.run_cons]
  cases s.isEmpty <;> rfl

lemma checkOne_require_text_rule
    (h : table.skips ((require path .text).withRule rule) doc = false)
    (hr : ∀ s, rules.check rule s = .ok (p s))
    (hv : (doc.reach (Json.pathKeys path)).HoldsText s) :
    table.checkOne rules doc ((require path .text).withRule rule) =
      Check.run (Check.text path rule p s) := by
  rw [checkOne_text h rfl hv, Check.text, Check.filled, Check.run_append, Check.run_cons]
  cases s.isEmpty with
  | true => rfl
  | false => exact checkText_eq_run hr

/-- A rule on a text that may be missing must let the empty text pass. -/
lemma checkOne_allow_text_rule
    (h : table.skips ((allow path .text).withRule rule) doc = false)
    (hr : ∀ s, rules.check rule s = .ok (p s)) (hempty : p "" = true)
    (hv : (doc.reach (Json.pathKeys path)).HoldsText s) :
    table.checkOne rules doc ((allow path .text).withRule rule) =
      Check.run [⟨path, rule, p s⟩] := by
  rw [checkOne_text h rfl hv]
  by_cases hs : s = ""
  · subst hs
    rw [Check.run_cons, hempty]
    rfl
  · have hne : s.isEmpty = false := by simpa using hs
    rw [hne]
    exact checkText_eq_run hr

lemma checkOne_allow_texts_rule
    (h : table.skips ((allow path .texts).withRule rule) doc = false)
    (hr : ∀ s, rules.check rule s = .ok (p s))
    (hv : (doc.reach (Json.pathKeys path)).HoldsTexts l) :
    table.checkOne rules doc ((allow path .texts).withRule rule) =
      Check.run (Check.each path rule p l) := by
  rw [checkOne_texts h rfl hv]
  cases l with
  | nil => rfl
  | cons s rest => exact checkItems_eq_run_each hr

lemma checkOne_require_texts_rule
    (h : table.skips ((require path .texts).withRule rule) doc = false)
    (hr : ∀ s, rules.check rule s = .ok (p s))
    (hv : (doc.reach (Json.pathKeys path)).HoldsTexts l) :
    table.checkOne rules doc ((require path .texts).withRule rule) =
      Check.run (Check.texts path rule p l) := by
  rw [checkOne_texts h rfl hv, Check.texts, Check.run_cons]
  cases l with
  | nil => rfl
  | cons s rest => exact checkItems_eq_run_each hr

end Kinds

end ConstraintTable

end StackForm
