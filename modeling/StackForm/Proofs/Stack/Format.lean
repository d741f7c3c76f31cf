import StackForm.Proofs.Json.Path
import StackForm.Proofs.Text.Lower
import StackForm.Stack.Load

/-!
# The format that a path stands for

A path stands for YAML if its last part has the extension `yaml` or `yml` in letters of either case,
and for JSON otherwise. Slashes and `.` parts at the end of a path name nothing, so the last part is
what stands before them. A dot at the beginning of a name begins no extension.
-/

namespace StackForm.Format

/-! ### The last part of a path -/

/-- A part of a path that names something: neither empty nor `.`. -/
structure IsName (part : List Char) : Prop where
  ne_nil : part ≠ []
  ne_dot : part ≠ ['.']
  no_slash : '/' ∉ part

/-- Slashes and `.` parts behind slashes. -/
inductive Trailing : List Char → Prop
  | nil : Trailing []
  | slash {rest : List Char} (h : Trailing rest) : Trailing ('/' :: rest)
  | dot {rest : List Char} (h : Trailing rest) : Trailing ('/' :: '.' :: rest)

/-- The path ends in the name, but for slashes and `.` parts behind it. -/
inductive LastPart : (path name : List Char) → Prop
  | alone {name trail : List Char} (hname : IsName name) (htrail : Trailing trail) :
    LastPart (name ++ trail) name
  | below {name trail : List Char} (front : List Char) (hname : IsName name)
    (htrail : Trailing trail) : LastPart (front ++ '/' :: (name ++ trail)) name

/-- The path is empty or `.`, but for slashes and `.` parts behind that. -/
inductive Nameless : List Char → Prop
  | empty {trail : List Char} (h : Trailing trail) : Nameless trail
  | dot {trail : List Char} (h : Trailing trail) : Nameless ('.' :: trail)

/-- The parts of a path that name something. -/
def names (path : List Char) : List (List Char) :=
  (Text.split '/' path).filter fun part => !part.isEmpty && part != ['.']

lemma lastName_eq (path : List Char) : lastName path = (names path).getLast?.getD [] := rfl

@[simp] lemma names_nil : names [] = [] := rfl

@[simp] lemma names_dot : names ['.'] = [] := rfl

lemma names_append (front back : List Char) :
    names (front ++ '/' :: back) = names front ++ names back := by
  rw [names, Text.split_append, List.filter_append]
  rfl

lemma IsName.names_eq {name : List Char} (h : IsName name) : names name = [name] := by
  rw [names, Text.split_of_notMem h.no_slash]
  simp [h.ne_nil, h.ne_dot]

/-- What trails behind a path names nothing. -/
lemma Trailing.names_append_eq {trail : List Char} (h : Trailing trail) (path : List Char) :
    names (path ++ trail) = names path := by
  induction h generalizing path with
  | nil => rw [List.append_nil]
  | @slash rest h ih =>
    have hrest : names rest = names [] := ih []
    rw [names_append, hrest]
    simp
  | @dot rest h ih =>
    have hrest : names ('.' :: rest) = names ['.'] := ih ['.']
    rw [names_append, hrest]
    simp

lemma Nameless.names_eq {path : List Char} (h : Nameless path) : names path = [] := by
  cases h with
  | empty h => exact h.names_append_eq []
  | dot h => exact h.names_append_eq ['.']

lemma LastPart.lastName_eq {path name : List Char} (h : LastPart path name) :
    lastName path = name := by
  cases h with
  | alone hname htrail =>
    rw [Format.lastName_eq, htrail.names_append_eq, hname.names_eq]
    rfl
  | below front hname htrail =>
    rw [Format.lastName_eq, names_append, htrail.names_append_eq, hname.names_eq,
      List.getLast?_concat]
    rfl

section Cons

variable {c : Char} {path name : List Char}

lemma Nameless.slash (h : Nameless path) : Nameless ('/' :: path) := by
  cases h with
  | empty h => exact .empty (.slash h)
  | dot h => exact .empty (.dot h)

lemma LastPart.slash (h : LastPart path name) : LastPart ('/' :: path) name := by
  cases h with
  | alone hname htrail => exact .below [] hname htrail
  | below front hname htrail => exact .below ('/' :: front) hname htrail

lemma isName_cons {part : List Char} (hc : c ≠ '/') (hpart : '/' ∉ part)
    (hdot : c :: part ≠ ['.']) : IsName (c :: part) := by
  refine ⟨List.cons_ne_nil c part, hdot, ?_⟩
  rw [List.mem_cons, not_or]
  exact ⟨Ne.symm hc, hpart⟩

/-- Any character but a slash makes a name of an empty part or of `.`, unless it is the dot. -/
lemma Nameless.cons (hc : c ≠ '/') (h : Nameless path) :
    Nameless (c :: path) ∨ ∃ name, LastPart (c :: path) name := by
  cases h with
  | empty h =>
    by_cases hdot : c = '.'
    · subst hdot
      exact .inl (.dot h)
    · have hname : IsName [c] := isName_cons hc List.not_mem_nil (by simpa using hdot)
      exact .inr ⟨[c], .alone hname h⟩
  | dot h =>
    have hname : IsName [c, '.'] := isName_cons hc (by decide) (by simp)
    exact .inr ⟨[c, '.'], .alone hname h⟩

lemma LastPart.cons (hc : c ≠ '/') (h : LastPart path name) :
    ∃ name', LastPart (c :: path) name' := by
  cases h with
  | alone hname htrail =>
    have hdot : c :: name ≠ ['.'] := by
      intro heq
      exact hname.ne_nil (List.cons.inj heq).2
    exact ⟨c :: name, .alone (isName_cons hc hname.no_slash hdot) htrail⟩
  | below front hname htrail => exact ⟨name, .below (c :: front) hname htrail⟩

end Cons

lemma nameless_or_lastPart (path : List Char) :
    Nameless path ∨ ∃ name, LastPart path name := by
  induction path with
  | nil => exact .inl (.empty .nil)
  | cons c path ih =>
    by_cases hc : c = '/'
    · subst hc
      rcases ih with hpath | ⟨name, hpath⟩
      · exact .inl hpath.slash
      · exact .inr ⟨name, hpath.slash⟩
    · rcases ih with hpath | ⟨name, hpath⟩
      · exact hpath.cons hc
      · exact .inr (hpath.cons hc)

/-- A path has one last part at most, and it is the name that is looked at. -/
lemma lastName_eq_iff {path name : List Char} (h : name ≠ []) :
    lastName path = name ↔ LastPart path name := by
  constructor
  · rintro rfl
    rcases nameless_or_lastPart path with hpath | ⟨name, hpath⟩
    · rw [lastName_eq, hpath.names_eq] at h
      exact absurd rfl h
    · rw [hpath.lastName_eq]
      exact hpath
  · exact LastPart.lastName_eq

/-! ### Extensions -/

/-- The name is a stem, a dot and the extension, which has no dot in it. -/
def HasExtension (name ext : List Char) : Prop :=
  name ≠ ['.', '.'] ∧ ∃ stem, name = stem ++ '.' :: ext ∧ stem ≠ [] ∧ '.' ∉ ext

lemma span_reverse {stem ext : List Char} (h : '.' ∉ ext) :
    (stem ++ '.' :: ext).reverse.span (· != '.') = (ext.reverse, '.' :: stem.reverse) := by
  have hext : ∀ c ∈ ext.reverse, (c != '.') = true := by
    intro c hc
    rw [bne_iff_ne]
    rintro rfl
    exact h (List.mem_reverse.1 hc)
  have hrev : (stem ++ '.' :: ext).reverse = ext.reverse ++ '.' :: stem.reverse := by simp
  rw [List.span_eq_takeWhile_dropWhile, hrev, List.takeWhile_append_of_pos hext,
    List.dropWhile_append_of_pos hext]
  simp

lemma extension?_append {stem ext : List Char} (hup : stem ++ '.' :: ext ≠ ['.', '.'])
    (hext : '.' ∉ ext) :
    extension? (stem ++ '.' :: ext) = if stem = [] then none else some ext := by
  rw [extension?, if_neg (by rwa [beq_iff_eq]), span_reverse hext]
  cases hstem : stem.reverse with
  | nil =>
    rw [List.reverse_eq_nil_iff.1 hstem]
    rfl
  | cons c cs =>
    have hne : stem ≠ [] := by
      rintro rfl
      cases hstem
    rw [if_neg hne]
    simp

lemma extension?_of_notMem {name : List Char} (h : '.' ∉ name) : extension? name = none := by
  have hspan : name.reverse.span (· != '.') = (name.reverse, []) := by
    rw [List.span_eq_takeWhile_dropWhile, List.takeWhile_eq_self_iff.2, List.dropWhile_eq_nil_iff.2]
    all_goals
      intro c hc
      rw [bne_iff_ne]
      rintro rfl
      exact h (List.mem_reverse.1 hc)
  rw [extension?, hspan]
  split_ifs <;> rfl

/-- The dot at the beginning of a name begins no extension. -/
lemma extension?_leadingDot {rest : List Char} (h : '.' ∉ rest) :
    extension? ('.' :: rest) = none := by
  have hup : [] ++ '.' :: rest ≠ ['.', '.'] := by
    intro heq
    exact h (by simp [(List.cons.inj heq).2])
  exact extension?_append hup h

lemma extension?_eq_some_iff {name ext : List Char} :
    extension? name = some ext ↔ HasExtension name ext := by
  constructor
  · intro h
    have hup : name ≠ ['.', '.'] := by
      rintro rfl
      cases h
    by_cases hdot : '.' ∈ name
    · -- The last dot of a name is the first from its end.
      obtain ⟨front, back, hname, hfront⟩ :=
        List.eq_append_cons_of_mem (List.mem_reverse.2 hdot)
      obtain rfl : name = back.reverse ++ '.' :: front.reverse := by
        rw [← List.reverse_reverse name, hname]
        simp
      have hext : '.' ∉ front.reverse := fun hmem => hfront (List.mem_reverse.1 hmem)
      rw [extension?_append hup hext] at h
      split_ifs at h with hstem
      cases h
      exact ⟨hup, back.reverse, rfl, hstem, hext⟩
    · rw [extension?_of_notMem hdot] at h
      cases h
  · rintro ⟨hup, stem, rfl, hstem, hext⟩
    rw [extension?_append hup hext, if_neg hstem]

/-! ### The format -/

/-- The last part of the path has the extension `yaml` or `yml`, in letters of either case. -/
def NamesYaml (path : String) : Prop :=
  ∃ name ext, LastPart path.toList name ∧ HasExtension name ext ∧
    (Text.SameUpToCase ext "yaml".toList ∨ Text.SameUpToCase ext "yml".toList)

lemma lower_eq_yaml_iff {ext : List Char} :
    Text.lower ext = "yaml".toList ↔ Text.SameUpToCase ext "yaml".toList :=
  Text.lower_eq_iff (by simp)

lemma lower_eq_yml_iff {ext : List Char} :
    Text.lower ext = "yml".toList ↔ Text.SameUpToCase ext "yml".toList :=
  Text.lower_eq_iff (by simp)

/-- The format is decided by the lower-case form of the extension. -/
lemma ofPath_eq_yaml_iff_extension {path : String} :
    ofPath path = .yaml ↔
      ∃ ext, extension? (lastName path.toList) = some ext ∧
        (Text.lower ext = "yaml".toList ∨ Text.lower ext = "yml".toList) := by
  rw [ofPath]
  cases hext : extension? (lastName path.toList) with
  | none => simp
  | some ext => simp [or_iff_not_imp_left]

lemma ofPath_eq_yaml_iff {path : String} : ofPath path = .yaml ↔ NamesYaml path := by
  rw [ofPath_eq_yaml_iff_extension]
  constructor
  · rintro ⟨ext, hext, hyaml⟩
    rw [lower_eq_yaml_iff, lower_eq_yml_iff] at hyaml
    have hne : lastName path.toList ≠ [] := by
      intro hnil
      rw [hnil] at hext
      cases hext
    exact ⟨lastName path.toList, ext, (lastName_eq_iff hne).1 rfl,
      extension?_eq_some_iff.1 hext, hyaml⟩
  · rintro ⟨name, ext, hname, hext, hyaml⟩
    rw [← lower_eq_yaml_iff, ← lower_eq_yml_iff] at hyaml
    exact ⟨ext, by rw [hname.lastName_eq, extension?_eq_some_iff.2 hext], hyaml⟩

lemma ofPath_eq_json_iff {path : String} : ofPath path = .json ↔ ofPath path ≠ .yaml := by
  cases ofPath path <;> simp

/-- A path stands for YAML if and only if its last part has one of the two extensions, and for JSON
otherwise. So a name without a dot but for the first stands for JSON. -/
theorem ofPath_exact (path : String) :
    (ofPath path = .yaml ↔ NamesYaml path) ∧
    (ofPath path = .json ↔ ¬ NamesYaml path) ∧
    ∀ rest, '.' ∉ rest → LastPart path.toList ('.' :: rest) → ofPath path = .json := by
  refine ⟨ofPath_eq_yaml_iff, ?_, ?_⟩
  · rw [ofPath_eq_json_iff, Ne, ofPath_eq_yaml_iff]
  · intro rest hrest hlast
    rw [ofPath, hlast.lastName_eq, extension?_leadingDot hrest]
    rfl

/-- A name that is only an extension is none, whatever trails behind it. -/
theorem ofPath_exact_leadingDot :
    ('.' ∉ "yaml".toList ∧ LastPart "conf.d/.yaml/./".toList ('.' :: "yaml".toList)) ∧
      ofPath "conf.d/.yaml/./" = .json := by
  have hdot : '.' ∉ "yaml".toList := by simp
  have hlast : LastPart "conf.d/.yaml/./".toList ('.' :: "yaml".toList) :=
    (lastName_eq_iff (by simp)).1 (by decide +kernel)
  exact ⟨⟨hdot, hlast⟩, (ofPath_exact "conf.d/.yaml/./").2.2 "yaml".toList hdot hlast⟩

end StackForm.Format
