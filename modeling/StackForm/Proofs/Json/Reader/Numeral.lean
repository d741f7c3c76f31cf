import StackForm.Proofs.Json.Reader.Recognition

/-!
# Readers of numerals

A numeral that is not asked for is moved past. A run of digits is taken as far as it goes, so what
follows it begins with another byte, and decides whether a fraction or an exponent is there.
-/

namespace StackForm.Json

/-! ### Lengths -/

namespace Grammar

open Reader (isDigit)

variable {input output : List UInt8}

lemma Exponent.length_le (h : Exponent input () output) : output.length ≤ input.length := by
  cases h with
  | unsigned _ _ rest | signed _ _ _ rest =>
    have hrest := length_dropWhile_le isDigit rest
    simp only [List.length_cons]
    omega

lemma ExponentOrEnd.length_le (h : ExponentOrEnd input () output) :
    output.length ≤ input.length := by
  cases h with
  | exponent h => exact h.length_le
  | nothing => exact Nat.le_refl _

lemma NumeralEnd.length_le (h : NumeralEnd input () output) : output.length ≤ input.length := by
  cases h with
  | @fraction _ rest _ _ h =>
    have hrest := length_dropWhile_le isDigit rest
    have hend := h.length_le
    simp only [List.length_cons]
    omega
  | whole _ h => exact h.length_le

/-- A numeral begins with a digit. -/
lemma Numeral.opens (h : Numeral input () output) :
    ∃ d rest, input = d :: rest ∧ isDigit d = true ∧ output.length ≤ rest.length := by
  cases h with
  | @zero rest _ _ h => exact ⟨0x30, rest, rfl, by decide, h.length_le⟩
  | @positive d rest _ hd _ h =>
    exact ⟨d, rest, rfl, hd, h.length_le.trans (length_dropWhile_le isDigit rest)⟩

end Grammar

namespace Reader

open Grammar

variable {input output : List UInt8} {d : UInt8}

/-! ### Digits -/

/-- The values of the digits at the front. -/
def digitRun (input : List UInt8) : List Nat :=
  (input.takeWhile isDigit).filterMap digitValue?

lemma recognizes_digits : Recognizes digits fun input ds output =>
    ds = digitRun input ∧ output = input.dropWhile isDigit where
  sound input := by
    rintro c _ _ rfl ⟨rfl⟩
    exact ⟨rfl, c.rest_steps_takeWhile isDigit⟩
  complete := by
    rintro _ _ _ ⟨rfl, rfl⟩ c rfl
    exact ⟨_, rfl, c.rest_steps_takeWhile isDigit⟩

lemma digitValue?_eq_some_zero_iff : digitValue? d = some 0 ↔ d = 0x30 := by
  simp only [digitValue?]
  split_ifs with h
  · simp only [Bool.and_eq_true, decide_eq_true_eq, UInt8.le_iff_toNat_le] at h
    rw [Option.some_inj, ← UInt8.toNat_inj]
    change 48 ≤ _ ∧ _ at h
    change _ - 48 = 0 ↔ _ = 48
    omega
  · simp only [false_iff]
    rintro rfl
    exact h (by decide)

/-- A run of digits is not empty when a digit stands at the front. -/
lemma isEmpty_digitRun_eq_false_iff :
    (digitRun input).isEmpty = false ↔ ∃ d rest, input = d :: rest ∧ isDigit d = true := by
  cases input with
  | nil => simp [digitRun]
  | cons d rest =>
    cases hd : digitValue? d with
    | none => simp [digitRun, isDigit, hd]
    | some value => simp [digitRun, isDigit, hd]

/-- What is taken from a run of digits is taken from the rest of the run. -/
lemma dropWhile_isDigit_cons (hd : isDigit d = true) (rest : List UInt8) :
    (d :: rest).dropWhile isDigit = rest.dropWhile isDigit :=
  List.dropWhile_cons_of_pos hd

/-! ### Exponents and fractions -/

/-- The digits of an exponent. -/
def exponentDigits : Reader Unit := do
  let first ← peek
  advance
  if first.any isDigit then
    let _ ← digits
  else fail .invalidNumber

lemma recognizes_exponentDigits : Recognizes exponentDigits fun input _ output =>
    ∃ d rest, input = d :: rest ∧ isDigit d = true ∧ output = rest.dropWhile isDigit where
  sound input := by
    refine .peek ?_
    cases input with
    | nil => exact .advance (.fail _)
    | cons d rest =>
      refine .advance ?_
      split_ifs with hd
      · refine .bind ((recognizes_digits.sound rest).mono ?_)
        rintro _ _ ⟨-, rfl⟩
        exact .pure ⟨d, rest, rfl, hd, rfl⟩
      · exact .fail _
  complete := by
    rintro _ _ _ ⟨d, rest, rfl, hd, rfl⟩
    refine (reads_peek _).bind ((reads_advance _ _).bind ?_)
    rw [List.head?_cons, Option.any_some, if_pos hd]
    exact (recognizes_digits.complete ⟨rfl, rfl⟩).bind (.pure _ _)

lemma skipExponent_eq : skipExponent = (do
    advance
    let sign ← peek
    if sign = some 0x2b || sign = some 0x2d then advance
    exponentDigits) :=
  rfl

lemma givesOnly_skipExponent {letter : UInt8} (hletter : letter = 0x65 ∨ letter = 0x45)
    (input : List UInt8) :
    GivesOnly skipExponent (letter :: input) (Exponent (letter :: input)) := by
  rw [skipExponent_eq]
  refine .advance (.peek ?_)
  rw [List.tail_cons]
  split_ifs with hsign
  · obtain ⟨sign, rest, rfl, hsign'⟩ :
        ∃ sign rest, input = sign :: rest ∧ (sign = 0x2b ∨ sign = 0x2d) := by
      cases input with
      | nil => simp at hsign
      | cons sign rest => exact ⟨sign, rest, rfl, by simpa using hsign⟩
    refine .advance ((recognizes_exponentDigits.sound rest).mono ?_)
    rintro _ _ ⟨d, rest, rfl, hd, rfl⟩
    exact .signed hletter hsign' hd rest
  · refine (recognizes_exponentDigits.sound input).mono ?_
    rintro _ _ ⟨d, rest, rfl, hd, rfl⟩
    exact .unsigned hletter hd rest

lemma reads_skipExponent (h : Exponent input () output) : Reads skipExponent input () output := by
  rw [skipExponent_eq]
  cases h with
  | @unsigned letter d _ hd rest =>
    refine (reads_advance _ _).bind ((reads_peek _).bind ?_)
    have hsign : ¬ (d = 0x2b ∨ d = 0x2d) := by
      rintro (rfl | rfl) <;> exact absurd hd (by decide)
    rw [if_neg (by simpa using hsign)]
    exact recognizes_exponentDigits.complete ⟨d, rest, rfl, hd, rfl⟩
  | @signed letter sign d _ hsign hd rest =>
    refine (reads_advance _ _).bind ((reads_peek _).bind ?_)
    rw [if_pos (by simpa using hsign)]
    refine (reads_advance _ _).bind ?_
    exact recognizes_exponentDigits.complete ⟨d, rest, rfl, hd, rfl⟩

lemma recognizes_skipExponentOrEnd : Recognizes skipExponentOrEnd ExponentOrEnd where
  sound input := by
    refine .peek ?_
    split_ifs with hletter
    · obtain ⟨letter, rest, rfl, hletter'⟩ :
          ∃ letter rest, input = letter :: rest ∧ (letter = 0x65 ∨ letter = 0x45) := by
        cases input with
        | nil => simp at hletter
        | cons letter rest => exact ⟨letter, rest, rfl, by simpa using hletter⟩
      exact (givesOnly_skipExponent hletter' rest).mono fun _ _ => .exponent
    · refine .pure (.nothing fun b hb => ?_)
      rw [Option.mem_def.1 hb] at hletter
      simpa using hletter
  complete := by
    rintro input output _ h
    refine (reads_peek _).bind ?_
    cases h with
    | exponent h =>
      rw [if_pos (by cases h <;> simpa)]
      exact reads_skipExponent h
    | nothing h =>
      rw [if_neg]
      · exact .pure _ _
      · cases hinput : input.head? with
        | none => simp
        | some b => simpa using h b hinput

lemma givesOnly_skipFraction (input : List UInt8) :
    GivesOnly skipFraction (0x2e :: input) (NumeralEnd (0x2e :: input)) := by
  refine .advance (.bind ((recognizes_digits.sound input).mono ?_))
  rintro _ _ ⟨rfl, rfl⟩
  split_ifs with hempty
  · exact .failNext _
  · rw [Bool.not_eq_true, isEmpty_digitRun_eq_false_iff] at hempty
    obtain ⟨d, rest, rfl, hd⟩ := hempty
    rw [dropWhile_isDigit_cons hd]
    exact (recognizes_skipExponentOrEnd.sound _).mono fun _ _ => .fraction hd

lemma reads_skipFraction (hd : isDigit d = true)
    (h : ExponentOrEnd (input.dropWhile isDigit) () output) :
    Reads skipFraction (0x2e :: d :: input) () output := by
  refine (reads_advance _ _).bind ((recognizes_digits.complete ⟨rfl, rfl⟩).bind ?_)
  rw [isEmpty_digitRun_eq_false_iff.2 ⟨d, input, rfl, hd⟩, dropWhile_isDigit_cons hd]
  exact recognizes_skipExponentOrEnd.complete h

/-! ### Numerals -/

/-- What follows the integer part, which has a fraction if a point is next. -/
def skipNumeralEnd (next : Option UInt8) : Reader Unit :=
  if next = some 0x2e then skipFraction else skipExponentOrEnd

lemma givesOnly_skipNumeralEnd (input : List UInt8) :
    GivesOnly (skipNumeralEnd input.head?) input (NumeralEnd input) := by
  rw [skipNumeralEnd]
  split_ifs with hpoint
  · obtain ⟨rest, rfl⟩ : ∃ rest, input = 0x2e :: rest := List.head?_eq_some_iff.1 hpoint
    exact givesOnly_skipFraction rest
  · refine (recognizes_skipExponentOrEnd.sound input).mono fun _ _ => .whole ?_
    rintro b hb rfl
    exact hpoint hb

lemma reads_skipNumeralEnd (h : NumeralEnd input () output) :
    Reads (skipNumeralEnd input.head?) input () output := by
  cases h with
  | fraction hd h => exact reads_skipFraction hd h
  | whole hinput h =>
    have hpoint : input.head? ≠ some 0x2e := fun hpoint => hinput _ hpoint rfl
    rw [skipNumeralEnd, if_neg hpoint]
    exact recognizes_skipExponentOrEnd.complete h

/-- A numeral, from after its first digit, whose value is given. -/
def skipNumberFrom (first : Nat) : Reader Unit := do
  let _ ← (if first = 0 then pure [] else digits)
  let next ← peek
  if first = 0 && next.any isDigit then failNext .invalidNumber else skipNumeralEnd next

lemma skipNumber_eq : skipNumber = (do
    let first ← peek
    advance
    match first.bind digitValue? with
    | none => fail .invalidNumber
    | some first => skipNumberFrom first) :=
  rfl

lemma givesOnly_skipNumberFrom {first : Nat} (hd : digitValue? d = some first)
    (input : List UInt8) : GivesOnly (skipNumberFrom first) input (Numeral (d :: input)) := by
  by_cases hfirst : first = 0
  · subst hfirst
    obtain rfl := digitValue?_eq_some_zero_iff.1 hd
    refine .bind (.pure (.peek ?_))
    split_ifs with hdigit
    · exact .failNext _
    · refine (givesOnly_skipNumeralEnd input).mono fun _ _ => .zero fun b hb => ?_
      rw [Option.mem_def.1 hb] at hdigit
      simpa using hdigit
  · rw [skipNumberFrom, if_neg hfirst]
    refine .bind ((recognizes_digits.sound input).mono ?_)
    rintro _ _ ⟨-, rfl⟩
    refine .peek ?_
    rw [if_neg (by simp [hfirst])]
    refine (givesOnly_skipNumeralEnd _).mono fun _ _ => .positive ?_ ?_
    · rw [isDigit, hd, Option.isSome_some]
    · rintro rfl
      exact hfirst (Option.some.inj (hd.symm.trans (digitValue?_eq_some_zero_iff.2 rfl)))

lemma reads_skipNumberFrom {first : Nat} (hd : digitValue? d = some first)
    (h : Numeral (d :: input) () output) : Reads (skipNumberFrom first) input () output := by
  cases h with
  | zero hinput h =>
    obtain rfl := Option.some.inj (hd.symm.trans (digitValue?_eq_some_zero_iff.2 rfl))
    refine (Reads.pure _ input).bind ((reads_peek input).bind ?_)
    rw [if_neg]
    · exact reads_skipNumeralEnd h
    · cases hnext : input.head? with
      | none => simp
      | some b => simpa using hinput b hnext
  | positive _ hzero h =>
    have hfirst : first ≠ 0 := by
      rintro rfl
      exact hzero (digitValue?_eq_some_zero_iff.1 hd)
    rw [skipNumberFrom, if_neg hfirst]
    refine (recognizes_digits.complete ⟨rfl, rfl⟩).bind ((reads_peek _).bind ?_)
    rw [if_neg (by simp [hfirst])]
    exact reads_skipNumeralEnd h

lemma recognizes_skipNumber : Recognizes skipNumber Numeral where
  sound input := by
    rw [skipNumber_eq]
    refine .peek (.advance ?_)
    cases input with
    | nil => exact .fail _
    | cons d rest =>
      rw [List.head?_cons, Option.bind_some]
      cases hd : digitValue? d with
      | none => exact .fail _
      | some first => exact givesOnly_skipNumberFrom hd rest
  complete := by
    intro input output _ h
    obtain ⟨d, rest, rfl, hdigit, -⟩ := h.opens
    obtain ⟨first, hd⟩ := Option.isSome_iff_exists.1 hdigit
    rw [skipNumber_eq]
    refine (reads_peek _).bind ((reads_advance d rest).bind ?_)
    rw [List.head?_cons, Option.bind_some, hd]
    exact reads_skipNumberFrom hd h

end Reader

end StackForm.Json
