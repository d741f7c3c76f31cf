import Mathlib
import StackForm.Text.Lower

/-!
# Lower case and the letters of ASCII

Of the characters beyond ASCII, two have a lower-case form that begins with a letter of ASCII: the
capital I with a dot above gives an `i`, the sign of the Kelvin a `k`. There are no others, so a word
of ASCII without those two letters is the lower-case form of just the texts that differ from it in
the case of ASCII letters.
-/

namespace StackForm.Text

/-! ### Rows of capitals -/

/-- The capitals of the row lie beyond ASCII, and so do their small letters, unless the only capital
is the sign of the Kelvin. -/
def CaseRow.BeyondAscii (row : CaseRow) : Prop :=
  0x80 ≤ row.first ∧
    (row = ⟨0x212a, 0x212a, 1, 0x6b⟩ ∨
      0x80 ≤ row.small ∧ row.small + (row.last - row.first) < 0xd800 ∨
      0xdfff < row.small ∧ row.small + (row.last - row.first) < 0x110000)

lemma caseRows_eq : caseRows = ⟨0x41, 0x5a, 1, 0x61⟩ :: caseRows.tail := rfl

lemma beyondAscii_of_mem_tail : ∀ row ∈ caseRows.tail, row.BeyondAscii := by
  unfold CaseRow.BeyondAscii
  decide +kernel

lemma CaseRow.small?_eq_some_iff {row : CaseRow} {n m : Nat} :
    row.small? n = some m ↔
      (row.first ≤ n ∧ n ≤ row.last ∧ (n - row.first) % row.step = 0) ∧
        row.small + (n - row.first) = m := by
  rw [small?]
  split_ifs with h
  · simp [h]
  · simp [h]

lemma CaseRow.small?_of_lt {row : CaseRow} {n : Nat} (h : n < row.first) : row.small? n = none := by
  rw [small?, if_neg]
  intro hrow
  exact absurd hrow.1 (Nat.not_le_of_lt h)

/-- Only the first row holds capitals of ASCII. -/
lemma findSome?_small?_of_ascii {n : Nat} (h : n < 0x80) :
    caseRows.findSome? (·.small? n) = CaseRow.small? ⟨0x41, 0x5a, 1, 0x61⟩ n := by
  have htail : caseRows.tail.findSome? (·.small? n) = none := by
    rw [List.findSome?_eq_none_iff]
    intro row hrow
    exact CaseRow.small?_of_lt (lt_of_lt_of_le h (beyondAscii_of_mem_tail row hrow).1)
  rw [caseRows_eq, List.findSome?_cons, htail]
  cases CaseRow.small? ⟨0x41, 0x5a, 1, 0x61⟩ n <;> rfl

/-- A small letter of such a row is a `k` or lies beyond ASCII. -/
lemma CaseRow.BeyondAscii.small_cases {row : CaseRow} (hrow : row.BeyondAscii) {n m : Nat}
    (h : row.small? n = some m) : Char.ofNat m = 'k' ∨ 0x80 ≤ (Char.ofNat m).toNat := by
  obtain ⟨⟨hfirst, hlast, -⟩, rfl⟩ := CaseRow.small?_eq_some_iff.1 h
  rcases hrow.2 with rfl | hsmall
  · left
    obtain rfl : n = 0x212a := le_antisymm hlast hfirst
    rfl
  · right
    have hvalid : (row.small + (n - row.first)).isValidChar := by
      rw [Nat.isValidChar]
      omega
    rw [Char.toNat_ofNat, if_pos hvalid]
    omega

/-! ### Characters -/

lemma isUpper_iff {c : Char} : c.isUpper = true ↔ 0x41 ≤ c.toNat ∧ c.toNat ≤ 0x5a := by
  simp [Char.isUpper, UInt32.le_iff_toNat_le, ← Char.toNat_val]

lemma isLower_iff {c : Char} : c.isLower = true ↔ 0x61 ≤ c.toNat ∧ c.toNat ≤ 0x7a := by
  simp [Char.isLower, UInt32.le_iff_toNat_le, ← Char.toNat_val]

/-- A character of ASCII has the lower-case form that it has in ASCII. -/
lemma lowerChar_of_ascii {c : Char} (h : c.toNat < 0x80) : lowerChar c = [c.toLower] := by
  have hdotted : c ≠ '\u0130' := by
    rintro rfl
    exact absurd h (by decide)
  rw [lowerChar, if_neg hdotted, findSome?_small?_of_ascii h]
  by_cases hc : c.isUpper = true
  · have hbounds := isUpper_iff.1 hc
    have hsmall : CaseRow.small? ⟨0x41, 0x5a, 1, 0x61⟩ c.toNat = some (c.toNat + 32) := by
      rw [CaseRow.small?_eq_some_iff]
      simp only
      omega
    rw [hsmall, Char.toLower_eq_of_isUpper hc]
  · have hsmall : CaseRow.small? ⟨0x41, 0x5a, 1, 0x61⟩ c.toNat = none := by
      rw [CaseRow.small?, if_neg]
      intro hrow
      exact hc (isUpper_iff.2 ⟨hrow.1, hrow.2.1⟩)
    rw [hsmall, Char.toLower_eq_of_not_isUpper hc]

/-- Beyond ASCII only the dotted capital I and the sign of the Kelvin lead into ASCII. -/
lemma exists_lowerChar_of_not_ascii {c : Char} (h : 0x80 ≤ c.toNat) :
    ∃ d ds, lowerChar c = d :: ds ∧ (d = 'i' ∨ d = 'k' ∨ 0x80 ≤ d.toNat) := by
  by_cases hdotted : c = '\u0130'
  · refine ⟨'i', ['\u0307'], ?_, .inl rfl⟩
    rw [lowerChar, if_pos hdotted]
  · rw [lowerChar, if_neg hdotted]
    cases hsmall : caseRows.findSome? (·.small? c.toNat) with
    | none => exact ⟨c, [], rfl, .inr (.inr h)⟩
    | some n =>
      obtain ⟨row, hmem, hrow⟩ := List.exists_of_findSome?_eq_some hsmall
      refine ⟨Char.ofNat n, [], rfl, .inr ?_⟩
      rw [caseRows_eq, List.mem_cons] at hmem
      rcases hmem with rfl | hmem
      · obtain ⟨⟨-, hlast, -⟩, -⟩ := CaseRow.small?_eq_some_iff.1 hrow
        simp only at hlast
        omega
      · exact (beyondAscii_of_mem_tail row hmem).small_cases hrow

/-! ### Texts -/

/-- The texts differ in the case of letters of ASCII at most. -/
def SameUpToCase (cs ds : List Char) : Prop :=
  cs.map Char.toLower = ds.map Char.toLower

@[simp] lemma lower_nil : lower [] = [] := rfl

@[simp] lemma lower_cons (c : Char) (cs : List Char) :
    lower (c :: cs) = lowerChar c ++ lower cs := rfl

lemma lower_eq_iff_map_toLower {cs word : List Char}
    (hword : ∀ c ∈ word, c.toNat < 0x80 ∧ c ≠ 'i' ∧ c ≠ 'k') :
    lower cs = word ↔ cs.map Char.toLower = word := by
  induction cs generalizing word with
  | nil => simp
  | cons c cs ih =>
    rw [lower_cons, List.map_cons]
    by_cases hc : c.toNat < 0x80
    · rw [lowerChar_of_ascii hc, List.singleton_append]
      cases word with
      | nil => simp
      | cons d word =>
        rw [List.cons.injEq, List.cons.injEq, ih]
        intro e he
        exact hword e (List.mem_cons_of_mem d he)
    · -- Neither side begins with a character that the word may have.
      have hc' : 0x80 ≤ c.toNat := Nat.le_of_not_lt hc
      obtain ⟨d, ds, hd, hlead⟩ := exists_lowerChar_of_not_ascii hc'
      have hself : c.toLower = c := by
        apply Char.toLower_eq_of_not_isUpper
        rw [isUpper_iff]
        omega
      constructor
      · rintro rfl
        obtain ⟨hascii, hi, hk⟩ := hword d (by simp [hd])
        rcases hlead with hlead | hlead | hlead
        · exact absurd hlead hi
        · exact absurd hlead hk
        · omega
      · rintro rfl
        have hascii := (hword c.toLower List.mem_cons_self).1
        rw [hself] at hascii
        exact absurd hascii hc

/-- A word of small letters of ASCII without `i` and `k` is the lower-case form of its spellings in
ASCII alone. -/
lemma lower_eq_iff {cs word : List Char}
    (hword : ∀ c ∈ word, c.isLower = true ∧ c ≠ 'i' ∧ c ≠ 'k') :
    lower cs = word ↔ SameUpToCase cs word := by
  have hself : word.map Char.toLower = word := by
    conv_rhs => rw [← List.map_id word]
    apply List.map_congr_left
    intro c hc
    exact Char.toLower_eq_of_not_isUpper (Char.not_isUpper_of_isLower (hword c hc).1)
  rw [SameUpToCase, hself]
  apply lower_eq_iff_map_toLower
  intro c hc
  have hlower := isLower_iff.1 (hword c hc).1
  exact ⟨by omega, (hword c hc).2⟩

-- The sign of the Kelvin is no letter of ASCII in either case.
example : lower ['\u212a'] = ['k'] := by decide

end StackForm.Text
