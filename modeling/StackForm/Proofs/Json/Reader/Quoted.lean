import StackForm.Proofs.Json.Reader.Recognition

/-!
# Readers of quoted texts

A text that is read and a text that is moved past have one grammar, up to what counts as an escape.
-/

namespace StackForm.Json

/-! ### Lengths -/

namespace Grammar

variable {input output : List UInt8}

lemma HexUnit.length_le {n : Nat} (h : HexUnit input n output) :
    output.length ≤ input.length := by
  cases h
  simp only [List.length_cons]
  omega

lemma Escape.length_le {c : Char} (h : Escape input c output) :
    output.length ≤ input.length := by
  cases h with
  | letter => exact Nat.le_succ _
  | unit h => exact h.length_le.trans (Nat.le_succ _)
  | pair hhigh hlow =>
    have hmid := hhigh.length_le
    have hout := hlow.length_le
    simp only [List.length_cons] at hmid ⊢
    omega

lemma LooseEscape.length_le {c : Char} (h : LooseEscape input c output) :
    output.length ≤ input.length := by
  cases h with
  | letter => exact Nat.le_succ _
  | unit h => exact h.length_le.trans (Nat.le_succ _)

lemma Quoted.length_le {escape : Grammar Char}
    (hescape : ∀ {input c output}, escape input c output → output.length ≤ input.length)
    {bytes : List UInt8} (h : Quoted escape input bytes output) :
    output.length ≤ input.length := by
  induction h with
  | close => exact Nat.le_succ _
  | plain _ _ _ _ ih => exact ih.trans (Nat.le_succ _)
  | escape hc _ ih => exact ih.trans ((hescape hc).trans (Nat.le_succ _))

end Grammar

namespace Reader

open Grammar

variable {input mid output rest bytes : List UInt8} {fuel : Nat}

/-! ### Escapes -/

lemma recognizes_hexUnit : Recognizes hexUnit HexUnit where
  sound input := by
    rintro c n c' rfl hread
    unfold hexUnit at hread
    split at hread
    · next b₁ b₂ b₃ b₄ rest hrest =>
      dsimp only at hread
      split at hread
      · next hlength =>
        cases hread
        have hall := List.filterMap_length_eq_length.1 hlength
        have hdigit : ∀ b ∈ [b₁, b₂, b₃, b₄], ∃ d, IsHexByte b d := fun b hb =>
          Option.isSome_iff_exists.1 (hall b hb)
        simp only [List.forall_mem_cons] at hdigit
        obtain ⟨⟨d₁, h₁⟩, ⟨d₂, h₂⟩, ⟨d₃, h₃⟩, ⟨d₄, h₄⟩, -⟩ := hdigit
        rw [hrest, Cursor.rest_steps, hrest]
        have hunit := HexUnit.digits h₁ h₂ h₃ h₄ rest
        simp only [IsHexByte] at h₁ h₂ h₃ h₄
        simpa [h₁, h₂, h₃, h₄] using hunit
      · cases hread
    · cases hread
  complete := by
    rintro _ _ _ ⟨h₁, h₂, h₃, h₄, output⟩ c hc
    simp only [IsHexByte] at h₁ h₂ h₃ h₄
    refine ⟨c.steps 4, ?_, by rw [Cursor.rest_steps, hc]; rfl⟩
    simp [hexUnit, hc, h₁, h₂, h₃, h₄]

lemma givesOnly_pairByte (b : UInt8) (input : List UInt8) :
    GivesOnly (pairByte b) input fun _ rest => input = b :: rest := by
  refine .peek ?_
  cases input with
  | nil => exact .fail _
  | cons found rest =>
    refine .advance ?_
    split
    · exact .fail _
    · next heq => exact .pure (congrArg (· :: rest) (not_not.1 heq))

lemma reads_pairByte (b : UInt8) (rest : List UInt8) : Reads (pairByte b) (b :: rest) () rest := by
  refine (reads_peek _).bind ((reads_advance b rest).bind ?_)
  rw [if_neg (not_not.2 rfl)]
  exact .pure () rest

lemma givesOnly_numericEscape (input : List UInt8) :
    GivesOnly numericEscape input (Escape (0x75 :: input)) := by
  refine .bind ((recognizes_hexUnit.sound input).mono fun unit mid hunit => ?_)
  split_ifs with hsecond hfirst
  · exact .fail _
  · refine .bind ((givesOnly_pairByte 0x5c mid).mono fun _ mid hmid => ?_)
    refine .bind ((givesOnly_pairByte 0x75 mid).mono fun _ mid' hmid' => ?_)
    refine .bind ((recognizes_hexUnit.sound mid').mono fun second rest hlow => ?_)
    subst hmid hmid'
    split_ifs with hlow'
    · simp only [Bool.and_eq_true, decide_eq_true_eq] at hfirst hlow'
      exact .pure (.pair hunit hlow hfirst hlow')
    · exact .fail _
  · simp only [Bool.and_eq_true, decide_eq_true_eq] at hfirst hsecond
    exact .pure (.unit hunit (by omega))

/-- The letter that begins a numeric escape stands for no character. -/
lemma ne_of_letterEscape? {b : UInt8} {c : Char} (h : letterEscape? b = some c) : b ≠ 0x75 := by
  rintro rfl
  have hnone : letterEscape? 0x75 = none := by decide
  rw [hnone] at h
  cases h

lemma recognizes_escape : Recognizes escape Escape where
  sound input := by
    refine .peek ?_
    cases input with
    | nil => exact .fail _
    | cons b rest =>
      refine .advance ?_
      split_ifs with hb
      · subst hb
        exact givesOnly_numericEscape rest
      · split
        · next hc => exact .pure (.letter hc rest)
        · exact .fail _
  complete := by
    intro input output c h
    cases h with
    | letter h =>
      refine (reads_peek _).bind ((reads_advance _ _).bind ?_)
      rw [if_neg (ne_of_letterEscape? h), h]
      exact .pure _ output
    | unit h hn =>
      refine (reads_peek _).bind ((reads_advance _ _).bind ?_)
      rw [if_pos rfl]
      refine (recognizes_hexUnit.complete h).bind ?_
      rw [if_neg (by simp; omega), if_neg (by simp; omega)]
      exact .pure _ output
    | pair hhigh hlow hfirst hsecond =>
      refine (reads_peek _).bind ((reads_advance _ _).bind ?_)
      rw [if_pos rfl]
      refine (recognizes_hexUnit.complete hhigh).bind ?_
      rw [if_neg (by simp; omega), if_pos (by simp; omega)]
      refine (reads_pairByte _ _).bind ((reads_pairByte _ _).bind ?_)
      refine (recognizes_hexUnit.complete hlow).bind ?_
      rw [if_pos (by simp; omega)]
      exact .pure _ output

/-- Moving past an escape gives nothing, so the character of the grammar is left open. -/
lemma recognizes_skipEscape :
    Recognizes skipEscape fun input _ output => ∃ c, LooseEscape input c output where
  sound input := by
    refine .peek ?_
    cases input with
    | nil => exact .fail _
    | cons b rest =>
      refine .advance ?_
      split_ifs with hb hletter
      · subst hb
        exact .bind ((recognizes_hexUnit.sound rest).mono fun n mid h => .pure ⟨_, .unit h⟩)
      · exact .fail _
      · rw [Option.isNone_iff_eq_none, ← ne_eq, Option.ne_none_iff_exists'] at hletter
        obtain ⟨c, hc⟩ := hletter
        exact .pure ⟨c, .letter hc rest⟩
  complete := by
    rintro input output _ ⟨c, h⟩
    cases h with
    | letter h =>
      refine (reads_peek _).bind ((reads_advance _ _).bind ?_)
      rw [if_neg (ne_of_letterEscape? h), h, if_neg (by simp)]
      exact .pure _ output
    | unit h =>
      refine (reads_peek _).bind ((reads_advance _ _).bind ?_)
      rw [if_pos rfl]
      exact (recognizes_hexUnit.complete h).bind (.pure _ output)

/-! ### Texts -/

lemma givesOnly_textBytes (fuel : Nat) (done input : List UInt8) :
    GivesOnly (textBytes fuel done) input fun bytes output =>
      ∃ back, bytes = done.reverse ++ back ∧ Quoted Escape input back output := by
  induction fuel generalizing done input with
  | zero => exact .fail _
  | succ fuel ih =>
    refine .peek ?_
    cases input with
    | nil => exact .fail _
    | cons b rest =>
      refine .advance ?_
      split_ifs with hquote hslash hcontrol
      · subst hquote
        exact .pure ⟨[], (List.append_nil _).symm, .close rest⟩
      · subst hslash
        refine .bind ((recognizes_escape.sound rest).mono fun c mid hc => ?_)
        refine (ih _ mid).mono ?_
        rintro _ output ⟨back, rfl, hback⟩
        refine ⟨String.utf8EncodeChar c ++ back, ?_, .escape hc hback⟩
        rw [Utf8.encode_singleton, List.reverse_append, List.reverse_reverse, List.append_assoc]
      · exact .fail _
      · refine (ih _ rest).mono ?_
        rintro _ output ⟨back, rfl, hback⟩
        refine ⟨b :: back, ?_, .plain hquote hslash (UInt8.not_lt.1 hcontrol) hback⟩
        rw [List.reverse_cons, List.append_assoc, List.singleton_append]

lemma reads_textBytes_of_quoted (h : Quoted Escape input bytes output)
    (hfuel : input.length ≤ fuel) (done : List UInt8) :
    Reads (textBytes fuel done) input (done.reverse ++ bytes) output := by
  induction h generalizing fuel done with
  | close output =>
    obtain ⟨fuel, rfl⟩ : ∃ n, fuel = n + 1 := ⟨fuel - 1, by simp at hfuel; omega⟩
    refine (reads_peek _).bind ((reads_advance _ _).bind ?_)
    rw [if_pos rfl, List.append_nil]
    exact .pure _ output
  | @plain b input bytes output hquote hslash hb _ ih =>
    obtain ⟨fuel, rfl⟩ : ∃ n, fuel = n + 1 := ⟨fuel - 1, by simp at hfuel; omega⟩
    refine (reads_peek _).bind ((reads_advance _ _).bind ?_)
    rw [if_neg hquote, if_neg hslash, if_neg (UInt8.not_lt.2 hb)]
    simpa using ih (Nat.le_of_succ_le_succ hfuel) (b :: done)
  | @escape c input mid bytes output hc _ ih =>
    obtain ⟨fuel, rfl⟩ : ∃ n, fuel = n + 1 := ⟨fuel - 1, by simp at hfuel; omega⟩
    refine (reads_peek _).bind ((reads_advance _ _).bind ?_)
    rw [if_neg (by decide), if_pos rfl]
    refine (recognizes_escape.complete hc).bind ?_
    rw [Utf8.encode_singleton]
    have hmid := hc.length_le.trans (Nat.le_of_succ_le_succ hfuel)
    simpa using ih hmid ((String.utf8EncodeChar c).reverse ++ done)

/-- A text is read when its bytes are those of a text. -/
lemma recognizes_text :
    Recognizes text fun input s output => Quoted Escape input (Utf8.encode s) output where
  sound input := by
    rintro c s c' rfl hread
    obtain ⟨⟨bytes, after⟩, hbytes, hdecode⟩ := bind_eq_ok_iff.1 hread
    obtain ⟨back, rfl, hback⟩ := givesOnly_textBytes _ [] c.rest c bytes after rfl hbytes
    dsimp only at hdecode
    split at hdecode
    · next hs =>
      cases hdecode
      rwa [Utf8.decode?_eq_some_iff.1 hs]
    · cases hdecode
  complete := by
    intro input output s h c hc
    obtain ⟨c', hread, hc'⟩ := reads_textBytes_of_quoted h (Nat.le_succ _) [] c hc
    refine ⟨c', ?_, hc'⟩
    rw [← hc] at hread
    simp [text, hread, Utf8.decode?_encode, bind, Except.bind]

lemma givesOnly_skipText (fuel : Nat) (input : List UInt8) :
    GivesOnly (skipText fuel) input fun _ output =>
      ∃ bytes, Quoted LooseEscape input bytes output := by
  induction fuel generalizing input with
  | zero => exact .fail _
  | succ fuel ih =>
    refine .peek ?_
    cases input with
    | nil => exact .fail _
    | cons b rest =>
      dsimp only [List.head?_cons]
      split_ifs with hquote hslash hcontrol
      · subst hquote
        exact .of_advance ⟨[], .close rest⟩
      · subst hslash
        refine .advance (.bind ((recognizes_skipEscape.sound rest).mono ?_))
        rintro _ mid ⟨c, hc⟩
        exact (ih mid).mono fun _ output ⟨bytes, h⟩ => ⟨_, .escape hc h⟩
      · exact .fail _
      · refine .advance ((ih rest).mono ?_)
        rintro _ output ⟨bytes, h⟩
        exact ⟨_, .plain hquote hslash (UInt8.not_lt.1 hcontrol) h⟩

lemma reads_skipText (h : Quoted LooseEscape input bytes output) (hfuel : input.length ≤ fuel) :
    Reads (skipText fuel) input () output := by
  induction h generalizing fuel with
  | close output =>
    obtain ⟨fuel, rfl⟩ : ∃ n, fuel = n + 1 := ⟨fuel - 1, by simp at hfuel; omega⟩
    refine (reads_peek _).bind ?_
    dsimp only [List.head?_cons]
    rw [if_pos rfl]
    exact reads_advance _ output
  | plain hquote hslash hb _ ih =>
    obtain ⟨fuel, rfl⟩ : ∃ n, fuel = n + 1 := ⟨fuel - 1, by simp at hfuel; omega⟩
    refine (reads_peek _).bind ?_
    dsimp only [List.head?_cons]
    rw [if_neg hquote, if_neg hslash, if_neg (UInt8.not_lt.2 hb)]
    exact (reads_advance _ _).bind (ih (Nat.le_of_succ_le_succ hfuel))
  | @escape c input mid _ _ hc _ ih =>
    obtain ⟨fuel, rfl⟩ : ∃ n, fuel = n + 1 := ⟨fuel - 1, by simp at hfuel; omega⟩
    refine (reads_peek _).bind ?_
    dsimp only [List.head?_cons]
    rw [if_neg (by decide), if_pos rfl]
    have hescape : Reads skipEscape input () mid := recognizes_skipEscape.complete ⟨c, hc⟩
    refine (reads_advance _ _).bind (hescape.bind ?_)
    exact ih (hc.length_le.trans (Nat.le_of_succ_le_succ hfuel))

end Reader

end StackForm.Json
