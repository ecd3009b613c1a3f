import Jotter.Proofs.Text.Separator

/-! Words put together with one space between them. What differs from such a text only in case has as many
words and the same white space, and so is put together in the same way. -/

namespace Jotter.Text

/-- Between words there is white space. -/
theorem length_wordsChars_le (cs : List Char) :
    (wordsChars cs).length ≤ (cs.filter isBlank).length + 1 := by
  induction cs using cutInduction with
  | field cs hcs =>
      rw [length_wordsChars_field hcs]
      split <;> omega
  | gap field gap rest hfield hne hgap hrest ih =>
      have hblanks : gap.filter isBlank = gap := List.filter_eq_self.2 hgap
      have hfew := length_wordsChars_field hfield
      have hpositive := List.length_pos_of_ne_nil hne
      rw [wordsChars_append hfield hne hgap, List.length_append, hfew, List.filter_append,
        List.filter_append, hblanks, List.length_append, List.length_append]
      split <;> omega

/-- A text with one space between its words, and no white space elsewhere, is its words put together. -/
theorem intercalate_wordsChars {cs : List Char} (hne : wordsChars cs ≠ [])
    (hblanks : cs.filter isBlank = List.replicate ((wordsChars cs).length - 1) ' ') :
    [' '].intercalate (wordsChars cs) = cs := by
  induction cs using cutInduction with
  | field cs hcs =>
      have hnonempty : cs ≠ [] := by
        rintro rfl
        exact hne rfl
      rw [wordsChars_eq_singleton hcs hnonempty, List.intercalate_singleton]
  | gap field gap rest hfield hgapne hgap hrest ih =>
      have hown : field.filter isBlank = [] := List.filter_eq_nil_iff.2 fun c hc => by simp [hfield c hc]
      have hgaps : gap.filter isBlank = gap := List.filter_eq_self.2 hgap
      have hfew := length_wordsChars_field hfield
      have hpositive := List.length_pos_of_ne_nil hgapne
      have hbound := length_wordsChars_le rest
      rw [wordsChars_append hfield hgapne hgap, List.filter_append, List.filter_append, hown, hgaps,
        List.nil_append, List.length_append, hfew, List.append_eq_replicate_iff] at hblanks
      obtain ⟨hlength, hgapblanks, hrestblanks⟩ := hblanks
      -- there are too few blanks for a second one in the gap, or for a gap before the first word
      have hfirst : field ≠ [] := by
        rintro rfl
        rw [if_pos rfl] at hlength
        omega
      rw [if_neg hfirst] at hlength
      obtain ⟨hone, hmore, hothers⟩ : gap.length = 1 ∧ 0 < (wordsChars rest).length ∧
          (rest.filter isBlank).length = (wordsChars rest).length - 1 := by omega
      rw [hone] at hgapblanks
      rw [hothers] at hrestblanks
      rw [wordsChars_append hfield hgapne hgap, wordsChars_eq_singleton hfield hfirst, hgapblanks,
        List.singleton_append, List.intercalate_cons_of_ne_nil (List.ne_nil_of_length_pos hmore),
        ih (List.ne_nil_of_length_pos hmore) hrestblanks, List.append_assoc]
      rfl

theorem wordsChars_intercalate {pieces : List (List Char)} (hpieces : ∀ piece ∈ pieces, IsWord piece) :
    wordsChars ([' '].intercalate pieces) = pieces := by
  induction pieces with
  | nil => rfl
  | cons piece pieces ih =>
      rw [List.forall_mem_cons] at hpieces
      obtain ⟨⟨hne, hblank⟩, hrest⟩ := hpieces
      by_cases hlast : pieces = []
      · rw [hlast, List.intercalate_singleton, wordsChars_eq_singleton hblank hne]
      · rw [List.intercalate_cons_of_ne_nil hlast, List.append_assoc, List.singleton_append,
          wordsChars_append_cons (by decide), ih hrest, wordsChars_eq_singleton hblank hne,
          List.singleton_append]

theorem filter_isBlank_intercalate {pieces : List (List Char)}
    (hpieces : ∀ piece ∈ pieces, IsWord piece) :
    ([' '].intercalate pieces).filter isBlank = List.replicate (pieces.length - 1) ' ' := by
  induction pieces with
  | nil => rfl
  | cons piece pieces ih =>
      rw [List.forall_mem_cons] at hpieces
      obtain ⟨⟨-, hblank⟩, hrest⟩ := hpieces
      have hown : piece.filter isBlank = [] := List.filter_eq_nil_iff.2 fun c hc => by simp [hblank c hc]
      by_cases hlast : pieces = []
      · rw [hlast, List.intercalate_singleton, hown]
        rfl
      · have hspace : [' '].filter isBlank = [' '] := by decide
        rw [List.intercalate_cons_of_ne_nil hlast, List.filter_append, List.filter_append, hown, hspace,
          ih hrest, List.nil_append, List.length_cons, Nat.add_sub_cancel, ← List.replicate_one,
          List.replicate_append_replicate]
        have hpositive := List.length_pos_of_ne_nil hlast
        rw [show 1 + (pieces.length - 1) = pieces.length by omega]

theorem words_of_lowerChars_eq {cs : List Char} {pieces : List (List Char)} (hne : pieces ≠ [])
    (hpieces : ∀ piece ∈ pieces, IsWord piece)
    (hlower : lowerChars cs = lowerChars ([' '].intercalate pieces)) :
    (wordsChars cs).length = pieces.length ∧ [' '].intercalate (wordsChars cs) = cs := by
  have hlength : (wordsChars cs).length = pieces.length := by
    rw [← length_wordsChars_lowerFrom [] cs, ← lowerChars, hlower, lowerChars,
      length_wordsChars_lowerFrom, wordsChars_intercalate hpieces]
  have hblanks : cs.filter isBlank = List.replicate ((wordsChars cs).length - 1) ' ' := by
    rw [← filter_lowerFrom isSeparator_of_isBlank [] cs, ← lowerChars, hlower, lowerChars,
      filter_lowerFrom isSeparator_of_isBlank, filter_isBlank_intercalate hpieces, hlength]
  refine ⟨hlength, intercalate_wordsChars (List.ne_nil_of_length_pos ?_) hblanks⟩
  rw [hlength]
  exact List.length_pos_of_ne_nil hne

theorem words_intercalate {pieces : List String} (hpieces : ∀ piece ∈ pieces, IsWord piece.toList) :
    words (" ".intercalate pieces) = pieces := by
  have hspace : " ".toList = [' '] := rfl
  rw [words, String.toList_intercalate, hspace, wordsChars_intercalate (by simpa using hpieces)]
  simp [Function.comp_def]

/-- A text that differs only in case from words put together has as many words, and it is these put
together. -/
theorem words_of_lower_eq {s : String} {pieces : List String} (hne : pieces ≠ [])
    (hpieces : ∀ piece ∈ pieces, IsWord piece.toList)
    (hlower : lower s = lower (" ".intercalate pieces)) :
    (words s).length = pieces.length ∧ " ".intercalate (words s) = s := by
  have hspace : " ".toList = [' '] := rfl
  have hchars := congrArg String.toList hlower
  rw [toList_lower, toList_lower, String.toList_intercalate, hspace] at hchars
  obtain ⟨hlength, hjoined⟩ := words_of_lowerChars_eq (by simpa using hne) (by simpa using hpieces) hchars
  refine ⟨by rw [words, List.length_map, hlength, List.length_map], String.toList_injective ?_⟩
  rw [String.toList_intercalate, hspace, map_toList_words, hjoined]

/-- What holds words in some case is not white space alone. -/
theorem exists_not_isBlank_of_occursIn {query value : String} (hquery : words query ≠ [])
    (hvalue : occursIn (lower query) (lower value) = true) : ∃ c ∈ value.toList, isBlank c = false := by
  by_contra hnone
  have hblank : ∀ c ∈ value.toList, isBlank c = true := by simpa using hnone
  have hlower : lowerChars value.toList = value.toList := by
    have hgap := lowerFrom_gap hblank [] []
    rwa [lowerFrom, List.append_nil] at hgap
  have hoccurs := occursIn_iff.1 hvalue
  rw [toList_lower, toList_lower, hlower] at hoccurs
  have hwords := wordsChars_gap (fun c hc => hblank c (hoccurs.subset hc)) []
  rw [List.append_nil] at hwords
  have hlength := length_wordsChars_lowerFrom [] query.toList
  rw [← lowerChars, hwords] at hlength
  apply hquery
  rw [words, List.length_eq_zero_iff.1 hlength.symm]
  rfl

end Jotter.Text
