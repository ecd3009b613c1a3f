import Jotter.Line
import Jotter.Proofs.Text.Case
import Jotter.Proofs.Text.Fields

/-! Separators: white space, the quotation marks and the number sign. No run of lower case holds one or
leads to one, so lower case leaves the separators of a text what and where they are, and the text keeps as
many words as it had. -/

namespace Jotter.Text

/-- The code points of white space, of the quotation marks and of the number sign. -/
def separatorRanges : List (Nat × Nat) :=
  [(9, 13), (28, 32), (34, 35), (39, 39), (0x85, 0x85), (0xA0, 0xA0), (0x1680, 0x1680),
   (0x2000, 0x200A), (0x2028, 0x2029), (0x202F, 0x202F), (0x205F, 0x205F), (0x3000, 0x3000)]

def isSeparator (c : Char) : Bool :=
  inRanges separatorRanges c

theorem isSeparator_iff {c : Char} :
    isSeparator c = true ↔ isBlank c = true ∨ Line.isQuote c = true ∨ c = '#' := by
  have hcode : ∀ d : Char, c = d ↔ c.toNat = d.toNat := fun d => Char.toNat_inj.symm
  simp only [isSeparator, inRanges, separatorRanges, isBlank, Line.isQuote, List.any_cons, List.any_nil,
    Bool.or_eq_true, Bool.and_eq_true, decide_eq_true_eq, beq_iff_eq, hcode]
  simp only [show '"'.toNat = 34 from rfl, show '\x27'.toNat = 39 from rfl, show '#'.toNat = 35 from rfl,
    Bool.false_eq_true, or_false]
  omega

theorem isSeparator_of_isBlank (c : Char) (hc : isBlank c = true) : isSeparator c = true :=
  isSeparator_iff.2 (.inl hc)

theorem isSeparator_of_isQuote (c : Char) (hc : Line.isQuote c = true) : isSeparator c = true :=
  isSeparator_iff.2 (.inr (.inl hc))

theorem isSeparator_of_isSign (c : Char) (hc : (c == '#') = true) : isSeparator c = true :=
  isSeparator_iff.2 (.inr (.inr (beq_iff_eq.1 hc)))

/-- No run holds a separator, and none leads to one. -/
theorem separators_apart : ∀ run ∈ caseRuns, ∀ range ∈ separatorRanges,
    (run.last < range.1 ∨ range.2 < run.first) ∧ (run.lastImage < range.1 ∨ range.2 < run.image) := by
  decide +kernel

theorem lowerForm_of_isSeparator {c : Char} (hc : isSeparator c = true) : lowerForm c = [c] := by
  obtain ⟨range, hrange, hfirst, hlast⟩ := inRanges_eq_true_iff.1 hc
  have hdotted : c.toNat ≠ 0x130 := by
    rintro hcode
    rw [isSeparator, inRanges, hcode] at hc
    exact absurd hc (by decide)
  have hnone : ∀ run ∈ caseRuns, ¬ run.Holds c.toNat := by
    rintro run hrun ⟨hbegins, hends, -⟩
    obtain ⟨hsource, -⟩ := separators_apart run hrun range hrange
    omega
  rw [lowerForm_eq hdotted, imageIn_of_not_holds hnone, Char.ofNat_toNat]

theorem isSeparator_of_mem_lowerForm {c d : Char} (hd : d ∈ lowerForm c)
    (hseparator : isSeparator d = true) : isSeparator c = true := by
  by_cases hdotted : c.toNat = 0x130
  · rw [lowerForm, if_neg (by omega), if_pos hdotted, List.mem_cons, List.mem_singleton] at hd
    rcases hd with rfl | rfl <;> exact absurd hseparator (by decide)
  · rw [lowerForm_eq hdotted, List.mem_singleton] at hd
    have hcode : d.toNat = imageIn caseRuns c.toNat := by
      rw [hd, toNat_ofNat (isValidChar_imageIn c)]
    rcases imageIn_cases caseRuns c.toNat with ⟨-, himage⟩ | ⟨run, hrun, hholds, himage⟩
    · rw [himage] at hcode
      rwa [← Char.toNat_inj.1 hcode]
    · obtain ⟨range, hrange, hfirst, hlast⟩ := inRanges_eq_true_iff.1 hseparator
      obtain ⟨-, himages⟩ := separators_apart run hrun range hrange
      obtain ⟨hbegins, hends⟩ := CaseRun.image_le_lastImage hholds
      omega

/-- A separator stays what it is. -/
theorem lowerAt_of_isSeparator {c : Char} (hc : isSeparator c = true) (before after : List Char) :
    lowerAt before c after = [c] := by
  have hsigma : c ≠ 'Σ' := by
    rintro rfl
    exact absurd hc (by decide)
  rw [lowerAt, if_neg hsigma, lowerForm_of_isSeparator hc]

/-- No other character becomes a separator. -/
theorem not_isSeparator_of_mem_lowerAt {c d : Char} (hc : isSeparator c = false)
    {before after : List Char} (hd : d ∈ lowerAt before c after) : isSeparator d = false := by
  rw [← Bool.not_eq_true] at hc ⊢
  intro hseparator
  rw [lowerAt] at hd
  split at hd
  · split at hd
    · obtain rfl := List.mem_singleton.1 hd
      exact absurd hseparator (by decide)
    · obtain rfl := List.mem_singleton.1 hd
      exact absurd hseparator (by decide)
  · exact hc (isSeparator_of_mem_lowerForm hd hseparator)

theorem eq_false_of_not_isSeparator {p : Char → Bool} (hp : ∀ c, p c = true → isSeparator c = true)
    {c : Char} (hc : isSeparator c = false) : p c = false :=
  Bool.eq_false_iff.2 fun hclass => Bool.false_ne_true (hc.symm.trans (hp c hclass))

/-- A class of separators holds an image iff it holds the character. -/
theorem eq_of_mem_lowerAt {p : Char → Bool} (hp : ∀ c, p c = true → isSeparator c = true) {c d : Char}
    {before after : List Char} (hd : d ∈ lowerAt before c after) : p d = p c := by
  cases hc : isSeparator c with
  | true =>
      rw [lowerAt_of_isSeparator hc, List.mem_singleton] at hd
      rw [hd]
  | false =>
      rw [eq_false_of_not_isSeparator hp hc,
        eq_false_of_not_isSeparator hp (not_isSeparator_of_mem_lowerAt hc hd)]

/-- The separators of a class stand in the lower case of a text as they stand in the text. -/
theorem filter_lowerFrom {p : Char → Bool} (hp : ∀ c, p c = true → isSeparator c = true)
    (before cs : List Char) : (lowerFrom before cs).filter p = cs.filter p := by
  induction cs generalizing before with
  | nil => rfl
  | cons c cs ih =>
      rw [lowerFrom, List.filter_append, ih]
      cases hc : p c with
      | true =>
          rw [lowerAt_of_isSeparator (hp c hc), ← List.filter_append, List.singleton_append]
      | false =>
          have hnone : (lowerAt before c cs).filter p = [] :=
            List.filter_eq_nil_iff.2 fun d hd => by
              rw [eq_of_mem_lowerAt hp hd, hc]
              exact Bool.false_ne_true
          rw [hnone, List.filter_cons_of_neg (by rw [hc]; exact Bool.false_ne_true), List.nil_append]

theorem not_isSeparator_of_mem_lowerFrom {before cs : List Char}
    (hcs : ∀ c ∈ cs, isSeparator c = false) : ∀ d ∈ lowerFrom before cs, isSeparator d = false := by
  have hnone : (lowerFrom before cs).filter isSeparator = [] := by
    rw [filter_lowerFrom fun _ => id, List.filter_eq_nil_iff]
    simpa using hcs
  simpa using List.filter_eq_nil_iff.1 hnone

/-! ### Words -/

/-- Lower case of an entry is an entry, whatever is around it. -/
theorem lowerFrom_field {field : List Char} (hfield : ∀ c ∈ field, isBlank c = false)
    (before rest : List Char) : ∃ lowered : List Char, (∀ c ∈ lowered, isBlank c = false) ∧
      (lowered = [] ↔ field = []) ∧
      lowerFrom before (field ++ rest) = lowered ++ lowerFrom (field.reverse ++ before) rest := by
  induction field generalizing before with
  | nil => exact ⟨[], nofun, Iff.rfl, rfl⟩
  | cons c field ih =>
      rw [List.forall_mem_cons] at hfield
      obtain ⟨lowered, hlowered, -, heq⟩ := ih hfield.2 (c :: before)
      refine ⟨lowerAt before c (field ++ rest) ++ lowered, ?_, ?_, ?_⟩
      · rw [List.forall_mem_append]
        refine ⟨fun d hd => ?_, hlowered⟩
        rw [eq_of_mem_lowerAt isSeparator_of_isBlank hd, hfield.1]
      · simp [lowerAt_ne_nil]
      · rw [List.cons_append, lowerFrom, heq, List.append_assoc, List.reverse_cons, List.append_assoc,
          List.singleton_append]

theorem lowerFrom_gap {gap : List Char} (hgap : ∀ c ∈ gap, isBlank c = true)
    (before rest : List Char) :
    lowerFrom before (gap ++ rest) = gap ++ lowerFrom (gap.reverse ++ before) rest := by
  induction gap generalizing before with
  | nil => rfl
  | cons c gap ih =>
      rw [List.forall_mem_cons] at hgap
      rw [List.cons_append, lowerFrom, lowerAt_of_isSeparator (isSeparator_of_isBlank c hgap.1),
        ih hgap.2, List.reverse_cons, List.append_assoc, List.singleton_append, List.cons_append,
        List.singleton_append]

theorem length_wordsChars_field {field : List Char} (hfield : ∀ c ∈ field, isBlank c = false) :
    (wordsChars field).length = if field = [] then 0 else 1 := by
  rw [wordsChars, fieldsChars_eq_singleton hfield]
  cases field <;> rfl

/-- Lower case leaves a text as many words as it had. -/
theorem length_wordsChars_lowerFrom (before cs : List Char) :
    (wordsChars (lowerFrom before cs)).length = (wordsChars cs).length := by
  induction cs using cutInduction generalizing before with
  | field cs hcs =>
      obtain ⟨lowered, hlowered, hempty, heq⟩ := lowerFrom_field hcs before []
      rw [List.append_nil, lowerFrom, List.append_nil] at heq
      rw [heq, length_wordsChars_field hlowered, length_wordsChars_field hcs]
      simp only [hempty]
  | gap field gap rest hfield hne hgap hrest ih =>
      obtain ⟨lowered, hlowered, hempty, heq⟩ := lowerFrom_field hfield before (gap ++ rest)
      rw [heq, lowerFrom_gap hgap, wordsChars_append hlowered hne hgap, wordsChars_append hfield hne hgap,
        List.length_append, List.length_append, ih, length_wordsChars_field hlowered,
        length_wordsChars_field hfield]
      simp only [hempty]

end Jotter.Text
