import Jotter.Proofs.Text.Separator
import Jotter.Text.Digit

/-! Digits. No digit of any script is white space, and the digits at the beginning of a text are told from
what stands behind them. -/

namespace Jotter.Text

/-- No script has a separator among its digits. -/
theorem digits_apart : ∀ low ∈ zeros, ∀ range ∈ separatorRanges,
    low + 9 < range.1 ∨ range.2 < low := by
  decide +kernel

theorem exists_low_of_isDigit {c : Char} (hc : isDigit c = true) :
    ∃ low ∈ zeros, low ≤ c.toNat ∧ c.toNat ≤ low + 9 := by
  rw [isDigit, digitValue?, Option.isSome_map, List.find?_isSome] at hc
  obtain ⟨low, hlow, hrange⟩ := hc
  rw [Bool.and_eq_true, decide_eq_true_eq, decide_eq_true_eq] at hrange
  exact ⟨low, hlow, hrange.1, Nat.le_of_lt_succ hrange.2⟩

theorem isBlank_of_isDigit {c : Char} (hc : isDigit c = true) : isBlank c = false := by
  obtain ⟨low, hlow, hbegins, hends⟩ := exists_low_of_isDigit hc
  refine Bool.eq_false_iff.2 fun hblank => ?_
  obtain ⟨range, hrange, hfirst, hlast⟩ := inRanges_eq_true_iff.1 (isSeparator_of_isBlank c hblank)
  have hapart := digits_apart low hlow range hrange
  omega

/-- Whether a text begins with a digit. -/
def startsWithDigit (cs : List Char) : Bool :=
  cs.head?.any isDigit

@[simp]
theorem startsWithDigit_cons (c : Char) (cs : List Char) : startsWithDigit (c :: cs) = isDigit c :=
  rfl

/-- A row of digits up to a character that is none. -/
theorem span_isDigit {digits rest : List Char} (hdigits : ∀ c ∈ digits, isDigit c = true)
    (hrest : startsWithDigit rest = false) :
    (digits ++ rest).takeWhile isDigit = digits ∧ (digits ++ rest).dropWhile isDigit = rest := by
  rw [List.takeWhile_append_of_pos hdigits, List.dropWhile_append_of_pos hdigits]
  cases rest with
  | nil => exact ⟨List.append_nil digits, rfl⟩
  | cons c rest =>
      have hc : ¬ isDigit c = true := by simpa using hrest
      rw [List.takeWhile_cons_of_neg hc, List.dropWhile_cons_of_neg hc]
      exact ⟨List.append_nil digits, rfl⟩

end Jotter.Text
