import Mathlib.Tactic.MkIffOfInductiveProp
import Jotter.Calendar.Text
import Jotter.Proofs.Calendar.Moment
import Jotter.Proofs.Schedule.Reading

/-! Times of day as they are written. A text is read as a time of day iff it is written as one, on a dial of
twenty-four hours or in a half of the day, and no other form of an expression fits it. What a clock is shown
as is written so. -/

namespace Jotter

open Text

variable {text : String}

/-- A row of digits, of so many at least and at most, and the number that it writes. -/
@[mk_iff]
structure IsNumeral (fewest most : Nat) (digits : List Char) (number : Nat) : Prop where
  fewest_le : fewest ≤ digits.length
  le_most : digits.length ≤ most
  isDigit : ∀ c ∈ digits, isDigit c = true
  value_eq : decimalValue digits = number

/-- At most one blank. -/
def IsGap (gap : List Char) : Prop :=
  gap.length ≤ 1 ∧ ∀ c ∈ gap, isBlank c = true

namespace Meridiem

def letters : Meridiem → List Char
  | am => ['a', 'm']
  | pm => ['p', 'm']

/-- The hour of the day with which a half begins; there it is twelve. -/
def start : Meridiem → Nat
  | am => 0
  | pm => 12

/-- An hour of the day by its number in a half of the day. -/
structure Tells (half : Meridiem) (number : Nat) (hour : Fin 24) : Prop where
  one_le : 1 ≤ number
  le_twelve : number ≤ 12
  hour_eq : hour.val = half.start + number % 12

theorem hour_eq (half : Meridiem) {number : Nat} (hone : 1 ≤ number) (htwelve : number ≤ 12) :
    half.hour number = half.start + number % 12 := by
  cases half with
  | am =>
      rw [hour, start]
      split <;> omega
  | pm =>
      rw [hour, start]
      split <;> omega

theorem ofChars?_eq_some_iff {cs : List Char} {half : Meridiem} :
    ofChars? cs = some half ↔ cs = half.letters := by
  rw [ofChars?]
  constructor
  · intro hread
    split at hread
    · obtain rfl := Option.some.inj hread
      assumption
    · split at hread
      · obtain rfl := Option.some.inj hread
        assumption
      · cases hread
  · rintro rfl
    cases half <;> decide

theorem afterBlank?_eq_some_iff {cs : List Char} {half : Meridiem} :
    afterBlank? cs = some half ↔ ∃ gap, IsGap gap ∧ cs = gap ++ half.letters := by
  constructor
  · intro hread
    cases cs with
    | nil => cases hread
    | cons c rest =>
        rw [afterBlank?] at hread
        split at hread
        · rename_i hc
          refine ⟨[c], ⟨Nat.le_refl 1, by simpa using hc⟩, ?_⟩
          rw [ofChars?_eq_some_iff.1 hread, List.singleton_append]
        · exact ⟨[], ⟨Nat.zero_le 1, nofun⟩, ofChars?_eq_some_iff.1 hread⟩
  · rintro ⟨gap, ⟨hlength, hgap⟩, rfl⟩
    match gap with
    | [] => cases half <;> decide
    | [c] =>
        rw [List.singleton_append, afterBlank?, if_pos (hgap c List.mem_cons_self),
          ofChars?_eq_some_iff]
    | _ :: _ :: _ => exact absurd hlength (by simp)

end Meridiem

namespace ClockTime

variable {time : ClockTime}

theorem ofNumbers?_eq_some_iff {hour minute : Nat} :
    ofNumbers? hour minute = some time ↔ time.hour.val = hour ∧ time.minute.val = minute := by
  rw [ofNumbers?]
  constructor
  · intro hread
    split at hread
    · obtain rfl := Option.some.inj hread
      exact ⟨rfl, rfl⟩
    · cases hread
  · rintro ⟨rfl, rfl⟩
    rw [dif_pos ⟨time.hour.isLt, time.minute.isLt⟩]

theorem onDial?_eq_some_iff {half : Meridiem} {number minute : Nat} :
    onDial? number minute (some half) = some time ↔
      half.Tells number time.hour ∧ time.minute.val = minute := by
  rw [onDial?]
  constructor
  · intro hread
    split at hread
    · rename_i hdial
      obtain ⟨hhour, hminute⟩ := ofNumbers?_eq_some_iff.1 hread
      exact ⟨⟨hdial.1, hdial.2, hhour.trans (half.hour_eq hdial.1 hdial.2)⟩, hminute⟩
    · cases hread
  · rintro ⟨⟨hone, htwelve, hhour⟩, hminute⟩
    rw [if_pos ⟨hone, htwelve⟩, ofNumbers?_eq_some_iff]
    exact ⟨hhour.trans (half.hour_eq hone htwelve).symm, hminute⟩

/-- What stands behind the hour: a colon and the minutes on a dial of twenty-four hours; else the half of
the day, with or without minutes before it and with at most one blank. -/
inductive BehindHour (time : ClockTime) (hour : Nat) : List Char → Prop
  | minutes {digits : List Char} : time.hour.val = hour → IsNumeral 2 2 digits time.minute →
      BehindHour time hour (':' :: digits)
  | minutesAndHalf {digits gap : List Char} {half : Meridiem} : half.Tells hour time.hour →
      IsNumeral 2 2 digits time.minute → IsGap gap →
        BehindHour time hour (':' :: (digits ++ (gap ++ half.letters)))
  | half {gap : List Char} {half : Meridiem} : half.Tells hour time.hour → time.minute.val = 0 →
      IsGap gap → BehindHour time hour (gap ++ half.letters)

/-- The writing of a time of day: an hour of one or two digits and what stands behind it. -/
def Written (time : ClockTime) (cs : List Char) : Prop :=
  ∃ digits hour rest, IsNumeral 1 2 digits hour ∧ BehindHour time hour rest ∧ cs = digits ++ rest

theorem readAfterHour_of_no_colon {hour : Nat} {rest : List Char} (hrest : rest.head? ≠ some ':') :
    readAfterHour hour rest =
      (Meridiem.afterBlank? rest).bind fun half => onDial? hour 0 (some half) := by
  rw [readAfterHour.eq_def]
  split
  · exact absurd rfl hrest
  · rfl

theorem isNumeral_two_iff {digits : List Char} {number : Nat} : IsNumeral 2 2 digits number ↔
    ∃ tens ones, digits = [tens, ones] ∧ (isDigit tens && isDigit ones) = true ∧
      decimalValue [tens, ones] = number := by
  constructor
  · rintro ⟨hfewest, hmost, hdigits, hvalue⟩
    obtain ⟨tens, ones, rfl⟩ := List.length_eq_two.1 (Nat.le_antisymm hmost hfewest)
    exact ⟨tens, ones, rfl, by simpa using hdigits, hvalue⟩
  · rintro ⟨tens, ones, rfl, hdigits, hvalue⟩
    exact ⟨Nat.le_refl 2, Nat.le_refl 2, by simpa using hdigits, hvalue⟩

theorem half_of_bind {hour minute : Nat} {rest : List Char}
    (hread : ((Meridiem.afterBlank? rest).bind fun half => onDial? hour minute (some half)) = some time) :
    ∃ half gap, IsGap gap ∧ rest = gap ++ Meridiem.letters half ∧ half.Tells hour time.hour ∧
      time.minute.val = minute := by
  obtain ⟨half, hhalf, hdial⟩ := Option.bind_eq_some_iff.1 hread
  obtain ⟨gap, hgap, hrest⟩ := Meridiem.afterBlank?_eq_some_iff.1 hhalf
  obtain ⟨htells, hminute⟩ := onDial?_eq_some_iff.1 hdial
  exact ⟨half, gap, hgap, hrest, htells, hminute⟩

theorem bind_of_half {hour minute : Nat} {gap : List Char} {half : Meridiem}
    (hgap : IsGap gap) (htells : half.Tells hour time.hour) (hminute : time.minute.val = minute) :
    ((Meridiem.afterBlank? (gap ++ half.letters)).bind fun half => onDial? hour minute (some half)) =
      some time :=
  Option.bind_eq_some_iff.2 ⟨half, Meridiem.afterBlank?_eq_some_iff.2 ⟨gap, hgap, rfl⟩,
    onDial?_eq_some_iff.2 ⟨htells, hminute⟩⟩

/-- Where the half of the day begins there is no digit and no colon. -/
theorem gap_letters_spec {gap : List Char} (hgap : IsGap gap) (half : Meridiem) :
    startsWithDigit (gap ++ half.letters) = false ∧ (gap ++ half.letters).head? ≠ some ':' := by
  cases gap with
  | nil => cases half <;> decide
  | cons c gap =>
      have hblank := hgap.2 c List.mem_cons_self
      constructor
      · refine Bool.eq_false_iff.2 fun hdigit => ?_
        rw [isBlank_of_isDigit hdigit] at hblank
        cases hblank
      · rintro ⟨⟩
        exact absurd hblank (by decide)

theorem readAfterHour_eq_some_iff {hour : Nat} {rest : List Char} :
    readAfterHour hour rest = some time ↔ BehindHour time hour rest := by
  constructor
  · intro hread
    rw [readAfterHour.eq_def] at hread
    split at hread
    · rename_i tens ones rest
      split at hread
      · rename_i hdigits
        split at hread
        · obtain ⟨hhour, hminute⟩ := ofNumbers?_eq_some_iff.1 hread
          exact .minutes hhour (isNumeral_two_iff.2 ⟨tens, ones, rfl, hdigits, hminute.symm⟩)
        · obtain ⟨half, gap, hgap, rfl, htells, hminute⟩ := half_of_bind hread
          exact .minutesAndHalf htells (isNumeral_two_iff.2 ⟨tens, ones, rfl, hdigits, hminute.symm⟩) hgap
      · cases hread
    · obtain ⟨half, gap, hgap, rfl, htells, hminute⟩ := half_of_bind hread
      exact .half htells hminute hgap
  · rintro (⟨hhour, hminute⟩ | ⟨htells, hminute, hgap⟩ | ⟨htells, hminute, hgap⟩)
    · obtain ⟨tens, ones, rfl, hdigits, hvalue⟩ := isNumeral_two_iff.1 hminute
      rw [readAfterHour, if_pos hdigits]
      exact ofNumbers?_eq_some_iff.2 ⟨hhour, hvalue.symm⟩
    · rename_i gap half
      obtain ⟨tens, ones, rfl, hdigits, hvalue⟩ := isNumeral_two_iff.1 hminute
      rw [List.cons_append, List.cons_append, List.nil_append, readAfterHour, if_pos hdigits]
      have hhalf := bind_of_half hgap htells hvalue.symm
      split
      · rename_i hnothing
        cases half <;> exact absurd (List.append_eq_nil_iff.1 hnothing).2 (List.cons_ne_nil _ _)
      · exact hhalf
    · rw [readAfterHour_of_no_colon (gap_letters_spec hgap _).2]
      exact bind_of_half hgap htells hminute

/-! ### Reading -/

theorem BehindHour.not_startsWithDigit {hour : Nat} {rest : List Char}
    (hrest : BehindHour time hour rest) : startsWithDigit rest = false := by
  cases hrest with
  | minutes hhour hminute =>
      rw [startsWithDigit_cons]
      decide
  | minutesAndHalf htells hminute hgap =>
      rw [startsWithDigit_cons]
      decide
  | half htells hminute hgap => exact (gap_letters_spec hgap _).1

theorem BehindHour.two_le_length {hour : Nat} {rest : List Char} (hrest : BehindHour time hour rest) :
    2 ≤ rest.length := by
  have hletters : ∀ half : Meridiem, half.letters.length = 2 := fun half => by cases half <;> rfl
  cases hrest with
  | minutes hhour hminute => exact Nat.le_succ_of_le hminute.fewest_le
  | minutesAndHalf htells hminute hgap =>
      rw [List.length_cons, List.length_append, List.length_append, hletters]
      omega
  | half htells hminute hgap =>
      rw [List.length_append, hletters]
      omega

/-- A text is read as a time of day iff it is written as one. -/
theorem readClock_eq_some_iff : readClock text = some time ↔ time.Written (expressionChars text) := by
  rw [readClock]
  generalize expressionChars text = cs
  constructor
  · intro hread
    split at hread
    · rename_i hlength
      refine ⟨cs.takeWhile isDigit, _, cs.dropWhile isDigit,
        ⟨hlength.1, hlength.2, fun c hc => List.mem_takeWhile_imp hc, rfl⟩,
        readAfterHour_eq_some_iff.1 hread, List.takeWhile_append_dropWhile.symm⟩
    · cases hread
  · rintro ⟨digits, hour, rest, ⟨hfewest, hmost, hdigits, rfl⟩, hrest, rfl⟩
    obtain ⟨hbegin, hend⟩ := span_isDigit hdigits hrest.not_startsWithDigit
    rw [hbegin, hend, if_pos ⟨hfewest, hmost⟩]
    exact readAfterHour_eq_some_iff.2 hrest

/-- What is written as a time of day has more behind its digits than the letter of a unit. -/
theorem readDistance_of_written (hwritten : time.Written (expressionChars text)) :
    readDistance text = .ok none := by
  obtain ⟨digits, hour, rest, ⟨-, -, hdigits, -⟩, hrest, hchars⟩ := hwritten
  rcases letterForm_or_readDistance_eq_none text with ⟨others, unit, hform⟩ | hnone
  · obtain ⟨-, hothers, letter, hletter, hsame⟩ := hform
    have hend := (span_isDigit hdigits hrest.not_startsWithDigit).2
    rw [← hchars, hsame, (span_isDigit hothers (ofLetter?_eq_some hletter).1).2] at hend
    have htwo := hrest.two_le_length
    rw [← hend] at htwo
    exact absurd htwo (Nat.not_succ_le_self 1)
  · exact hnone

theorem readNatural_of_written (hwritten : time.Written (expressionChars text)) :
    readNatural text = .ok none := by
  obtain ⟨digits, hour, rest, ⟨hfewest, -, hdigits, -⟩, hrest, hchars⟩ := hwritten
  obtain ⟨digit, others, rfl⟩ := List.exists_cons_of_length_pos hfewest
  exact readNatural_eq_none hchars (hdigits digit List.mem_cons_self)

/-- What is written as a time of day is neither a distance nor a natural date. -/
theorem read_of_written (hwritten : time.Written (expressionChars text)) :
    TimeExpression.read text = .ok (some (.clock time)) := by
  rw [read_of_readDistance (readDistance_of_written hwritten), readNatural_of_written hwritten,
    readClock_eq_some_iff.2 hwritten]
  rfl

end ClockTime

/-! ### What a clock is shown as -/

instance (fewest most : Nat) (digits : List Char) (number : Nat) :
    Decidable (IsNumeral fewest most digits number) :=
  decidable_of_iff (fewest ≤ digits.length ∧ digits.length ≤ most ∧ digits.all isDigit = true ∧
    decimalValue digits = number) (by rw [isNumeral_iff, List.all_eq_true])

/-- A character of ASCII that is its own lower case. -/
def isPlain (c : Char) : Bool :=
  c.toNat < 128 && c.toLower == c

theorem isNumeral_toString : ∀ number : Fin 13, IsNumeral 1 2 (toString number.val).toList number ∧
    (toString number.val).toList.all isPlain = true := by
  decide +kernel

theorem isNumeral_twoDigits : ∀ number : Fin 60, IsNumeral 2 2 (twoDigits number).toList number ∧
    (twoDigits number).toList.all isPlain = true := by
  decide +kernel

theorem ascii_of_isPlain {cs : List Char} (hcs : cs.all isPlain = true) :
    (∀ c ∈ cs, c.toNat < 128) ∧ cs.map Char.toLower = cs := by
  simp only [List.all_eq_true, isPlain, Bool.and_eq_true, decide_eq_true_eq, beq_iff_eq] at hcs
  exact ⟨fun c hc => (hcs c hc).1, (List.map_congr_left fun c hc => (hcs c hc).2).trans (List.map_id' cs)⟩

namespace Moment

/-- What a clock shows, but for the seconds. -/
def clockTime (m : Moment) : ClockTime :=
  ⟨⟨m.hour, m.hour_lt⟩, ⟨m.minute, m.minute_lt⟩⟩

/-- The half of its day that a moment belongs to. -/
def half (m : Moment) : Meridiem :=
  if m.hour < 12 then .am else .pm

/-- The number of the hour in its half of the day. -/
def dialHour (m : Moment) : Fin 13 :=
  ⟨if m.hour % 12 = 0 then 12 else m.hour % 12, by split <;> omega⟩

theorem half_tells (m : Moment) : m.half.Tells m.dialHour m.clockTime.hour := by
  have hhour := m.hour_lt
  refine ⟨?_, Nat.le_of_lt_succ m.dialHour.isLt, ?_⟩
  · rw [dialHour]
    dsimp only
    split <;> omega
  · rw [half, dialHour, clockTime]
    split <;> simp only [Meridiem.start] <;> split <;> omega

/-- The characters of the half of the day as it is shown. -/
def halfText (m : Moment) : List Char :=
  ' ' :: m.half.letters.map Char.toUpper

theorem toList_clockText (m : Moment) : m.clockText.toList =
    (toString m.dialHour.val).toList ++ ':' :: ((twoDigits m.minute).toList ++ m.halfText) := by
  have hhalf : (if m.hour < 12 then " AM" else " PM").toList = m.halfText := by
    rw [halfText, half]
    split <;> rfl
  rw [clockText, String.toList_append, String.toList_append, String.toList_append, hhalf, List.append_assoc,
    List.append_assoc]
  rfl

theorem halfText_spec (m : Moment) : (m.halfText.all fun c => c.toNat < 128) = true ∧
    (∃ lead last, m.halfText = lead ++ [last] ∧ isBlank last = false) ∧
      m.halfText.map Char.toLower = ' ' :: m.half.letters := by
  rw [halfText]
  cases m.half with
  | am => exact ⟨by decide, ⟨[' ', 'A'], 'M', rfl, by decide⟩, by decide⟩
  | pm => exact ⟨by decide, ⟨[' ', 'P'], 'M', rfl, by decide⟩, by decide⟩

/-- A clock is shown in ASCII, with no white space at the ends. -/
theorem ends_clockText (m : Moment) : (∀ c ∈ m.clockText.toList, c.toNat < 128) ∧
    trimChars m.clockText.toList = m.clockText.toList := by
  obtain ⟨hhour, hhourChars⟩ := isNumeral_toString m.dialHour
  obtain ⟨-, hminuteChars⟩ := isNumeral_twoDigits ⟨m.minute, m.minute_lt⟩
  obtain ⟨hhalfChars, ⟨lead, last, hlast, hblank⟩, -⟩ := m.halfText_spec
  rw [toList_clockText]
  refine ⟨?_, trimChars_eq_self ?_ ?_⟩
  · rw [List.forall_mem_append, List.forall_mem_cons, List.forall_mem_append]
    exact ⟨(ascii_of_isPlain hhourChars).1, by decide, (ascii_of_isPlain hminuteChars).1,
      by simpa using hhalfChars⟩
  · obtain ⟨digit, digits, hdigits⟩ := List.exists_cons_of_length_pos hhour.fewest_le
    rw [hdigits]
    rintro _ ⟨⟩
    exact isBlank_of_isDigit (hhour.isDigit digit (by rw [hdigits]; exact List.mem_cons_self))
  · rw [hlast, ← List.append_assoc, ← List.cons_append, ← List.append_assoc, List.getLast?_concat]
    rintro _ ⟨⟩
    exact hblank

/-- The time of day that a clock is shown as is written as one. -/
theorem written_clockText (m : Moment) : m.clockTime.Written (expressionChars m.clockText) := by
  obtain ⟨hhour, hhourChars⟩ := isNumeral_toString m.dialHour
  obtain ⟨hminute, hminuteChars⟩ := isNumeral_twoDigits ⟨m.minute, m.minute_lt⟩
  obtain ⟨hascii, htrim⟩ := m.ends_clockText
  have hgap : IsGap [' '] := ⟨Nat.le_refl 1, List.forall_mem_singleton.2 (by decide)⟩
  refine ⟨_, m.dialHour, _, hhour, .minutesAndHalf m.half_tells hminute hgap, ?_⟩
  rw [expressionChars, htrim, lowerChars, lowerFrom_of_ascii hascii, toList_clockText, List.map_append,
    List.map_cons, List.map_append, (ascii_of_isPlain hhourChars).2, (ascii_of_isPlain hminuteChars).2,
    m.halfText_spec.2.2]
  rfl

end Moment

end Jotter
