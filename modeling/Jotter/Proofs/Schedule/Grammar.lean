import Jotter.Proofs.Schedule.Dial
import Jotter.Proofs.Schedule.Overflow

/-! Which texts are time expressions. The distance, the natural date and the clock time are read by three
readers that never fit the same text, so that it does not matter in which order they are asked. Together they
fit the texts of one grammar, and the clock has no part in it. -/

namespace Jotter

open Text

/-- The readers of the three kinds of expressions. -/
inductive TimeReader where
  | distance
  | natural
  | clock
  deriving DecidableEq

namespace TimeReader

/-- The readers in the order in which they are asked. -/
def all : List TimeReader :=
  [distance, natural, clock]

def read (reader : TimeReader) (text : String) : Except Failure (Option TimeExpression) :=
  match reader with
  | distance => (readDistance text).map (Option.map .distance)
  | natural => (readNatural text).map (Option.map .natural)
  | clock => .ok ((readClock text).map .clock)

/-- The moment that a text means to a reader, if it fits. -/
def due (reader : TimeReader) (text : String) (now : Moment) : Except Failure (Option Moment) := do
  match ← reader.read text with
  | some expression => return some (← expression.resolve now)
  | none => return none

/-- The moment that a text means to the first reader that it fits. -/
def firstDue (text : String) (now : Moment) : List TimeReader → Except Failure (Option Moment)
  | [] => .ok none
  | reader :: others => do
    match ← reader.due text now with
    | some moment => return some moment
    | none => firstDue text now others

variable {text : String} {now : Moment} {reader other : TimeReader}

/-! ### One reader at a time -/

theorem map_some_ne_none {α β : Type} (f : α → β) (came : Except Failure α) :
    came.map (fun a => some (f a)) ≠ .ok none := by
  cases came with
  | error failure => exact nofun
  | ok a => exact nofun

theorem map_map_eq_none_iff {α β : Type} {came : Except Failure (Option α)} {f : α → β} :
    came.map (Option.map f) = .ok none ↔ came = .ok none := by
  rcases came with failure | _ | a
  · exact ⟨nofun, nofun⟩
  · exact ⟨fun _ => rfl, fun _ => rfl⟩
  · exact ⟨nofun, nofun⟩

/-- A reader that a text fits comes to a moment or fails, on any clock. -/
theorem due_eq_none_iff : reader.due text now = .ok none ↔ reader.read text = .ok none := by
  rw [due]
  rcases reader.read text with failure | _ | expression
  · exact ⟨nofun, nofun⟩
  · exact ⟨fun _ => rfl, fun _ => rfl⟩
  · have hsome : (do return some (← expression.resolve now) : Except Failure (Option Moment)) =
        (expression.resolve now).map some := by
      cases expression.resolve now <;> rfl
    exact ⟨fun hnone => absurd (hsome.symm.trans hnone) (map_some_ne_none id _), nofun⟩

theorem readClock_eq_none_or (text : String) :
    readClock text = none ∨ readDistance text = .ok none ∧ readNatural text = .ok none := by
  cases hclock : readClock text with
  | none => exact .inl rfl
  | some time =>
      have hwritten := ClockTime.readClock_eq_some_iff.1 hclock
      exact .inr ⟨ClockTime.readDistance_of_written hwritten, ClockTime.readNatural_of_written hwritten⟩

theorem readDistance_eq_none_or (text : String) :
    readDistance text = .ok none ∨ readNatural text = .ok none := by
  rcases letterForm_or_readDistance_eq_none text with ⟨digits, unit, hne, hdigits, letter, -, hchars⟩ | hnone
  · obtain ⟨digit, digits, rfl⟩ := List.exists_cons_of_ne_nil hne
    exact .inr (readNatural_eq_none hchars (hdigits digit List.mem_cons_self))
  · exact .inl hnone

/-- No text fits two readers. -/
theorem read_apart (hne : reader ≠ other) : reader.read text = .ok none ∨ other.read text = .ok none := by
  have hdates : distance.read text = .ok none ∨ natural.read text = .ok none := by
    simpa only [read, map_map_eq_none_iff] using readDistance_eq_none_or text
  have hdial : clock.read text = .ok none ∨
      distance.read text = .ok none ∧ natural.read text = .ok none := by
    simpa only [read, map_map_eq_none_iff, Except.ok.injEq, Option.map_eq_none_iff] using
      readClock_eq_none_or text
  match reader, other with
  | distance, distance | natural, natural | clock, clock => exact absurd rfl hne
  | distance, natural => exact hdates
  | natural, distance => exact hdates.symm
  | clock, distance => exact hdial.imp_right And.left
  | distance, clock => exact (hdial.imp_right And.left).symm
  | clock, natural => exact hdial.imp_right And.right
  | natural, clock => exact (hdial.imp_right And.right).symm

/-! ### Any order -/

theorem firstDue_cons_of_none (hnone : reader.due text now = .ok none) (others : List TimeReader) :
    firstDue text now (reader :: others) = firstDue text now others := by
  rw [firstDue, hnone]
  rfl

theorem firstDue_cons_of_ne_none (hne : reader.due text now ≠ .ok none) (others : List TimeReader) :
    firstDue text now (reader :: others) = reader.due text now := by
  rw [firstDue]
  rcases hdue : reader.due text now with failure | _ | moment
  · rfl
  · exact absurd hdue hne
  · rfl

theorem firstDue_congr {others same : List TimeReader}
    (hothers : firstDue text now others = firstDue text now same) (reader : TimeReader) :
    firstDue text now (reader :: others) = firstDue text now (reader :: same) := by
  rw [firstDue, firstDue, hothers]

theorem firstDue_swap (reader other : TimeReader) (others : List TimeReader) :
    firstDue text now (other :: reader :: others) = firstDue text now (reader :: other :: others) := by
  by_cases hsame : reader = other
  · rw [hsame]
  have happly : ∀ {reader other : TimeReader}, reader.due text now = .ok none →
      firstDue text now (other :: reader :: others) = firstDue text now (reader :: other :: others) := by
    intro reader other hnone
    rw [firstDue_cons_of_none hnone]
    exact firstDue_congr (firstDue_cons_of_none hnone others) other
  have hapart : reader.read text = .ok none ∨ other.read text = .ok none := read_apart hsame
  rcases hapart with hnone | hnone
  · exact happly (due_eq_none_iff.2 hnone)
  · exact (happly (due_eq_none_iff.2 hnone)).symm

/-- The order in which the readers are asked does not matter. -/
theorem firstDue_perm {order other : List TimeReader} (hperm : order.Perm other) :
    firstDue text now order = firstDue text now other := by
  induction hperm with
  | nil => rfl
  | cons reader _ ih => exact firstDue_congr ih reader
  | swap reader other others => exact firstDue_swap reader other others
  | trans _ _ ihfirst ihlast => exact ihfirst.trans ihlast

/-- A text is read as what the reader that it fits makes of it. -/
theorem read_eq_of_ne_none (hne : reader.read text ≠ .ok none) :
    TimeExpression.read text = reader.read text := by
  have hother : ∀ other, other ≠ reader → other.read text = .ok none :=
    fun other hother => (read_apart hother).resolve_right hne
  cases reader with
  | distance =>
      rw [read, ne_eq, map_map_eq_none_iff] at hne
      rw [read, TimeExpression.read]
      rcases hread : readDistance text with failure | _ | seconds
      · rfl
      · exact absurd hread hne
      · rfl
  | natural =>
      have hdistance := map_map_eq_none_iff.1 (hother distance (by decide))
      rw [read, ne_eq, map_map_eq_none_iff] at hne
      rw [read, read_of_readDistance hdistance]
      rcases hread : readNatural text with failure | _ | date
      · rfl
      · exact absurd hread hne
      · rfl
  | clock =>
      have hdistance := map_map_eq_none_iff.1 (hother distance (by decide))
      have hnatural := map_map_eq_none_iff.1 (hother natural (by decide))
      rw [read_of_readDistance hdistance, hnatural]
      rfl

theorem dueTime_eq_due (hne : reader.read text ≠ .ok none) (now : Moment) :
    dueTime text now = reader.due text now := by
  rw [due, ← read_eq_of_ne_none hne]
  rfl

/-- There is no due time iff no reader fits. -/
theorem dueTime_eq_none_iff :
    dueTime text now = .ok none ↔ ∀ reader : TimeReader, reader.read text = .ok none := by
  constructor
  · intro hnone reader
    by_contra hne
    rw [dueTime_eq_due hne, due_eq_none_iff] at hnone
    exact hne hnone
  · intro hnone
    have hdistance := map_map_eq_none_iff.1 (hnone distance)
    have hnatural := map_map_eq_none_iff.1 (hnone natural)
    have hread : TimeExpression.read text = .ok none := by
      rw [read_of_readDistance hdistance, hnatural]
      exact hnone clock
    rw [dueTime, hread]
    rfl

theorem mem_all (reader : TimeReader) : reader ∈ all := by
  cases reader <;> decide

/-- Asked one after the other, the readers tell the due time. -/
theorem firstDue_all (text : String) (now : Moment) : firstDue text now all = dueTime text now := by
  by_cases hfits : ∃ reader : TimeReader, reader.read text ≠ .ok none
  · obtain ⟨reader, hne⟩ := hfits
    rw [dueTime_eq_due hne, firstDue_perm (List.perm_cons_erase (mem_all reader)),
      firstDue_cons_of_ne_none (mt due_eq_none_iff.1 hne)]
  · have hnone : ∀ reader : TimeReader, reader.read text = .ok none := by simpa using hfits
    have hdue : ∀ reader : TimeReader, reader.due text now = .ok none :=
      fun reader => due_eq_none_iff.2 (hnone reader)
    rw [dueTime_eq_none_iff.2 hnone, all, firstDue_cons_of_none (hdue _), firstDue_cons_of_none (hdue _),
      firstDue_cons_of_none (hdue _), firstDue]

end TimeReader

/-! ### The grammar -/

def weekdayWords : List String :=
  ["monday", "tuesday", "wednesday", "thursday", "friday", "saturday", "sunday"]

def unitWords : List String :=
  ["second", "seconds", "minute", "minutes", "hour", "hours", "day", "days", "week", "weeks"]

/-- The texts that are time expressions, without margins and in lower case: digits and the letter of a unit;
a day by its word; the next week or month; a number of units behind `in`, with any white space between the
words; a time on a dial of twenty-four hours; a time on a dial of twelve hours in a half of the day, with or
without minutes, and with at most one blank before the half. -/
inductive TimeForm (text : String) : Prop where
  | distance {digits : List Char} {letter : Char} (hchars : expressionChars text = digits ++ [letter])
      (hne : digits ≠ []) (hdigits : ∀ c ∈ digits, isDigit c = true)
      (hletter : letter ∈ ['s', 'm', 'h', 'd'])
  | day {word : String} (hwords : expressionWords text = [word])
      (hword : word ∈ ["today", "tomorrow", "tonight"] ++ weekdayWords)
  | next {word : String} (hwords : expressionWords text = ["next", word]) (hword : word ∈ ["week", "month"])
  | count {number word : String} (hwords : expressionWords text = ["in", number, word])
      (hdigits : ∀ c ∈ number.toList, isDigit c = true) (hword : word ∈ unitWords)
  | dial {digits pair : List Char} {hour minute : Nat} (hchars : expressionChars text = digits ++ ':' :: pair)
      (hhour : IsNumeral 1 2 digits hour) (hminute : IsNumeral 2 2 pair minute) (hday : hour < 24)
      (hless : minute < 60)
  | half {digits minutes gap : List Char} {hour : Nat} {half : Meridiem}
      (hchars : expressionChars text = digits ++ (minutes ++ (gap ++ half.letters)))
      (hhour : IsNumeral 1 2 digits hour) (hone : 1 ≤ hour) (htwelve : hour ≤ 12)
      (hminutes : minutes = [] ∨
        ∃ pair minute, minutes = ':' :: pair ∧ IsNumeral 2 2 pair minute ∧ minute < 60)
      (hgap : IsGap gap)

variable {text : String}

/-! ### Distances -/

theorem ofLetter?_eq_none_iff {letter : Char} :
    TimeUnit.ofLetter? letter = none ↔ letter ∉ ['s', 'm', 'h', 'd'] := by
  rw [TimeUnit.ofLetter?.eq_def]
  split <;> simp_all

theorem readDistance_ne_none_iff : readDistance text ≠ .ok none ↔
    ∃ digits letter, expressionChars text = digits ++ [letter] ∧ digits ≠ [] ∧
      (∀ c ∈ digits, isDigit c = true) ∧ letter ∈ ['s', 'm', 'h', 'd'] := by
  constructor
  · intro hread
    obtain ⟨digits, unit, hne, hdigits, letter, hletter, hchars⟩ :=
      (letterForm_or_readDistance_eq_none text).resolve_right hread
    refine ⟨digits, letter, hchars, hne, hdigits, ?_⟩
    by_contra hother
    rw [ofLetter?_eq_none_iff.2 hother] at hletter
    cases hletter
  · rintro ⟨digits, letter, hchars, hne, hdigits, hletter⟩
    obtain ⟨unit, hunit⟩ := Option.ne_none_iff_exists'.1 (mt ofLetter?_eq_none_iff.1 (not_not.2 hletter))
    rw [readDistance_of_letterForm ⟨hne, hdigits, letter, hunit, hchars⟩]
    exact TimeReader.map_some_ne_none id _

/-! ### Natural dates -/

theorem weekday_ofWord?_eq_none_iff {word : String} :
    Weekday.ofWord? word.toList = none ↔ word ∉ weekdayWords := by
  have hnames : weekdayWords = Weekday.all.map fun day => lower day.name := by decide
  have hlower : ∀ day : Weekday, day.name.toList.map Char.toLower = (lower day.name).toList := by
    intro day
    cases day <;> decide
  rw [Weekday.ofWord?, List.find?_eq_none, hnames, List.mem_map, not_exists]
  simp only [hlower, beq_iff_eq, String.toList_inj, not_and]

theorem timeUnit_ofWord?_eq_none_iff {word : String} :
    TimeUnit.ofWord? word.toList = none ↔ word ∉ unitWords := by
  simp only [TimeUnit.ofWord?, String.toList_inj, unitWords, List.mem_cons, List.not_mem_nil, or_false]
  grind

theorem readNatural_word_ne_none_iff {word : String} (hwords : expressionWords text = [word]) :
    readNatural text ≠ .ok none ↔ word ∈ ["today", "tomorrow", "tonight"] ++ weekdayWords := by
  have hday : Weekday.ofWord? word.toList = none ↔ word ∉ weekdayWords := weekday_ofWord?_eq_none_iff
  rw [readNatural, wordsChars_expressionChars, hwords]
  simp only [List.map_cons, List.map_nil, String.toList_inj]
  split_ifs <;> simp_all

theorem readNatural_two_ne_none_iff {first second : String}
    (hwords : expressionWords text = [first, second]) :
    readNatural text ≠ .ok none ↔ first = "next" ∧ second ∈ ["week", "month"] := by
  rw [readNatural, wordsChars_expressionChars, hwords]
  simp only [List.map_cons, List.map_nil, String.toList_inj]
  split_ifs <;> simp_all

theorem readNatural_three_ne_none_iff {first number unit : String}
    (hwords : expressionWords text = [first, number, unit]) :
    readNatural text ≠ .ok none ↔
      first = "in" ∧ (∀ c ∈ number.toList, isDigit c = true) ∧ unit ∈ unitWords := by
  rw [readNatural, wordsChars_expressionChars, hwords]
  simp only [List.map_cons, List.map_nil, String.toList_inj, Bool.and_eq_true, decide_eq_true_eq,
    List.all_eq_true]
  rw [← and_assoc]
  split
  · rename_i hcount
    rw [and_iff_right hcount]
    cases hunit : TimeUnit.ofWord? unit.toList with
    | none =>
        have hword := timeUnit_ofWord?_eq_none_iff.1 hunit
        exact ⟨fun hne => absurd rfl hne, fun hother => absurd hother hword⟩
    | some own =>
        refine ⟨fun _ => ?_, fun _ => TimeReader.map_some_ne_none _ _⟩
        by_contra hother
        cases (timeUnit_ofWord?_eq_none_iff.2 hother).symm.trans hunit
  · rename_i hcount
    exact ⟨fun hne => absurd rfl hne, fun hall => absurd hall.1 hcount⟩

theorem timeForm_of_readNatural (hread : readNatural text ≠ .ok none) : TimeForm text := by
  match hwords : expressionWords text with
  | [] =>
      rw [readNatural, wordsChars_expressionChars, hwords] at hread
      exact absurd rfl hread
  | [word] => exact .day hwords ((readNatural_word_ne_none_iff hwords).1 hread)
  | [first, second] =>
      obtain ⟨rfl, hsecond⟩ := (readNatural_two_ne_none_iff hwords).1 hread
      exact .next hwords hsecond
  | [first, number, unit] =>
      obtain ⟨rfl, hdigits, hunit⟩ := (readNatural_three_ne_none_iff hwords).1 hread
      exact .count hwords hdigits hunit
  | _ :: _ :: _ :: _ :: _ =>
      rw [readNatural, wordsChars_expressionChars, hwords] at hread
      exact absurd rfl hread

/-! ### Clock times -/

theorem timeForm_of_written {time : ClockTime} (hwritten : time.Written (expressionChars text)) :
    TimeForm text := by
  obtain ⟨digits, hour, rest, hhour, hrest, hchars⟩ := hwritten
  cases hrest with
  | minutes hsame hminute =>
      exact .dial hchars hhour hminute (hsame ▸ time.hour.isLt) time.minute.isLt
  | @minutesAndHalf pair gap half htells hminute hgap =>
      have hwhole : expressionChars text = digits ++ ((':' :: pair) ++ (gap ++ half.letters)) := hchars
      exact .half hwhole hhour htells.one_le htells.le_twelve
        (.inr ⟨pair, _, rfl, hminute, time.minute.isLt⟩) hgap
  | @half gap half htells hminute hgap =>
      have hwhole : expressionChars text = digits ++ ([] ++ (gap ++ half.letters)) := hchars
      exact .half hwhole hhour htells.one_le htells.le_twelve (.inl rfl) hgap

theorem exists_tells {half : Meridiem} {hour : Nat} (hone : 1 ≤ hour) (htwelve : hour ≤ 12) :
    ∃ told, half.Tells hour told := by
  have hlt : half.start + hour % 12 < 24 := by
    cases half <;> rw [Meridiem.start] <;> omega
  exact ⟨⟨_, hlt⟩, hone, htwelve, rfl⟩

/-! ### All forms -/

theorem TimeForm.exists_reader (hform : TimeForm text) :
    ∃ reader : TimeReader, reader.read text ≠ .ok none := by
  have hdistance : readDistance text ≠ .ok none → ∃ reader : TimeReader, reader.read text ≠ .ok none :=
    fun hread => ⟨.distance, mt TimeReader.map_map_eq_none_iff.1 hread⟩
  have hnatural : readNatural text ≠ .ok none → ∃ reader : TimeReader, reader.read text ≠ .ok none :=
    fun hread => ⟨.natural, mt TimeReader.map_map_eq_none_iff.1 hread⟩
  have hclock : ∀ time : ClockTime, time.Written (expressionChars text) →
      ∃ reader : TimeReader, reader.read text ≠ .ok none := by
    intro time hwritten
    refine ⟨.clock, ?_⟩
    rw [TimeReader.read, ClockTime.readClock_eq_some_iff.2 hwritten]
    exact nofun
  cases hform with
  | distance hchars hne hdigits hletter =>
      exact hdistance (readDistance_ne_none_iff.2 ⟨_, _, hchars, hne, hdigits, hletter⟩)
  | day hwords hword => exact hnatural ((readNatural_word_ne_none_iff hwords).2 hword)
  | next hwords hword => exact hnatural ((readNatural_two_ne_none_iff hwords).2 ⟨rfl, hword⟩)
  | count hwords hdigits hword =>
      exact hnatural ((readNatural_three_ne_none_iff hwords).2 ⟨rfl, hdigits, hword⟩)
  | @dial _ _ hour minute hchars hhour hminute hday hless =>
      exact hclock ⟨⟨hour, hday⟩, ⟨minute, hless⟩⟩ ⟨_, _, _, hhour, .minutes rfl hminute, hchars⟩
  | half hchars hhour hone htwelve hminutes hgap =>
      obtain ⟨told, htells⟩ := exists_tells hone htwelve
      rcases hminutes with rfl | ⟨pair, minute, rfl, hminute, hless⟩
      · exact hclock ⟨told, 0⟩ ⟨_, _, _, hhour, .half htells rfl hgap, hchars⟩
      · exact hclock ⟨told, ⟨minute, hless⟩⟩ ⟨_, _, _, hhour, .minutesAndHalf htells hminute hgap, hchars⟩

theorem timeForm_of_read {reader : TimeReader} (hread : reader.read text ≠ .ok none) : TimeForm text := by
  cases reader with
  | distance =>
      rw [TimeReader.read, ne_eq, TimeReader.map_map_eq_none_iff] at hread
      obtain ⟨digits, letter, hchars, hne, hdigits, hletter⟩ := readDistance_ne_none_iff.1 hread
      exact .distance hchars hne hdigits hletter
  | natural =>
      rw [TimeReader.read, ne_eq, TimeReader.map_map_eq_none_iff] at hread
      exact timeForm_of_readNatural hread
  | clock =>
      cases hclock : readClock text with
      | none =>
          rw [TimeReader.read, hclock] at hread
          exact absurd rfl hread
      | some time => exact timeForm_of_written (ClockTime.readClock_eq_some_iff.1 hclock)

/-- The texts of the grammar are those that some reader fits. -/
theorem timeForm_iff : TimeForm text ↔ ∃ reader : TimeReader, reader.read text ≠ .ok none := by
  constructor
  · exact TimeForm.exists_reader
  · rintro ⟨reader, hread⟩
    exact timeForm_of_read hread

/-- A text has a due time, or fails to be worked out, iff it is a time expression. -/
theorem dueTime_eq_none_iff {now : Moment} : dueTime text now = .ok none ↔ ¬ TimeForm text := by
  rw [TimeReader.dueTime_eq_none_iff, timeForm_iff, not_exists]
  exact forall_congr' fun reader => not_not.symm

end Jotter
