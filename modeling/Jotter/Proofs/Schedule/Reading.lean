import Jotter.Schedule.Resolution
import Jotter.Proofs.Text.Digit

/-! How an expression is read. A distance has no white space in it and begins with a digit; a natural date
is read by its words; so at most one of the forms fits a text, and what fits is what is read. -/

namespace Jotter

open Text

section Except

variable {α β : Type} {came : Except Failure α} {b : β}

theorem exists_of_bind_eq_ok {next : α → Except Failure β} (hboth : (came >>= next) = .ok b) :
    ∃ a, came = .ok a ∧ next a = .ok b := by
  cases came with
  | error failure => cases hboth
  | ok a => exact ⟨a, rfl, hboth⟩

theorem exists_of_map_eq_ok {f : α → β} (hmap : came.map f = .ok b) : ∃ a, came = .ok a ∧ f a = b := by
  cases came with
  | error failure => cases hmap
  | ok a => exact ⟨a, rfl, Except.ok.inj hmap⟩

end Except

variable {text : String}

/-- The words of an expression as they are compared. -/
def expressionWords (text : String) : List String :=
  words (lower (trim text))

theorem wordsChars_expressionChars (text : String) :
    wordsChars (expressionChars text) = (expressionWords text).map String.toList := by
  rw [expressionWords, map_toList_words, toList_lower, toList_trim]
  rfl

/-! ### Numbers of units -/

/-- A numeral and the letter of a unit. -/
structure LetterForm (cs digits : List Char) (unit : TimeUnit) : Prop where
  ne_nil : digits ≠ []
  isDigit : ∀ c ∈ digits, isDigit c = true
  letter : ∃ letter, TimeUnit.ofLetter? letter = some unit ∧ cs = digits ++ [letter]

/-- The word `in`, a numeral and the name of a unit. -/
structure WordForm (words : List String) (digits : List Char) (unit : TimeUnit) : Prop where
  isDigit : ∀ c ∈ digits, isDigit c = true
  word : ∃ word, TimeUnit.ofWord? word.toList = some unit ∧ words = ["in", .ofList digits, word]

/-- A text that counts units of time, in the one form or the other. -/
def Counts (text : String) (number : Nat) (unit : TimeUnit) : Prop :=
  ∃ digits, decimalValue digits = number ∧
    (LetterForm (expressionChars text) digits unit ∨ WordForm (expressionWords text) digits unit)

theorem seconds_of_spanOf {digits : List Char} {unit : TimeUnit} {seconds : Nat}
    (hspan : spanOf digits unit = .ok seconds) : seconds = decimalValue digits * unit.seconds := by
  rw [spanOf, numeral] at hspan
  split at hspan
  · cases hspan
  · have hcounted : span (decimalValue digits * unit.seconds) = .ok seconds := hspan
    rw [span] at hcounted
    split at hcounted
    · cases hcounted
    · exact (Except.ok.inj hcounted).symm

/-- The letter of a unit is neither a digit nor white space. -/
theorem ofLetter?_eq_some {letter : Char} {unit : TimeUnit}
    (hletter : TimeUnit.ofLetter? letter = some unit) :
    startsWithDigit [letter] = false ∧ isBlank letter = false := by
  rw [TimeUnit.ofLetter?.eq_def] at hletter
  split at hletter
  · decide
  · decide
  · decide
  · decide
  · cases hletter

theorem readDistance_of_letterForm {digits : List Char} {unit : TimeUnit}
    (hform : LetterForm (expressionChars text) digits unit) :
    readDistance text = (spanOf digits unit).map some := by
  obtain ⟨hne, hdigits, letter, hletter, hchars⟩ := hform
  obtain ⟨hbegin, hend⟩ := span_isDigit hdigits (ofLetter?_eq_some hletter).1
  obtain ⟨digit, others, rfl⟩ := List.exists_cons_of_ne_nil hne
  rw [readDistance, hchars, hbegin, hend]
  simp only [hletter]

/-- A text that is no distance is read as none. -/
theorem letterForm_or_readDistance_eq_none (text : String) :
    (∃ digits unit, LetterForm (expressionChars text) digits unit) ∨
      readDistance text = .ok none := by
  rw [readDistance]
  split
  · rename_i digit digits letter hbegin hend
    split
    · rename_i unit hletter
      refine .inl ⟨digit :: digits, unit, List.cons_ne_nil _ _, fun c hc => ?_, letter, hletter, ?_⟩
      · exact List.mem_takeWhile_imp (hbegin ▸ hc)
      · rw [← hbegin, ← hend, List.takeWhile_append_dropWhile]
    · exact .inr rfl
  · exact .inr rfl

/-- A distance is one word, which begins with a digit. -/
theorem expressionWords_of_letterForm {digits : List Char} {unit : TimeUnit}
    (hform : LetterForm (expressionChars text) digits unit) :
    ∃ word, expressionWords text = [word] ∧ startsWithDigit word.toList = true := by
  obtain ⟨hne, hdigits, letter, hletter, hchars⟩ := hform
  have hfield : ∀ c ∈ digits ++ [letter], isBlank c = false := by
    rw [List.forall_mem_append]
    refine ⟨fun c hc => isBlank_of_isDigit (hdigits c hc), ?_⟩
    simpa using (ofLetter?_eq_some hletter).2
  have hwords := wordsChars_expressionChars text
  rw [hchars, wordsChars_eq_singleton hfield (List.append_ne_nil_of_left_ne_nil hne _)] at hwords
  obtain ⟨word, hword, hsame⟩ := List.map_eq_singleton_iff.1 hwords.symm
  obtain ⟨digit, others, rfl⟩ := List.exists_cons_of_ne_nil hne
  refine ⟨word, hword, ?_⟩
  rw [hsame]
  exact hdigits digit List.mem_cons_self

theorem readDistance_eq_none
    (hwords : ∀ word, expressionWords text = [word] → startsWithDigit word.toList = false) :
    readDistance text = .ok none := by
  rcases letterForm_or_readDistance_eq_none text with ⟨digits, unit, hform⟩ | hnone
  · obtain ⟨word, hword, hdigit⟩ := expressionWords_of_letterForm hform
    rw [hwords word hword] at hdigit
    cases hdigit
  · exact hnone

theorem readNatural_of_wordForm {digits : List Char} {unit : TimeUnit}
    (hform : WordForm (expressionWords text) digits unit) :
    readNatural text = (spanOf digits unit).map fun seconds => some (.afterSeconds seconds) := by
  obtain ⟨hdigits, word, hword, hwords⟩ := hform
  have hall : digits.all isDigit = true := List.all_eq_true.2 hdigits
  rw [readNatural, wordsChars_expressionChars, hwords]
  simp only [List.map_cons, List.map_nil, String.toList_ofList, decide_true, hall, Bool.and_self, if_true,
    hword]

/-- Only the words of a count are read as a number of seconds. -/
theorem wordForm_of_readNatural {seconds : Nat}
    (hread : readNatural text = .ok (some (.afterSeconds seconds))) :
    ∃ digits unit, WordForm (expressionWords text) digits unit ∧ spanOf digits unit = .ok seconds := by
  have hwords : expressionWords text = (wordsChars (expressionChars text)).map .ofList := by
    simp [wordsChars_expressionChars, Function.comp_def]
  rw [readNatural] at hread
  split at hread
  · split_ifs at hread <;> simp at hread
  · split_ifs at hread <;> simp at hread
  · rename_i first digits last hpieces
    split_ifs at hread with hcount
    · rw [Bool.and_eq_true, decide_eq_true_eq, List.all_eq_true] at hcount
      split at hread
      · rename_i unit hunit
        rw [hpieces, hcount.1] at hwords
        refine ⟨digits, unit, ⟨hcount.2, .ofList last, ?_, hwords⟩, ?_⟩
        · rwa [String.toList_ofList]
        · obtain ⟨counted, hspan, hsame⟩ := exists_of_map_eq_ok hread
          cases hsame
          exact hspan
      · cases hread
    · cases hread
  · cases hread

/-- No natural date begins with a digit. -/
theorem readNatural_eq_none {c : Char} {rest : List Char} (hchars : expressionChars text = c :: rest)
    (hc : isDigit c = true) : readNatural text = .ok none := by
  have hname : ∀ (word : List Char) (name : String), startsWithDigit name.toList = false →
      c :: word ≠ name.toList := by
    intro word name hletter hsame
    rw [← hsame, startsWithDigit_cons, hc] at hletter
    cases hletter
  have hday : ∀ word, Weekday.ofWord? (c :: word) = none := by
    intro word
    rw [Weekday.ofWord?, List.find?_eq_none]
    intro day _ hsame
    have hlower := (beq_iff_eq.1 hsame).symm
    rw [← String.toList_ofList (l := day.name.toList.map Char.toLower)] at hlower
    exact hname word _ (by cases day <;> decide) hlower
  -- the first word begins with the digit
  rw [readNatural, hchars, wordsChars, fieldsChars_cons (isBlank_of_isDigit hc),
    List.filter_cons_of_pos rfl]
  generalize (fieldsChars rest).headD [] = word
  generalize (fieldsChars rest).tail.filter _ = others
  rcases others with _ | ⟨second, _ | ⟨third, _ | ⟨fourth, others⟩⟩⟩
  · simp only [if_neg (hname word "today" (by decide)), if_neg (hname word "tomorrow" (by decide)),
      if_neg (hname word "tonight" (by decide)), hday]
    rfl
  · simp only [if_neg (hname word "next" (by decide))]
  · simp only [decide_eq_false (hname word "in" (by decide)), Bool.false_and, Bool.false_eq_true,
      if_false]
  · rfl

/-! ### Which form is read -/

theorem read_of_letterForm {digits : List Char} {unit : TimeUnit}
    (hform : LetterForm (expressionChars text) digits unit) :
    TimeExpression.read text = (spanOf digits unit).map fun seconds => some (.distance seconds) := by
  rw [TimeExpression.read, readDistance_of_letterForm hform]
  cases spanOf digits unit <;> rfl

/-- A text that is no distance is read as a natural date, else as a clock time. -/
theorem read_of_readDistance (hdistance : readDistance text = .ok none) :
    TimeExpression.read text = (readNatural text).map fun
      | some date => some (.natural date)
      | none => (readClock text).map .clock := by
  rw [TimeExpression.read, hdistance]
  change (readNatural text >>= _) = _
  cases readNatural text with
  | error failure => rfl
  | ok date => cases date <;> rfl

theorem read_of_wordForm {digits : List Char} {unit : TimeUnit}
    (hform : WordForm (expressionWords text) digits unit) :
    TimeExpression.read text =
      (spanOf digits unit).map fun seconds => some (.natural (.afterSeconds seconds)) := by
  obtain ⟨-, word, -, hwords⟩ := id hform
  have hdistance : readDistance text = .ok none := readDistance_eq_none fun only honly => by
    rw [hwords] at honly
    cases honly
  rw [read_of_readDistance hdistance, readNatural_of_wordForm hform]
  cases spanOf digits unit <;> rfl

/-- What is read is the distance, the natural date or the clock time that the text is. -/
theorem read_cases {expression : TimeExpression}
    (hread : TimeExpression.read text = .ok (some expression)) :
    (∃ digits unit seconds, LetterForm (expressionChars text) digits unit ∧
      spanOf digits unit = .ok seconds ∧ expression = .distance seconds) ∨
    (∃ date, readNatural text = .ok (some date) ∧ expression = .natural date) ∨
    ∃ time, readClock text = some time ∧ expression = .clock time := by
  rcases letterForm_or_readDistance_eq_none text with ⟨digits, unit, hform⟩ | hnone
  · rw [read_of_letterForm hform] at hread
    obtain ⟨seconds, hspan, hsame⟩ := exists_of_map_eq_ok hread
    exact .inl ⟨digits, unit, seconds, hform, hspan, (Option.some.inj hsame).symm⟩
  · rw [read_of_readDistance hnone] at hread
    obtain ⟨date?, hnatural, hsame⟩ := exists_of_map_eq_ok hread
    cases date? with
    | some date => exact .inr (.inl ⟨date, hnatural, (Option.some.inj hsame).symm⟩)
    | none =>
        obtain ⟨time, hclock, hsameTime⟩ := Option.map_eq_some_iff.1 hsame
        exact .inr (.inr ⟨time, hclock, hsameTime.symm⟩)

end Jotter
