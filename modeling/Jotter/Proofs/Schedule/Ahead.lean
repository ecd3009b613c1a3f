import Jotter.Proofs.Schedule.Due

/-! A due time is never past. It is the time of asking itself only where the text counts a number of units
and the number is zero; whatever else a text means is still to come. -/

namespace Jotter

variable {now due : Moment} {text : String}

theorem instant_of_addSeconds {seconds : Nat} (hdue : now.addSeconds seconds = .ok due) :
    due.instant = now.instant + seconds * 1000000 := by
  rw [Moment.addSeconds] at hdue
  obtain ⟨hoffset, hwall⟩ := Moment.shift_eq_ok_iff.1 hdue
  rw [Moment.instant, Moment.instant, hoffset, hwall]
  omega

theorem TimeUnit.seconds_pos (unit : TimeUnit) : 0 < unit.seconds := by
  cases unit <;> decide

/-- An expression counts seconds iff the text that it is read from counts units. -/
theorem seconds?_of_read {expression : TimeExpression} {seconds : Nat}
    (hread : TimeExpression.read text = .ok (some expression)) :
    expression.seconds? = some seconds ↔
      ∃ number unit, Counts text number unit ∧ number * unit.seconds = seconds := by
  constructor
  · intro hseconds
    rcases read_cases hread with ⟨digits, unit, counted, hform, hspan, rfl⟩ | ⟨date, hnatural, rfl⟩ |
      ⟨time, -, rfl⟩
    · obtain rfl : counted = seconds := Option.some.inj hseconds
      exact ⟨_, unit, ⟨digits, rfl, .inl hform⟩, (seconds_of_spanOf hspan).symm⟩
    · cases date with
      | afterSeconds counted =>
          obtain rfl : counted = seconds := Option.some.inj hseconds
          obtain ⟨digits, unit, hform, hspan⟩ := wordForm_of_readNatural hnatural
          exact ⟨_, unit, ⟨digits, rfl, .inr hform⟩, (seconds_of_spanOf hspan).symm⟩
      | _ => cases hseconds
    · cases hseconds
  · rintro ⟨number, unit, ⟨digits, rfl, hform | hform⟩, rfl⟩
    · rw [read_of_letterForm hform] at hread
      obtain ⟨counted, hspan, hsame⟩ := exists_of_map_eq_ok hread
      obtain rfl := Option.some.inj hsame
      rw [← seconds_of_spanOf hspan, TimeExpression.seconds?]
    · rw [read_of_wordForm hform] at hread
      obtain ⟨counted, hspan, hsame⟩ := exists_of_map_eq_ok hread
      obtain rfl := Option.some.inj hsame
      rw [← seconds_of_spanOf hspan, TimeExpression.seconds?]

/-- A due time is told on the clock that was asked and is not past. It is now iff the text counts no units;
every other text means a later time. -/
theorem due_time_is_never_past (hdue : dueTime text now = .ok (some due)) :
    due.offset = now.offset ∧ now.instant ≤ due.instant ∧
      (due.instant = now.instant ↔ ∃ unit, Counts text 0 unit) := by
  obtain ⟨expression, hread, hmeant⟩ := exists_of_dueTime hdue
  have hfollows := follows_of_resolve hmeant
  refine ⟨hfollows.offset_eq, hfollows.instant_le, ?_⟩
  cases hseconds : expression.seconds? with
  | none =>
      have hlater := (succeeds_of_resolve hseconds hmeant).instant_lt
      refine ⟨fun hnow => absurd hnow (Int.ne_of_gt hlater), fun ⟨unit, hcounts⟩ => ?_⟩
      rw [(seconds?_of_read hread).2 ⟨0, unit, hcounts, rfl⟩] at hseconds
      cases hseconds
  | some seconds =>
      rw [resolve_of_seconds hseconds] at hmeant
      have hinstant := instant_of_addSeconds hmeant
      constructor
      · intro hnow
        obtain ⟨number, unit, hcounts, hnumber⟩ := (seconds?_of_read hread).1 hseconds
        have hnothing : number * unit.seconds = 0 := by omega
        rcases Nat.mul_eq_zero.1 hnothing with rfl | hunit
        · exact ⟨unit, hcounts⟩
        · exact absurd hunit (Nat.ne_of_gt unit.seconds_pos)
      · rintro ⟨unit, hcounts⟩
        have hnothing := (seconds?_of_read hread).2 ⟨0, unit, hcounts, rfl⟩
        rw [hseconds, Nat.zero_mul, Option.some.injEq] at hnothing
        omega

/-- Eight in the evening of the 31st of January 2024, on a clock an hour ahead of UTC. -/
def evening : Moment :=
  ⟨63842328000000000, some 3600, by decide⟩

/-- The same time of the next day. -/
def nextEvening : Moment :=
  ⟨63842414400000000, some 3600, by decide⟩

/-- At eight o'clock tonight is tomorrow. -/
theorem tonight_at_evening :
    dueTime "Tonight" evening = .ok (some nextEvening) ∧ nextEvening.offset = evening.offset ∧
      evening.instant ≤ nextEvening.instant ∧ ¬ ∃ unit, Counts "Tonight" 0 unit := by
  have hdue : dueTime "Tonight" evening = .ok (some nextEvening) := by decide +kernel
  obtain ⟨hoffset, hinstant, hnow⟩ := due_time_is_never_past hdue
  exact ⟨hdue, hoffset, hinstant, fun hcounts => absurd (hnow.2 hcounts) (by decide +kernel)⟩

end Jotter
