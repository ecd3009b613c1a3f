/-!
Caps on listings. A cap of zero or more keeps that many entries from the front; a negative cap drops
that many from the end. Without a cap all entries stay.
-/

namespace Jotter

/-- The entries that a cap leaves of a listing. -/
def capped {α : Type} (cap : Option Int) (entries : List α) : List α :=
  match cap with
  | none => entries
  | some (.ofNat n) => entries.take n
  | some (.negSucc n) => entries.take (entries.length - (n + 1))

theorem capped_sublist {α : Type} (cap : Option Int) (entries : List α) :
    List.Sublist (capped cap entries) entries := by
  match cap with
  | none => exact List.Sublist.refl entries
  | some (.ofNat n) => exact List.take_sublist n entries
  | some (.negSucc n) => exact List.take_sublist _ entries

theorem capped_nil {α : Type} (cap : Option Int) : capped cap ([] : List α) = [] :=
  List.sublist_nil.1 (capped_sublist cap [])

theorem length_capped_le {α : Type} (cap : Nat) (entries : List α) :
    (capped (some (cap : Int)) entries).length ≤ cap := by
  show (entries.take cap).length ≤ cap
  rw [List.length_take]
  exact Nat.min_le_left cap entries.length

end Jotter
