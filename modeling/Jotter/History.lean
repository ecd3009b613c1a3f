import Jotter.Cap
import Jotter.Failure

/-!
The log of past invocations. It keeps a bounded number of entries and forgets the oldest; entries are
stamped by a clock that ticks once for each of them.
-/

namespace Jotter

structure HistoryEntry where
  command : String
  stamp : Nat
  success : Bool
  deriving DecidableEq, Repr

/-- The entries of a history, newest first, and the stamp of the next one. -/
structure History where
  capacity : Nat
  entries : List HistoryEntry
  nextStamp : Nat
  deriving Repr

namespace History

/-- The most entries that a history can be asked to keep. -/
def largestSize : Int := 9223372036854775807

/-- A history without entries, for at least one of them. -/
def new (size : Int) : Except Failure History :=
  if size < 1 then .error (.historySize size)
  else if largestSize < size then .error (.historyTooLarge size)
  else .ok ⟨size.toNat, [], 1⟩

/-- Appends an entry; a full history forgets its oldest one. -/
def append (history : History) (command : String) (success : Bool) : History :=
  { history with
    entries := (⟨command, history.nextStamp, success⟩ :: history.entries).take history.capacity
    nextStamp := history.nextStamp + 1 }

def clear (history : History) : History :=
  { history with entries := [] }

def size (history : History) : Nat :=
  history.entries.length

/-- The lines of the latest entries, newest first. -/
def recent (history : History) (cap : Option Int) : List String :=
  (capped cap history.entries).map (·.command)

/-- The room of a history of the usual size. -/
def defaultSize : Int := 50

/-- How many entries are listed unless another number is asked for. -/
def defaultRecent : Int := 10

end History

end Jotter
