import Jotter.Panel.Basic

/-!
A panel with the requests that it has sent and that are answered later. Each of them is a ticket,
numbered from zero in the order of sending. What its provider came to is brought to the panel once, in
any order and also after the text has changed.
-/

namespace Jotter

/-- A request that was sent, and whether its answer has been taken, once there is one. -/
structure Ticket (η : Type) where
  request : Request η
  taken : Option Bool := none

/-- A panel and its tickets, in the order in which they were sent. -/
structure Exchange (η : Type) where
  panel : Panel η
  tickets : List (Ticket η) := []

namespace Exchange

variable {η : Type}

/-- A panel that has shown nothing yet. -/
def start (settings : PanelSettings) : Exchange η :=
  { panel := { settings := settings } }

/-- Tells the panel that the text has changed. A request that is to be answered later becomes a
ticket, whose number is told. -/
def update {m : Type → Type} [Monad m] (ask : Command η → List String → m Answer)
    (exchange : Exchange η) (registry : Registry η) (text : String) :
    m (Exchange η × Option Nat) := do
  let (panel, request?) ← exchange.panel.update ask registry text
  match request? with
  | none => return ({ exchange with panel := panel }, none)
  | some request =>
    return (⟨panel, exchange.tickets ++ [{ request := request }]⟩, some exchange.tickets.length)

/-- Brings the panel what came of a ticket, and tells whether it was taken. Nothing comes of a ticket
that was never sent or that is answered already. -/
def complete (exchange : Exchange η) (ticket : Nat) (offer : Offer) : Exchange η × Option Bool :=
  match exchange.tickets[ticket]? with
  | some ⟨request, none⟩ =>
    let (panel, taken) := exchange.panel.deliver request offer.values
    (⟨panel, exchange.tickets.set ticket ⟨request, some taken⟩⟩, some taken)
  | _ => (exchange, none)

end Exchange

end Jotter
