import Jotter.Hook
import Jotter.Vault

/-!
The collaborators of the built-in commands: a clock and stores for notes, notebooks, tags and
reminders, over a state of any type. A desk, that is a vault with a clock beside it, is one such state.
-/

namespace Jotter

structure Services (σ : Type) where
  clock : σ → Moment
  /-- How often a caller has had to wait for a collaborator so far. -/
  waits : σ → Nat
  createNote : (vaultPath : Option String) → (notebook : Setting) → (content : String) →
    Attempt σ Note
  listNotebooks : Attempt σ (List Notebook)
  setActiveNotebook : (id : Setting) → Attempt σ Unit
  listTags : Attempt σ (List String)
  searchNotes : (vaultPath : Option String) → (query : String) → Attempt σ (List Note)
  searchByTag : (vaultPath : Option String) → (tag : String) → Attempt σ (List Note)
  createReminder : (message : String) → (dueAt : Int) → (notebook : Setting) → Attempt σ Reminder

namespace Services

variable {σ τ : Type}

/-- The same collaborators on a part of a larger state. -/
def onPart (services : Services σ) (part : τ → σ) (withPart : τ → σ → τ) : Services τ where
  clock whole := services.clock (part whole)
  waits whole := services.waits (part whole)
  createNote path notebook content :=
    Attempt.onPart part withPart (services.createNote path notebook content)
  listNotebooks := Attempt.onPart part withPart services.listNotebooks
  setActiveNotebook id := Attempt.onPart part withPart (services.setActiveNotebook id)
  listTags := Attempt.onPart part withPart services.listTags
  searchNotes path query := Attempt.onPart part withPart (services.searchNotes path query)
  searchByTag path tag := Attempt.onPart part withPart (services.searchByTag path tag)
  createReminder message dueAt notebook :=
    Attempt.onPart part withPart (services.createReminder message dueAt notebook)

end Services

/-- A vault and what the clock beside it shows. -/
structure Desk where
  vault : Vault
  now : Moment

namespace Desk

/-- A change of the vault that also has an answer. -/
def change {α : Type} (f : Desk → α × Vault) : Attempt Desk α := do
  let desk ← get
  let (answer, vault) := f desk
  set { desk with vault := vault }
  return answer

/-- The collaborators that a desk provides. They answer at once. -/
def services : Services Desk where
  clock := Desk.now
  waits _ := 0
  createNote _ notebook content := change fun desk => desk.vault.addNote desk.now notebook content
  listNotebooks := Attempt.reads (·.vault.notebooks)
  setActiveNotebook id := do
    let desk ← get
    match desk.vault.setActive id with
    | .ok vault => set { desk with vault := vault }
    | .error failure => throw failure
  listTags := Attempt.reads (·.vault.tags)
  searchNotes _ query := Attempt.reads (·.vault.notesWithText query)
  searchByTag _ tag := Attempt.reads (·.vault.notesWithTag tag)
  createReminder message dueAt notebook :=
    change fun desk => desk.vault.addReminder message dueAt notebook

end Desk

end Jotter
