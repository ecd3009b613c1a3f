import Jotter.Proofs.Command.Names

/-! Listings and lookups do not look at hooks: with other hooks in its commands, a registry finds the
same commands under the same names. -/

namespace Jotter

variable {η θ : Type}

namespace Command

/-- A command with other hooks, made from the command. -/
def mapHooks (f : Command η → θ) (command : Command η) : Command θ :=
  { command with hooks := f command }

@[simp]
theorem outline_mapHooks (f : Command η → θ) (command : Command η) :
    (command.mapHooks f).outline = command.outline :=
  rfl

end Command

namespace Registry

def mapHooks (f : Command η → θ) (registry : Registry η) : Registry θ :=
  ⟨registry.entries.map fun entry => (entry.1, entry.2.mapHooks f)⟩

theorem commands_mapHooks (f : Command η → θ) (registry : Registry η) :
    (registry.mapHooks f).commands = registry.commands.map (Command.mapHooks f) := by
  simp [commands, mapHooks]

theorem outline_mapHooks (f : Command η → θ) (registry : Registry η) :
    (registry.mapHooks f).outline = registry.outline := by
  simp [outline, mapHooks]

theorem find?_mapHooks (f : Command η → θ) (registry : Registry η) (key : String) :
    (registry.mapHooks f).find? key = (registry.find? key).map (Command.mapHooks f) := by
  obtain ⟨entries⟩ := registry
  simp only [find?, mapHooks]
  induction entries with
  | nil => rfl
  | cons entry entries ih =>
      rw [List.map_cons, List.lookup_cons, List.lookup_cons, ih]
      cases key == entry.1 <;> rfl

/-- The same command is found, with its other hooks. -/
theorem resolve?_mapHooks (f : Command η → θ) (registry : Registry η) (name marker : String) :
    (registry.mapHooks f).resolve? name marker =
      (registry.resolve? name marker).map (Command.mapHooks f) := by
  rw [resolve?_eq, resolve?_eq, find?_mapHooks, commands_mapHooks, List.find?_map]
  split
  · rfl
  · rw [Option.map_or]
    rfl

end Registry

end Jotter
