import Jotter.Proofs.Command.Owners
import Jotter.Proofs.Text.Margins
import Jotter.Settings.Configuration

/-! Whether a name under which a command was registered is found again. Names are filed as they are written,
but for their case; a look-up drops the margins of what it is given and one marker before it. So a name is
found as it is written if neither of this takes anything away from it, and behind a marker it is found
unless it ends with white space. -/

namespace Jotter

open Text

variable {η : Type}

namespace Registry

variable {registry : Registry η} {command : Command η} {name marker : String}

/-! ### What is looked up -/

theorem normalize_of_plain (htrim : trim name = name) (hmarker : startsWith name marker = false) :
    normalize name marker = lower name := by
  rw [normalize, htrim, dropLead_of_not_startsWith hmarker]

/-- Behind a marker only the right margin of a name is dropped. -/
theorem normalize_marked (hmarker : Configuration.isMarker marker = true)
    (hlast : ∀ c ∈ name.toList.getLast?, isBlank c = false) :
    normalize (marker ++ name) marker = lower name := by
  obtain ⟨d, hd, hblank⟩ := Configuration.exists_of_isMarker hmarker
  have hchars : (marker ++ name).toList = d :: name.toList := by
    rw [String.toList_append, hd]
    rfl
  have htrim : trim (marker ++ name) = marker ++ name := by
    apply String.toList_injective
    rw [toList_trim, hchars]
    refine trimChars_eq_self ?_ fun c hc => ?_
    · rintro _ ⟨⟩
      exact hblank
    · rw [List.getLast?_cons] at hc
      cases hend : name.toList.getLast? with
      | none =>
          rw [hend] at hc
          obtain rfl := Option.some.inj hc
          exact hblank
      | some last =>
          rw [hend] at hc
          obtain rfl := Option.some.inj hc
          exact hlast last hend
  rw [normalize, htrim, dropLead_append]

theorem lower_mem_names (hname : name ∈ command.name :: command.aliases) :
    lower name ∈ command.names :=
  List.mem_map_of_mem hname

/-! ### Names of registered commands -/

/-- No command is filed under a blank name. -/
def Named (registry : Registry η) : Prop :=
  ∀ command ∈ registry.commands, trim command.name ≠ ""

theorem Named.change (hnamed : registry.Named) (hregistry : registry.WellFormed) (change : Change η) :
    (registry.change change).Named := by
  cases change with
  | register command replace =>
      rw [Registry.change]
      cases hregister : registry.register command replace with
      | error failure => exact hnamed
      | ok changed =>
          obtain ⟨haccepts, rfl⟩ := hregistry.register_eq_ok_iff.1 hregister
          intro other hother
          rcases hregistry.mem_commands_insert.1 hother with rfl | ⟨hother, -⟩
          · exact haccepts.named
          · exact hnamed other hother
  | unregister name =>
      exact fun other hother => hnamed other (hregistry.mem_commands_unregister.1 hother).1

theorem Named.run (hnamed : registry.Named) (hregistry : registry.WellFormed)
    (changes : List (Change η)) : (registry.run changes).Named := by
  induction changes generalizing registry with
  | nil => exact hnamed
  | cons change changes ih => exact ih (hnamed.change hregistry change) (hregistry.change change)

theorem named_empty : (empty : Registry η).Named :=
  nofun

theorem Named.name_ne (hnamed : registry.Named) (hcommand : command ∈ registry.commands) :
    command.name ≠ "" := by
  intro hempty
  have hblank : trim "" = "" := by decide
  exact hnamed command hcommand (hempty ▸ hblank)

/-! ### Finding them -/

namespace WellFormed

/-- Whatever is normalized to a name of a command finds the command. -/
theorem resolve?_of_normalize (hregistry : registry.WellFormed) (hcommand : command ∈ registry.commands)
    {own : String} (hown : own ∈ command.name :: command.aliases) (hne : own ≠ "")
    (hnormal : normalize name marker = lower own) : registry.resolve? name marker = some command := by
  rw [hregistry.resolve?_eq_some, hnormal]
  exact ⟨mt lower_eq_empty.1 hne, hcommand, lower_mem_names hown⟩

theorem resolve?_eq_some_iff_of_mem (hregistry : registry.WellFormed)
    (hcommand : command ∈ registry.commands) :
    registry.resolve? name marker = some command ↔
      dropLead (trim name) marker ≠ "" ∧ lower (dropLead (trim name) marker) ∈ command.names := by
  rw [hregistry.resolve?_eq_some, and_iff_right hcommand, normalize, ne_eq, lower_eq_empty]

end WellFormed

/-- A command is registered under its name and its aliases that are not empty. Each of them finds the
command iff what is left of it, without margins and without one marker, is not empty and is in some case a
name of the command. So it does if it has no margins and does not begin with the marker; and with a marker
put before it each of them does that does not end with white space. -/
theorem registered_names_are_found (changes : List (Change η)) :
    let registry : Registry η := empty.run changes
    ∀ command ∈ registry.commands, ∀ name,
      name = command.name ∨ name ∈ command.aliases ∧ name ≠ "" → ∀ marker,
        (registry.resolve? name marker = some command ↔
          dropLead (trim name) marker ≠ "" ∧ lower (dropLead (trim name) marker) ∈ command.names) ∧
        (trim name = name → startsWith name marker = false →
          registry.resolve? name marker = some command) ∧
        (Configuration.isMarker marker = true → (∀ c ∈ name.toList.getLast?, isBlank c = false) →
          registry.resolve? (marker ++ name) marker = some command) := by
  intro registry command hcommand name hname marker
  have hregistry : registry.WellFormed := wellFormed_empty.run changes
  have hnamed : registry.Named := named_empty.run wellFormed_empty changes
  obtain ⟨hown, hne⟩ : name ∈ command.name :: command.aliases ∧ name ≠ "" := by
    rcases hname with rfl | ⟨halias, hne⟩
    · exact ⟨List.mem_cons_self, hnamed.name_ne hcommand⟩
    · exact ⟨List.mem_cons_of_mem _ halias, hne⟩
  refine ⟨hregistry.resolve?_eq_some_iff_of_mem hcommand, fun htrim hunmarked => ?_,
    fun hmarker hlast => ?_⟩
  · exact hregistry.resolve?_of_normalize hcommand hown hne (normalize_of_plain htrim hunmarked)
  · exact hregistry.resolve?_of_normalize hcommand hown hne (normalize_marked hmarker hlast)

/-- A command without aliases. -/
def bareCommand (name : String) : Command Unit :=
  ⟨name, "", .utility, [], "", [], true, ()⟩

/-- A name that begins with the marker is found behind another one. -/
theorem second_marker_finds_name :
    let registry : Registry Unit := empty.run [.register (bareCommand "/ping") false]
    bareCommand "/ping" ∈ registry.commands ∧ Configuration.isMarker "/" = true ∧
      (∀ c ∈ "/ping".toList.getLast?, isBlank c = false) ∧
        registry.resolve? ("/" ++ "/ping") "/" = some (bareCommand "/ping") := by
  intro registry
  have hcommand : bareCommand "/ping" ∈ registry.commands := List.mem_singleton_self _
  have hlast : ∀ c ∈ "/ping".toList.getLast?, isBlank c = false := by simp [isBlank]
  obtain ⟨-, -, hbehind⟩ := registered_names_are_found [.register (bareCommand "/ping") false]
    (bareCommand "/ping") hcommand "/ping" (.inl rfl) "/"
  exact ⟨hcommand, by decide, hlast, hbehind (by decide) hlast⟩

/-- A name that begins with the marker or with white space is registered, but it is not found as it is
written. -/
theorem marked_name_is_not_found :
    let registry : Registry Unit :=
      empty.run [.register (bareCommand "/ping") false, .register (bareCommand " pong") false]
    registry.commands = [bareCommand "/ping", bareCommand " pong"] ∧
      registry.resolve? "/ping" defaultMarker = none ∧ registry.resolve? " pong" defaultMarker = none ∧
      ¬ ∀ command ∈ registry.commands,
        registry.resolve? command.name defaultMarker = some command := by
  intro registry
  have hcommands : registry.commands = [bareCommand "/ping", bareCommand " pong"] := rfl
  have hmarked : registry.resolve? "/ping" defaultMarker = none := rfl
  refine ⟨hcommands, hmarked, rfl, fun hfound => ?_⟩
  have hping := hfound (bareCommand "/ping") (hcommands ▸ List.mem_cons_self)
  cases hmarked.symm.trans hping

end Registry

end Jotter
