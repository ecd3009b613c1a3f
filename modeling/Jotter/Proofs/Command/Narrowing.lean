import Mathlib.Data.List.Basic
import Jotter.Proofs.Command.Lookup
import Jotter.Proofs.Text.Sigma

/-! Typing more of a name. The listing compares names in lower case, and so does not lose a command that is
still meant, as long as the lower case of what is typed goes on as the text does. It does not where a capital
sigma at the end, which ends a word so far, is followed by a letter. -/

namespace Jotter

open Text

namespace Registry

variable {η : Type} {registry : Registry η} {command : Command η} {lead more name : String}

theorem mem_matching : command ∈ registry.matching lead ↔
    command ∈ registry.enabled ∧
      ∃ name ∈ command.name :: command.aliases, startsWith (lower name) (lower lead) = true := by
  rw [matching, List.mem_filter, Command.names, Command.key, ← List.map_cons, List.any_map, List.any_eq_true]
  rfl

/-- A text that begins with all of what is typed begins with the first part of it. -/
theorem matching_sublist (hlower : startsWith (lower (lead ++ more)) (lower lead) = true) :
    (registry.matching (lead ++ more)).Sublist (registry.matching lead) := by
  refine List.monotone_filter_right _ fun command hnames => ?_
  rw [List.any_eq_true] at hnames ⊢
  obtain ⟨name, hname, hmore⟩ := hnames
  rw [startsWith_iff] at hlower hmore
  exact ⟨name, hname, startsWith_iff.2 (hlower.trans hmore)⟩

theorem mem_matching_of_name (hcommand : command ∈ registry.enabled)
    (hname : name ∈ command.name :: command.aliases)
    (hlower : startsWith (lower name) (lower lead) = true) : command ∈ registry.matching lead :=
  mem_matching.2 ⟨hcommand, name, hname, hlower⟩

/-! ### A registry with one command -/

theorem commands_bareCommand (hname : trim name ≠ "") :
    (empty.run [.register (bareCommand name) false]).commands = [bareCommand name] := by
  have hregister : (empty : Registry Unit).register (bareCommand name) false =
      .ok (empty.insert (bareCommand name)) :=
    register_eq_ok.2 ⟨by simpa [bareCommand] using hname, .inl rfl, nofun, .nil, rfl⟩
  rw [run, List.foldl_cons, change, hregister]
  rfl

theorem enabled_bareCommand (hname : trim name ≠ "") :
    (empty.run [.register (bareCommand name) false]).enabled = [bareCommand name] := by
  rw [enabled, commands_bareCommand hname]
  rfl

theorem matching_bareCommand (hname : trim name ≠ "") (lead : String) :
    (empty.run [.register (bareCommand name) false]).matching lead =
      if startsWith (lower name) (lower lead) then [bareCommand name] else [] := by
  rw [matching, enabled_bareCommand hname]
  simp [bareCommand, Command.names, Command.key, List.filter_cons]

/-- A text that ends in a sigma can be the beginning of a name. -/
theorem trim_ne_empty_of_endsInSigma (hlead : EndsInSigma lead) (more : String) :
    trim (lead ++ more) ≠ "" := by
  obtain ⟨first, last, hsplit, -, -⟩ := hlead
  refine trim_ne_empty (c := 'Σ') ?_ (by decide)
  rw [String.toList_append, hsplit]
  simp

/-! ### Typing more -/

/-- Whatever was registered and removed, the commands listed for a longer beginning of a name are among
those listed for a shorter one, in the same order, and each command that a listing shows is listed for the
beginnings of its names and aliases as they are written: both hold for a beginning and what is typed behind
it iff it is not the case that the beginning ends in a capital sigma at the end of a word and the rest
begins with a cased character. -/
theorem longer_lead_narrows_iff (lead more : String) :
    ((∀ (η : Type) (changes : List (Change η)),
        ((empty.run changes).matching (lead ++ more)).Sublist ((empty.run changes).matching lead)) ↔
      ¬ JoinsSigma lead more) ∧
    ((∀ (η : Type) (changes : List (Change η)), ∀ command ∈ (empty.run changes).enabled,
        ∀ name ∈ command.name :: command.aliases, name = lead ++ more →
          command ∈ (empty.run changes).matching lead) ↔
      ¬ JoinsSigma lead more) := by
  have hlower : startsWith (lower (lead ++ more)) (lower lead) = true ↔ ¬ JoinsSigma lead more :=
    startsWith_lower_append
  -- where the sigma joins what follows, a command of just this name is not listed for its beginning
  have honly : JoinsSigma lead more → ∃ command : Command Unit,
      let registry := empty.run [.register command false]
      command.name = lead ++ more ∧ command ∈ registry.enabled ∧
        registry.matching (lead ++ more) = [command] ∧ registry.matching lead = [] := by
    intro hjoins
    have hname := trim_ne_empty_of_endsInSigma hjoins.1 more
    refine ⟨bareCommand (lead ++ more), rfl, ?_, ?_, ?_⟩
    · rw [enabled_bareCommand hname]
      exact List.mem_singleton_self _
    · rw [matching_bareCommand hname, if_pos (startsWith_iff.2 List.prefix_rfl)]
    · rw [matching_bareCommand hname, if_neg fun hstarts => hlower.1 hstarts hjoins]
  refine ⟨⟨fun hnarrows hjoins => ?_, fun hjoins η changes => matching_sublist (hlower.2 hjoins)⟩,
    ⟨fun hlisted hjoins => ?_, fun hjoins η changes command hcommand name hname hlead => ?_⟩⟩
  · obtain ⟨command, -, -, hmore, hnone⟩ := honly hjoins
    have hsublist := hnarrows Unit [.register command false]
    rw [hmore, hnone] at hsublist
    cases hsublist
  · obtain ⟨command, hname, hcommand, -, hnone⟩ := honly hjoins
    have hmember := hlisted Unit [.register command false] command hcommand _ List.mem_cons_self hname
    rw [hnone] at hmember
    cases hmember
  · exact mem_matching_of_name hcommand hname (hlead ▸ hlower.2 hjoins)

/-- A sigma keeps its form before a hyphen. -/
theorem hyphen_behind_sigma_narrows :
    let command := bareCommand "ΜΟΥΣ-ΕΙΟ"
    let registry : Registry Unit := empty.run [.register command false]
    (registry.matching ("ΜΟΥΣ" ++ "-ΕΙΟ")).Sublist (registry.matching "ΜΟΥΣ") ∧
      command ∈ registry.enabled ∧ command ∈ registry.matching "ΜΟΥΣ" := by
  intro command registry
  have hapart : ¬ JoinsSigma "ΜΟΥΣ" "-ΕΙΟ" :=
    fun hjoins => absurd hjoins.2 (by decide +kernel)
  have hcommand : command ∈ registry.enabled := by
    rw [enabled_bareCommand (by decide +kernel)]
    exact List.mem_singleton_self _
  obtain ⟨hnarrows, hlisted⟩ := longer_lead_narrows_iff "ΜΟΥΣ" "-ΕΙΟ"
  exact ⟨hnarrows.2 hapart Unit [.register command false], hcommand,
    hlisted.2 hapart Unit [.register command false] command hcommand "ΜΟΥΣ-ΕΙΟ" List.mem_cons_self
      (by decide +kernel)⟩

/-- Before a letter a sigma changes its form: the command that is listed for all of its name is not listed
for the beginning of it. -/
theorem letter_behind_sigma_widens :
    let command := bareCommand "ΜΟΥΣΑ"
    let registry : Registry Unit := empty.run [.register command false]
    command ∈ registry.enabled ∧ registry.matching "ΜΟΥΣ" = [] ∧
      registry.matching ("ΜΟΥΣ" ++ "Α") = [command] ∧
      ¬ (registry.matching ("ΜΟΥΣ" ++ "Α")).Sublist (registry.matching "ΜΟΥΣ") := by
  intro command registry
  have hname : trim "ΜΟΥΣΑ" ≠ "" := by decide +kernel
  have hnone : registry.matching "ΜΟΥΣ" = [] := by
    rw [matching_bareCommand hname, if_neg (by decide +kernel)]
  have hall : registry.matching ("ΜΟΥΣ" ++ "Α") = [command] := by
    rw [matching_bareCommand hname, if_pos (by decide +kernel)]
  refine ⟨?_, hnone, hall, fun hsublist => ?_⟩
  · rw [enabled_bareCommand hname]
    exact List.mem_singleton_self _
  · rw [hall, hnone] at hsublist
    cases hsublist

end Registry

end Jotter
