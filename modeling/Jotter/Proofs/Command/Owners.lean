import Jotter.Proofs.Command.Names

/-! What a call does to the owners of names and to the order of the commands. A registration that goes
through gives all its names to the new command and sets free what the command whose place it takes was
called besides; a removal sets the names of one command free. All other names keep their owners, and all
other commands their order. A registration that does not go through does nothing. -/

namespace Jotter

variable {η : Type}

namespace Registry

/-- The command that claims a name in lower case. -/
def owner? (registry : Registry η) (name : String) : Option (Command η) :=
  if name = "" then none else registry.commands.find? (·.names.contains name)

/-- Whether a command can be registered: it has a name, its key is free or it may take the place of the
command there, no other command claims one of its names, and no alias stands twice. -/
structure Accepts (registry : Registry η) (command : Command η) (replace : Bool) : Prop where
  named : Text.trim command.name ≠ ""
  vacant : (∀ other ∈ registry.commands, other.key ≠ command.key) ∨ replace = true
  free : ∀ other ∈ registry.commands, other.key ≠ command.key → command.names.Disjoint other.names
  distinct : ((command.aliases.map Text.lower).filter (· ≠ command.key)).Nodup

theorem exists_of_conflict?_eq_some {rest : List (Command η)} {command : Command η}
    {seen names : List String} {failure : Failure}
    (hconflict : conflict? rest command seen names = some failure) :
    ∃ name claimedBy, failure = .nameTaken name claimedBy := by
  induction names generalizing seen with
  | nil => cases hconflict
  | cons name names ih =>
      rw [conflict?] at hconflict
      cases hclaimed : rest.find? (·.names.contains name) with
      | some other =>
          rw [hclaimed] at hconflict
          exact ⟨_, _, (Option.some.inj hconflict).symm⟩
      | none =>
          rw [hclaimed] at hconflict
          dsimp only at hconflict
          split at hconflict
          · exact ⟨_, _, (Option.some.inj hconflict).symm⟩
          · exact ih hconflict

/-- The two reasons for which a registration fails. -/
theorem register_eq_error {registry : Registry η} {command : Command η} {replace : Bool}
    {failure : Failure} (hfailed : registry.register command replace = .error failure) :
    if Text.trim command.name = "" then failure = .blankName
    else ∃ name claimedBy, failure = .nameTaken name claimedBy := by
  unfold register at hfailed
  split
  · rename_i hblank
    rw [if_pos (by simpa using hblank)] at hfailed
    exact (Except.error.inj hfailed).symm
  · rename_i hnamed
    rw [if_neg (by simpa using hnamed)] at hfailed
    split at hfailed
    · exact ⟨_, _, (Except.error.inj hfailed).symm⟩
    · split at hfailed
      · rename_i cause hconflict
        obtain rfl : cause = failure := Except.error.inj hfailed
        exact exists_of_conflict?_eq_some hconflict
      · cases hfailed

namespace WellFormed

variable {registry : Registry η} {command : Command η}

theorem resolve?_eq_owner? (hregistry : registry.WellFormed) (name marker : String) :
    registry.resolve? name marker = registry.owner? (normalize name marker) := by
  rw [owner?]
  split
  · rename_i hempty
    rw [resolve?_eq, hempty]
    rfl
  · rename_i hne
    exact hregistry.resolve?_eq_find?_names (List.Perm.refl _) hne

theorem owner?_eq_some (hregistry : registry.WellFormed) {name : String} {command : Command η} :
    registry.owner? name = some command ↔
      name ≠ "" ∧ command ∈ registry.commands ∧ name ∈ command.names := by
  rw [owner?]
  split
  · rename_i hempty
    simp [hempty]
  · rename_i hne
    constructor
    · intro hfound
      exact ⟨hne, List.mem_of_find?_eq_some hfound, by simpa using List.find?_some hfound⟩
    · rintro ⟨-, hcommand, hname⟩
      refine find?_of_unique hcommand (by simpa using hname) ?_
      intro other hother hshared
      exact hregistry.owner_unique hother hcommand (by simpa using hshared) hname

theorem owner?_eq_none (hregistry : registry.WellFormed) {name : String} :
    registry.owner? name = none ↔ name ≠ "" → ∀ command ∈ registry.commands, name ∉ command.names := by
  rw [Option.eq_none_iff_forall_ne_some]
  constructor
  · intro hnone hne command hcommand hname
    exact hnone command (hregistry.owner?_eq_some.2 ⟨hne, hcommand, hname⟩)
  · intro hfree command hsome
    obtain ⟨hne, hcommand, hname⟩ := hregistry.owner?_eq_some.1 hsome
    exact hfree hne command hcommand hname

/-- No two commands have the same key. -/
theorem key_ne_of_split (hregistry : registry.WellFormed) {before after : List (Command η)}
    (hcommands : registry.commands = before ++ command :: after) :
    ∀ other ∈ before ++ after, other.key ≠ command.key := by
  have hnodup : (registry.commands.map Command.key).Nodup := by
    rw [List.Nodup, List.pairwise_map]
    refine hregistry.disjoint.imp fun {first second} hapart hkey => ?_
    exact hapart first.key_mem_names (hkey ▸ second.key_mem_names)
  rw [hcommands, List.map_append, List.map_cons, List.nodup_middle, List.nodup_cons,
    ← List.map_append] at hnodup
  intro other hother hkey
  exact hnodup.1 (hkey ▸ List.mem_map_of_mem hother)

/-- A name has the same owner in two registries if the same commands claim it. -/
theorem owner?_congr {changed : Registry η} (hregistry : registry.WellFormed)
    (hchanged : changed.WellFormed) {name : String}
    (hsame : ∀ command, name ∈ command.names →
      (command ∈ changed.commands ↔ command ∈ registry.commands)) :
    changed.owner? name = registry.owner? name := by
  apply Option.ext
  intro command
  rw [hchanged.owner?_eq_some, hregistry.owner?_eq_some]
  constructor
  · rintro ⟨hne, hcommand, hname⟩
    exact ⟨hne, (hsame command hname).1 hcommand, hname⟩
  · rintro ⟨hne, hcommand, hname⟩
    exact ⟨hne, (hsame command hname).2 hcommand, hname⟩

/-! ### Registration -/

/-- A registration goes through iff the command is accepted. -/
theorem register_eq_ok_iff (hregistry : registry.WellFormed) {changed : Registry η} {replace : Bool} :
    registry.register command replace = .ok changed ↔
      registry.Accepts command replace ∧ changed = registry.insert command := by
  have hnamed : (Text.trim command.name).isEmpty = false ↔ Text.trim command.name ≠ "" := by
    rw [← Bool.not_eq_true, String.isEmpty_iff]
  rw [register_eq_ok, hnamed, hregistry.find?_eq_none]
  constructor
  · rintro ⟨hname, hvacant, hfree, hdistinct, hchanged⟩
    refine ⟨⟨hname, hvacant, fun other hother hkey name hown hshared => ?_, hdistinct⟩, hchanged⟩
    exact hfree other (mem_others.2 ⟨hother, hkey⟩) name hown hshared
  · rintro ⟨⟨hname, hvacant, hfree, hdistinct⟩, hchanged⟩
    refine ⟨hname, hvacant, fun other hother name hown hshared => ?_, hdistinct, hchanged⟩
    exact hfree other (mem_others.1 hother).1 (mem_others.1 hother).2 hown hshared

/-- A command takes the place of the one of its key. -/
theorem commands_insert_of_mem (hregistry : registry.WellFormed) {replaced : Command η}
    (hreplaced : replaced ∈ registry.commands) (hkey : replaced.key = command.key) :
    ∃ before after, registry.commands = before ++ replaced :: after ∧
      (registry.insert command).commands = before ++ command :: after := by
  have hfound : registry.find? command.key = some replaced :=
    hregistry.find?_eq_some.2 ⟨hreplaced, hkey.symm⟩
  obtain ⟨before, after, hentries, -⟩ := List.lookup_eq_some_iff.1 hfound
  have hcommands : registry.commands = before.map Prod.snd ++ replaced :: after.map Prod.snd := by
    rw [commands, hentries, List.map_append, List.map_cons]
  -- the entries on both sides have other keys, so they are left as they are
  have hother : ∀ entry ∈ before ++ after, entry.1 ≠ command.key := by
    intro entry hentry
    have hmem : entry ∈ registry.entries := by
      rw [hentries, List.mem_append, List.mem_cons, or_left_comm, ← List.mem_append]
      exact .inr hentry
    rw [hregistry.key_eq entry hmem, ← hkey]
    refine hregistry.key_ne_of_split hcommands entry.2 ?_
    rw [← List.map_append]
    exact List.mem_map_of_mem hentry
  have hkeep : ∀ entries : List (String × Command η), (∀ entry ∈ entries, entry.1 ≠ command.key) →
      entries.map (fun entry => if entry.1 = command.key then (entry.1, command) else entry) =
        entries := by
    intro entries hentries
    conv_rhs => rw [← List.map_id entries]
    exact List.map_congr_left fun entry hentry => if_neg (hentries entry hentry)
  have hbefore := hkeep before fun entry hentry => hother entry (List.mem_append_left _ hentry)
  have hafter := hkeep after fun entry hentry => hother entry (List.mem_append_right _ hentry)
  refine ⟨_, _, hcommands, ?_⟩
  rw [Registry.insert, hfound, if_pos Option.isSome_some, commands, hentries, List.map_append,
    List.map_cons, if_pos rfl, hbefore, hafter, List.map_append, List.map_cons]

/-- A command of a new key goes last. -/
theorem commands_insert_of_vacant (hregistry : registry.WellFormed)
    (hvacant : ∀ other ∈ registry.commands, other.key ≠ command.key) :
    (registry.insert command).commands = registry.commands ++ [command] := by
  rw [Registry.insert, hregistry.find?_eq_none.2 hvacant]
  exact List.map_append

/-- Registered are afterwards the new command and the commands of other keys. -/
theorem mem_commands_insert (hregistry : registry.WellFormed) {other : Command η} :
    other ∈ (registry.insert command).commands ↔
      other = command ∨ other ∈ registry.commands ∧ other.key ≠ command.key := by
  by_cases hvacant : ∀ other ∈ registry.commands, other.key ≠ command.key
  · rw [hregistry.commands_insert_of_vacant hvacant, List.mem_append, List.mem_singleton, or_comm]
    exact or_congr_right (iff_self_and.2 (hvacant other))
  · push Not at hvacant
    obtain ⟨replaced, hreplaced, hkey⟩ := hvacant
    obtain ⟨before, after, hcommands, hinserted⟩ := hregistry.commands_insert_of_mem hreplaced hkey
    have hsides := hregistry.key_ne_of_split hcommands other
    rw [hkey] at hsides
    have hmem : other ∈ registry.commands ↔ other = replaced ∨ other ∈ before ++ after := by
      rw [hcommands, List.mem_append, List.mem_cons, or_left_comm, ← List.mem_append]
    rw [hinserted, hmem, List.mem_append, List.mem_cons, or_left_comm, ← List.mem_append]
    refine or_congr_right ⟨fun hother => ⟨.inr hother, hsides hother⟩, ?_⟩
    rintro ⟨rfl | hother, hne⟩
    · exact absurd hkey hne
    · exact hother

theorem insert_of_accepts (hregistry : registry.WellFormed) {replace : Bool}
    (haccepts : registry.Accepts command replace) : (registry.insert command).WellFormed :=
  hregistry.insert (fun other hother =>
    haccepts.free other (mem_others.1 hother).1 (mem_others.1 hother).2) haccepts.distinct

section Owners

variable {replace : Bool} {name : String}

theorem owner?_insert_of_mem (hregistry : registry.WellFormed)
    (haccepts : registry.Accepts command replace) (hne : name ≠ "") (hname : name ∈ command.names) :
    (registry.insert command).owner? name = some command :=
  (hregistry.insert_of_accepts haccepts).owner?_eq_some.2
    ⟨hne, hregistry.mem_commands_insert.2 (.inl rfl), hname⟩

/-- A name that only the replaced command had is free. -/
theorem owner?_insert_of_released (hregistry : registry.WellFormed)
    (haccepts : registry.Accepts command replace) {replaced : Command η}
    (hreplaced : replaced ∈ registry.commands) (hkey : replaced.key = command.key)
    (hreleased : name ∈ replaced.names) (hname : name ∉ command.names) :
    (registry.insert command).owner? name = none := by
  rw [(hregistry.insert_of_accepts haccepts).owner?_eq_none]
  intro _ other hother hshared
  rcases hregistry.mem_commands_insert.1 hother with rfl | ⟨hother, hother_key⟩
  · exact hname hshared
  · obtain rfl := hregistry.owner_unique hother hreplaced hshared hreleased
    exact hother_key hkey

/-- A name that neither command has keeps its owner. -/
theorem owner?_insert_of_not_mem (hregistry : registry.WellFormed)
    (haccepts : registry.Accepts command replace) (hname : name ∉ command.names)
    (hkept : ∀ replaced ∈ registry.commands, replaced.key = command.key → name ∉ replaced.names) :
    (registry.insert command).owner? name = registry.owner? name := by
  refine hregistry.owner?_congr (hregistry.insert_of_accepts haccepts) fun other hother => ?_
  rw [hregistry.mem_commands_insert]
  constructor
  · rintro (rfl | ⟨hmem, -⟩)
    · exact absurd hother hname
    · exact hmem
  · exact fun hmem => .inr ⟨hmem, fun hkey => hkept other hmem hkey hother⟩

end Owners

/-! ### Removal -/

/-- The command of the key is taken out, and the others stay in order. -/
theorem commands_unregister (hregistry : registry.WellFormed) (name : String) :
    (registry.unregister name).2.commands =
      registry.commands.filter fun command => command.key != Text.lower name := by
  rw [Registry.unregister, commands, commands, List.filter_map]
  refine congrArg _ (List.filter_congr fun entry hentry => ?_)
  rw [Function.comp_apply, hregistry.key_eq entry hentry]

theorem mem_commands_unregister (hregistry : registry.WellFormed) {name : String} :
    command ∈ (registry.unregister name).2.commands ↔
      command ∈ registry.commands ∧ command.key ≠ Text.lower name := by
  rw [hregistry.commands_unregister, List.mem_filter, bne_iff_ne]

/-- All names of the command that is taken out are free. -/
theorem owner?_unregister_of_mem (hregistry : registry.WellFormed) {name wanted : String}
    {removed : Command η} (hremoved : removed ∈ registry.commands) (hkey : removed.key = Text.lower name)
    (hwanted : wanted ∈ removed.names) : (registry.unregister name).2.owner? wanted = none := by
  rw [(hregistry.unregister name).owner?_eq_none]
  intro _ other hother hshared
  rw [hregistry.mem_commands_unregister] at hother
  obtain rfl := hregistry.owner_unique hother.1 hremoved hshared hwanted
  exact hother.2 hkey

theorem owner?_unregister_of_not_mem (hregistry : registry.WellFormed) {name wanted : String}
    (hkept : ∀ removed ∈ registry.commands, removed.key = Text.lower name → wanted ∉ removed.names) :
    (registry.unregister name).2.owner? wanted = registry.owner? wanted := by
  refine hregistry.owner?_congr (hregistry.unregister name) fun other hother => ?_
  rw [hregistry.mem_commands_unregister]
  exact and_iff_left_of_imp fun hmem hkey => hkept other hmem hkey hother

end WellFormed

/-! ### Calls -/

/-- What the registration of a command does to look-ups and to the order of the commands. -/
structure Registered (registry : Registry η) (command : Command η) (changed : Registry η) : Prop where
  given : ∀ name marker, normalize name marker ≠ "" → normalize name marker ∈ command.names →
    changed.resolve? name marker = some command
  released : ∀ name marker, ∀ replaced ∈ registry.commands, replaced.key = command.key →
    normalize name marker ∈ replaced.names → normalize name marker ∉ command.names →
      changed.resolve? name marker = none
  kept : ∀ name marker, normalize name marker ∉ command.names →
    (∀ replaced ∈ registry.commands, replaced.key = command.key →
      normalize name marker ∉ replaced.names) →
        changed.resolve? name marker = registry.resolve? name marker
  inPlace : ∀ replaced ∈ registry.commands, replaced.key = command.key →
    ∃ before after, registry.commands = before ++ replaced :: after ∧
      changed.commands = before ++ command :: after
  last : (∀ other ∈ registry.commands, other.key ≠ command.key) →
    changed.commands = registry.commands ++ [command]

/-- What a removal gives back, and what it does to look-ups and to the order of the commands. -/
structure Unregistered (registry : Registry η) (name : String) (removed? : Option (Command η))
    (changed : Registry η) : Prop where
  removed : removed? = registry.commands.find? (·.key == Text.lower name)
  commands_eq : changed.commands = registry.commands.filter (·.key != Text.lower name)
  released : ∀ wanted marker, ∀ removed ∈ registry.commands, removed.key = Text.lower name →
    normalize wanted marker ∈ removed.names → changed.resolve? wanted marker = none
  kept : ∀ wanted marker,
    (∀ removed ∈ registry.commands, removed.key = Text.lower name →
      normalize wanted marker ∉ removed.names) →
        changed.resolve? wanted marker = registry.resolve? wanted marker

theorem WellFormed.registered {registry : Registry η} (hregistry : registry.WellFormed)
    {command : Command η} {replace : Bool} (haccepts : registry.Accepts command replace) :
    registry.Registered command (registry.insert command) where
  given name marker hne hname := by
    rw [(hregistry.insert_of_accepts haccepts).resolve?_eq_owner?]
    exact hregistry.owner?_insert_of_mem haccepts hne hname
  released name marker replaced hreplaced hkey hreleased hname := by
    rw [(hregistry.insert_of_accepts haccepts).resolve?_eq_owner?]
    exact hregistry.owner?_insert_of_released haccepts hreplaced hkey hreleased hname
  kept name marker hname hkept := by
    rw [(hregistry.insert_of_accepts haccepts).resolve?_eq_owner?, hregistry.resolve?_eq_owner?]
    exact hregistry.owner?_insert_of_not_mem haccepts hname hkept
  inPlace _ := hregistry.commands_insert_of_mem
  last := hregistry.commands_insert_of_vacant

theorem WellFormed.unregistered {registry : Registry η} (hregistry : registry.WellFormed)
    (name : String) :
    registry.Unregistered name (registry.unregister name).1 (registry.unregister name).2 where
  removed := hregistry.find?_eq _
  commands_eq := hregistry.commands_unregister name
  released wanted marker removed hremoved hkey hwanted := by
    rw [(hregistry.unregister name).resolve?_eq_owner?]
    exact hregistry.owner?_unregister_of_mem hremoved hkey hwanted
  kept wanted marker hkept := by
    rw [(hregistry.unregister name).resolve?_eq_owner?, hregistry.resolve?_eq_owner?]
    exact hregistry.owner?_unregister_of_not_mem hkept

/-- Whatever was registered and removed before, a registration goes through iff the command is accepted;
then its names are looked up with success, all but the empty one, the names that only a replaced command
had are free, and nothing else changes but the place of the command. Otherwise the call fails, for a blank
name or for one that is taken, and the registry is the same. A removal takes out the command of the key,
with all its names and without a change to the others. -/
theorem changes_move_names (changes : List (Change η)) :
    let registry : Registry η := empty.run changes
    (∀ command replace,
      let changed := registry.change (.register command replace)
      (registry.Accepts command replace →
        registry.register command replace = .ok changed ∧ registry.Registered command changed) ∧
      (¬ registry.Accepts command replace → changed = registry ∧
        ∃ failure, registry.register command replace = .error failure ∧
          if Text.trim command.name = "" then failure = .blankName
          else ∃ name claimedBy, failure = .nameTaken name claimedBy)) ∧
    ∀ name, registry.Unregistered name (registry.unregister name).1
      (registry.change (.unregister name)) := by
  intro registry
  have hregistry : registry.WellFormed := wellFormed_empty.run changes
  refine ⟨fun command replace => ⟨fun haccepts => ?_, fun hrefused => ?_⟩, hregistry.unregistered⟩
  · have hregister := hregistry.register_eq_ok_iff.2 ⟨haccepts, rfl⟩
    rw [change, hregister]
    exact ⟨rfl, hregistry.registered haccepts⟩
  · cases hregister : registry.register command replace with
    | ok changed => exact absurd (hregistry.register_eq_ok_iff.1 hregister).1 hrefused
    | error failure =>
        rw [change, hregister]
        exact ⟨rfl, failure, rfl, register_eq_error hregister⟩

/-- A command that claims the empty name for an alias. -/
def unnamedAlias : Command Unit :=
  ⟨"ping", "", .utility, [""], "/ping", [], true, ()⟩

/-- A command may claim the empty name, but the empty name is not looked up. -/
theorem empty_alias_is_not_found :
    (empty : Registry Unit).register unnamedAlias false = .ok (empty.insert unnamedAlias) ∧
      normalize "" "/" ∈ unnamedAlias.names ∧
      (empty.insert unnamedAlias).resolve? "" "/" = none ∧
      ¬ ∀ name marker, normalize name marker ∈ unnamedAlias.names →
        (empty.insert unnamedAlias).resolve? name marker = some unnamedAlias := by
  have haccepts : (empty : Registry Unit).Accepts unnamedAlias false :=
    ⟨by decide, .inl nofun, nofun, by decide⟩
  have hname : normalize "" "/" ∈ unnamedAlias.names := by decide
  have hnone : (empty.insert unnamedAlias).resolve? "" "/" = none := by
    rw [resolve?_eq, if_pos (by decide)]
  refine ⟨wellFormed_empty.register_eq_ok_iff.2 ⟨haccepts, rfl⟩, hname, hnone, fun hfound => ?_⟩
  cases hnone.symm.trans (hfound "" "/" hname)

end Registry

end Jotter
