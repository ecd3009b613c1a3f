import Mathlib.Data.List.Nodup
import Mathlib.Data.List.Pairwise
import Jotter.Command.Registry

/-! Who answers to a name. Whatever is registered and removed, commands are filed under their own keys
and no two of them claim the same name; so a name that is looked up has one command or none, and it does
not matter in which order the commands stand or which of their names are compared first. -/

namespace Jotter

variable {η : Type}

theorem Command.key_mem_names (command : Command η) : command.key ∈ command.names :=
  List.mem_cons_self

/-- The names of a command are its key and its aliases. -/
theorem Command.mem_names {command : Command η} {name : String} :
    name ∈ command.names ↔
      (command.key == name) = true ∨ (command.aliases.map Text.lower).contains name = true := by
  rw [names, List.mem_cons, List.contains_iff_mem, beq_iff_eq, eq_comm]

namespace Registry

/-! ### Changes -/

/-- A call that changes a registry. -/
inductive Change (η : Type) where
  | register (command : Command η) (replace : Bool)
  | unregister (name : String)

/-- The registry after a call, which is the same one if the call fails. -/
def change (registry : Registry η) : Change η → Registry η
  | .register command replace =>
    match registry.register command replace with
    | .ok changed => changed
    | .error _ => registry
  | .unregister name => (registry.unregister name).2

def run (registry : Registry η) (changes : List (Change η)) : Registry η :=
  changes.foldl change registry

theorem mem_others {registry : Registry η} {command other : Command η} :
    other ∈ registry.others command ↔ other ∈ registry.commands ∧ other.key ≠ command.key := by
  rw [others, List.mem_filter, bne_iff_ne]

theorem mem_commands {registry : Registry η} {command : Command η} :
    command ∈ registry.commands ↔ ∃ key, (key, command) ∈ registry.entries := by
  rw [commands, List.mem_map]
  constructor
  · rintro ⟨⟨key, filed⟩, hentry, rfl⟩
    exact ⟨key, hentry⟩
  · rintro ⟨key, hentry⟩
    exact ⟨(key, command), hentry, rfl⟩

theorem conflict?_cons {rest : List (Command η)} {command : Command η} {seen names : List String}
    {name : String} :
    conflict? rest command seen (name :: names) = none ↔
      (∀ other ∈ rest, name ∉ other.names) ∧ (name ≠ command.key → name ∉ seen) ∧
      conflict? rest command (name :: seen) names = none := by
  rw [conflict?]
  cases hclaimed : rest.find? (·.names.contains name) with
  | some other =>
      have hmem := List.mem_of_find?_eq_some hclaimed
      have hname : name ∈ other.names := by simpa using List.find?_some hclaimed
      simp only [reduceCtorEq, false_iff]
      rintro ⟨hfree, -⟩
      exact hfree other hmem hname
  | none =>
      have hfree : ∀ other ∈ rest, name ∉ other.names := by simpa using hclaimed
      by_cases htwice : name ∈ seen ∧ name ≠ command.key
      · simp [htwice.1, htwice.2]
      · have hnew : name ≠ command.key → name ∉ seen := fun hne hmem => htwice ⟨hmem, hne⟩
        dsimp only
        rw [if_neg (by simpa using htwice)]
        exact ⟨fun h => ⟨hfree, hnew, h⟩, fun h => h.2.2⟩

/-- The names of a command are free if no other command claims one of them and no name other than the
key stands twice. -/
theorem conflict?_eq_none {rest : List (Command η)} {command : Command η} {seen names : List String} :
    conflict? rest command seen names = none ↔
      (∀ name ∈ names, ∀ other ∈ rest, name ∉ other.names) ∧
      (names.filter (· ≠ command.key)).Nodup ∧
      ∀ name ∈ names, name ≠ command.key → name ∉ seen := by
  induction names generalizing seen with
  | nil => simp [conflict?]
  | cons name names ih =>
      rw [conflict?_cons, ih, List.forall_mem_cons, List.forall_mem_cons]
      by_cases hkey : name = command.key
      · rw [List.filter_cons_of_neg (by simp [hkey])]
        constructor
        · rintro ⟨hfree, hnew, hnames, hnodup, hseen⟩
          refine ⟨⟨hfree, hnames⟩, hnodup, hnew, ?_⟩
          exact fun other h hne hmem => hseen other h hne (List.mem_cons_of_mem _ hmem)
        · rintro ⟨⟨hfree, hnames⟩, hnodup, hnew, hseen⟩
          refine ⟨hfree, hnew, hnames, hnodup, fun other h hne hmem => ?_⟩
          rcases List.mem_cons.1 hmem with rfl | hmem
          · exact hne hkey
          · exact hseen other h hne hmem
      · rw [List.filter_cons_of_pos (by simp [hkey]), List.nodup_cons, List.mem_filter]
        constructor
        · rintro ⟨hfree, hnew, hnames, hnodup, hseen⟩
          refine ⟨⟨hfree, hnames⟩, ⟨?_, hnodup⟩, hnew, ?_⟩
          · exact fun h => hseen name h.1 hkey List.mem_cons_self
          · exact fun other h hne hmem => hseen other h hne (List.mem_cons_of_mem _ hmem)
        · rintro ⟨⟨hfree, hnames⟩, ⟨honce, hnodup⟩, hnew, hseen⟩
          refine ⟨hfree, hnew, hnames, hnodup, fun other h hne hmem => ?_⟩
          rcases List.mem_cons.1 hmem with rfl | hmem
          · exact honce ⟨h, decide_eq_true hne⟩
          · exact hseen other h hne hmem

/-- When a registration goes through, and what it does. -/
theorem register_eq_ok {registry changed : Registry η} {command : Command η} {replace : Bool} :
    registry.register command replace = .ok changed ↔
      (Text.trim command.name).isEmpty = false ∧
      (registry.find? command.key = none ∨ replace = true) ∧
      (∀ other ∈ registry.others command, ∀ name ∈ command.names, name ∉ other.names) ∧
      ((command.aliases.map Text.lower).filter (· ≠ command.key)).Nodup ∧
      changed = registry.insert command := by
  have hfilter : command.names.filter (· ≠ command.key) =
      (command.aliases.map Text.lower).filter (· ≠ command.key) :=
    List.filter_cons_of_neg (by simp)
  have hconflict : conflict? (registry.others command) command [] command.names = none ↔
      (∀ other ∈ registry.others command, ∀ name ∈ command.names, name ∉ other.names) ∧
      ((command.aliases.map Text.lower).filter (· ≠ command.key)).Nodup := by
    rw [conflict?_eq_none, hfilter]
    constructor
    · exact fun h => ⟨fun other hother name hname => h.1 name hname other hother, h.2.1⟩
    · exact fun h => ⟨fun name hname other hother => h.1 other hother name hname, h.2,
        fun _ _ _ => List.not_mem_nil⟩
  rw [← and_assoc (a := ∀ other ∈ _, _), ← hconflict]
  unfold register
  cases (Text.trim command.name).isEmpty with
  | true => simp
  | false =>
      cases conflict? (registry.others command) command [] command.names with
      | some failure => cases registry.find? command.key <;> cases replace <;> simp
      | none => cases registry.find? command.key <;> cases replace <;> simp [eq_comm]

/-! ### Claims -/

/-- What every registry keeps that is made by changes to the empty one. -/
structure WellFormed (registry : Registry η) : Prop where
  key_eq : ∀ entry ∈ registry.entries, entry.1 = entry.2.key
  disjoint : registry.commands.Pairwise fun command other => command.names.Disjoint other.names
  nodup : ∀ command ∈ registry.commands,
    ((command.aliases.map Text.lower).filter (· ≠ command.key)).Nodup

theorem wellFormed_empty : (empty : Registry η).WellFormed where
  key_eq _ h := absurd h List.not_mem_nil
  disjoint := List.Pairwise.nil
  nodup _ h := absurd h List.not_mem_nil

namespace WellFormed

variable {registry : Registry η}

/-- A name has one owner at most. -/
theorem owner_unique (hregistry : registry.WellFormed) {name : String} {command other : Command η}
    (hcommand : command ∈ registry.commands) (hother : other ∈ registry.commands)
    (hname : name ∈ command.names) (hshared : name ∈ other.names) : command = other := by
  have hsymm : Std.Symm fun command other : Command η => command.names.Disjoint other.names :=
    ⟨fun _ _ hapart _ hname hshared => hapart hshared hname⟩
  by_contra hne
  exact hregistry.disjoint.forall hcommand hother hne hname hshared

theorem find?_eq_some (hregistry : registry.WellFormed) {key : String} {command : Command η} :
    registry.find? key = some command ↔ command ∈ registry.commands ∧ key = command.key := by
  rw [find?, List.lookup_eq_some_iff]
  constructor
  · rintro ⟨before, after, hentries, -⟩
    have hentry : (key, command) ∈ registry.entries := by simp [hentries]
    exact ⟨mem_commands.2 ⟨key, hentry⟩, hregistry.key_eq _ hentry⟩
  · rintro ⟨hcommand, rfl⟩
    obtain ⟨key, hentry⟩ := mem_commands.1 hcommand
    obtain rfl : key = command.key := hregistry.key_eq _ hentry
    obtain ⟨before, after, hentries⟩ := List.append_of_mem hentry
    refine ⟨before, after, hentries, ?_⟩
    intro entry hbefore
    have hdisjoint := hregistry.disjoint
    rw [commands, hentries, List.pairwise_map, List.pairwise_append] at hdisjoint
    have hapart := hdisjoint.2.2 entry hbefore _ List.mem_cons_self
    have hkey := hregistry.key_eq entry (by simp [hentries, hbefore])
    rw [bne_iff_ne, hkey]
    intro hsame
    exact hapart entry.2.key_mem_names (hsame ▸ command.key_mem_names)

theorem find?_eq_none (hregistry : registry.WellFormed) {key : String} :
    registry.find? key = none ↔ ∀ command ∈ registry.commands, command.key ≠ key := by
  rw [Option.eq_none_iff_forall_not_mem]
  constructor
  · rintro hnone command hcommand rfl
    exact hnone command (hregistry.find?_eq_some.2 ⟨hcommand, rfl⟩)
  · intro hkeys command hfound
    obtain ⟨hcommand, hkey⟩ := hregistry.find?_eq_some.1 hfound
    exact hkeys command hcommand hkey.symm

/-- A command may take the place of the one of its key if its names are free. -/
theorem replace (hregistry : registry.WellFormed) {command : Command η}
    (hfree : ∀ other ∈ registry.others command, command.names.Disjoint other.names)
    (hnodup : ((command.aliases.map Text.lower).filter (· ≠ command.key)).Nodup) :
    WellFormed ⟨registry.entries.map fun entry =>
      if entry.1 = command.key then (entry.1, command) else entry⟩ := by
  have hentries : ∀ entry ∈ registry.entries, entry.1 ≠ command.key →
      command.names.Disjoint entry.2.names := by
    intro entry hentry hkey
    rw [hregistry.key_eq entry hentry] at hkey
    exact hfree entry.2 (mem_others.2 ⟨mem_commands.2 ⟨_, hentry⟩, hkey⟩)
  refine ⟨?_, ?_, ?_⟩
  · intro entry hentry
    obtain ⟨old, hold, rfl⟩ := List.mem_map.1 hentry
    split
    · assumption
    · exact hregistry.key_eq old hold
  · rw [commands, List.map_map, List.pairwise_map]
    refine (List.pairwise_map.1 hregistry.disjoint).imp_of_mem ?_
    intro entry other hentry hother hapart
    dsimp only [Function.comp]
    -- two entries of the key do not occur, and the names of the others are free
    by_cases hfirst : entry.1 = command.key
    · by_cases hsecond : other.1 = command.key
      · have hkey := (hregistry.key_eq entry hentry).symm.trans hfirst
        have hsame := (hregistry.key_eq other hother).symm.trans hsecond
        have hshared : entry.2.key ∈ other.2.names := by
          rw [hkey, ← hsame]
          exact other.2.key_mem_names
        exact absurd hshared (hapart entry.2.key_mem_names)
      · rw [if_pos hfirst, if_neg hsecond]
        exact hentries other hother hsecond
    · by_cases hsecond : other.1 = command.key
      · rw [if_neg hfirst, if_pos hsecond]
        exact fun name hname hshared => hentries entry hentry hfirst hshared hname
      · rw [if_neg hfirst, if_neg hsecond]
        exact hapart
  · intro other hother
    obtain ⟨key, hentry⟩ := mem_commands.1 hother
    obtain ⟨old, hold, hreplaced⟩ := List.mem_map.1 hentry
    split at hreplaced
    · cases hreplaced
      exact hnodup
    · subst hreplaced
      exact hregistry.nodup other (mem_commands.2 ⟨key, hold⟩)

/-- A command of a new key may be put at the end if its names are free. -/
theorem append (hregistry : registry.WellFormed) {command : Command η}
    (hnew : registry.find? command.key = none)
    (hfree : ∀ other ∈ registry.others command, command.names.Disjoint other.names)
    (hnodup : ((command.aliases.map Text.lower).filter (· ≠ command.key)).Nodup) :
    WellFormed ⟨registry.entries ++ [(command.key, command)]⟩ := by
  have hkeys := hregistry.find?_eq_none.1 hnew
  have hcommands : commands ⟨registry.entries ++ [(command.key, command)]⟩ =
      registry.commands ++ [command] := List.map_append
  refine ⟨?_, ?_, ?_⟩
  · intro entry hentry
    rcases List.mem_append.1 hentry with hentry | hentry
    · exact hregistry.key_eq entry hentry
    · rw [List.mem_singleton.1 hentry]
  · rw [hcommands, List.pairwise_append]
    refine ⟨hregistry.disjoint, List.pairwise_singleton _ _, ?_⟩
    intro other hother _ hlast name hname hshared
    rw [List.mem_singleton.1 hlast] at hshared
    exact hfree other (mem_others.2 ⟨hother, hkeys other hother⟩) hshared hname
  · intro other hother
    rw [hcommands, List.mem_append, List.mem_singleton] at hother
    rcases hother with hother | rfl
    · exact hregistry.nodup other hother
    · exact hnodup

theorem insert (hregistry : registry.WellFormed) {command : Command η}
    (hfree : ∀ other ∈ registry.others command, command.names.Disjoint other.names)
    (hnodup : ((command.aliases.map Text.lower).filter (· ≠ command.key)).Nodup) :
    (registry.insert command).WellFormed := by
  rw [Registry.insert]
  split
  · exact hregistry.replace hfree hnodup
  · rename_i hnew
    exact hregistry.append (Option.not_isSome_iff_eq_none.1 hnew) hfree hnodup

theorem unregister (hregistry : registry.WellFormed) (name : String) :
    (registry.unregister name).2.WellFormed := by
  have hentries : (registry.unregister name).2.entries.Sublist registry.entries :=
    List.filter_sublist
  have hcommands : (registry.unregister name).2.commands.Sublist registry.commands :=
    hentries.map Prod.snd
  refine ⟨?_, hregistry.disjoint.sublist hcommands, ?_⟩
  · exact fun entry hentry => hregistry.key_eq entry (hentries.subset hentry)
  · exact fun command hcommand => hregistry.nodup command (hcommands.subset hcommand)

theorem change (hregistry : registry.WellFormed) (change : Change η) :
    (registry.change change).WellFormed := by
  cases change with
  | register command replace =>
      rw [Registry.change]
      cases hregister : registry.register command replace with
      | error failure => exact hregistry
      | ok changed =>
          obtain ⟨-, -, hfree, hnodup, rfl⟩ := register_eq_ok.1 hregister
          exact hregistry.insert (fun other hother name => hfree other hother name) hnodup
  | unregister name => exact hregistry.unregister name

theorem run (hregistry : registry.WellFormed) (changes : List (Change η)) :
    (registry.run changes).WellFormed := by
  induction changes generalizing registry with
  | nil => exact hregistry
  | cons change changes ih => exact ih (hregistry.change change)

end WellFormed

/-! ### Lookup -/

/-- A search ends at the only command that passes its test. -/
theorem find?_of_unique {row : List (Command η)} {test : Command η → Bool} {command : Command η}
    (hcommand : command ∈ row) (htest : test command = true)
    (hunique : ∀ other ∈ row, test other = true → other = command) :
    row.find? test = some command := by
  cases hfound : row.find? test with
  | none => exact absurd htest (List.find?_eq_none.1 hfound command hcommand)
  | some other =>
      rw [hunique other (List.mem_of_find?_eq_some hfound) (List.find?_some hfound)]

theorem resolve?_eq (registry : Registry η) (name marker : String) :
    registry.resolve? name marker =
      if (normalize name marker).isEmpty then none
      else (registry.find? (normalize name marker)).or (registry.commands.find? fun command =>
        (command.aliases.map Text.lower).contains (normalize name marker)) := by
  rw [resolve?]
  cases registry.find? (normalize name marker) <;> rfl

/-- What is found is registered. -/
theorem mem_commands_of_resolve? {registry : Registry η} {name marker : String} {command : Command η}
    (hcommand : registry.resolve? name marker = some command) : command ∈ registry.commands := by
  rw [resolve?_eq] at hcommand
  split at hcommand
  · cases hcommand
  rcases Option.or_eq_some_iff.1 hcommand with hfound | ⟨-, hfound⟩
  · obtain ⟨before, after, hentries, -⟩ := List.lookup_eq_some_iff.1 hfound
    exact mem_commands.2 ⟨_, hentries ▸ List.mem_append_right _ List.mem_cons_self⟩
  · exact List.mem_of_find?_eq_some hfound

/-- An invocation whose name is found has one. -/
theorem not_isEmpty_of_resolve? {registry : Registry η} {invocation : Invocation}
    {command : Command η}
    (hcommand : registry.resolve? invocation.name defaultMarker = some command) :
    invocation.isEmpty = false := by
  rw [Invocation.isEmpty, ← Bool.not_eq_true, String.isEmpty_iff]
  intro hname
  have hnormal : normalize "" defaultMarker = "" := by decide
  rw [hname, resolve?_eq, hnormal] at hcommand
  cases hcommand

namespace WellFormed

variable {registry : Registry η} {row : List (Command η)}

/-- Two searches, one after the other and in any order of the commands, find the owner of a name if
together they compare all the names. -/
theorem find?_or (hregistry : registry.WellFormed) (hrow : row.Perm registry.commands)
    {first second : Command η → Bool} {name : String}
    (hnames : ∀ command, name ∈ command.names ↔ first command = true ∨ second command = true)
    {command : Command η} :
    (row.find? first).or (row.find? second) = some command ↔
      command ∈ registry.commands ∧ name ∈ command.names := by
  rw [Option.or_eq_some_iff]
  constructor
  · rintro (hfound | ⟨-, hfound⟩)
    · exact ⟨hrow.subset (List.mem_of_find?_eq_some hfound),
        (hnames command).2 (.inl (List.find?_some hfound))⟩
    · exact ⟨hrow.subset (List.mem_of_find?_eq_some hfound),
        (hnames command).2 (.inr (List.find?_some hfound))⟩
  · rintro ⟨hcommand, hname⟩
    have hrowCommand := hrow.symm.subset hcommand
    have hunique : ∀ other ∈ row, first other = true ∨ second other = true → other = command :=
      fun other hother htest =>
        hregistry.owner_unique (hrow.subset hother) hcommand ((hnames other).2 htest) hname
    by_cases hfirst : first command = true
    · left
      exact find?_of_unique hrowCommand hfirst fun other hother htest =>
        hunique other hother (.inl htest)
    · right
      have hsecond := ((hnames command).1 hname).resolve_left hfirst
      refine ⟨?_, find?_of_unique hrowCommand hsecond fun other hother htest =>
        hunique other hother (.inr htest)⟩
      rw [List.find?_eq_none]
      intro other hother htest
      rw [hunique other hother (.inl htest)] at htest
      exact hfirst htest

/-- A filed command is found by its key, as if the commands were searched for it. -/
theorem find?_eq (hregistry : registry.WellFormed) (key : String) :
    registry.find? key = registry.commands.find? (·.key == key) := by
  apply Option.ext
  intro command
  rw [hregistry.find?_eq_some]
  constructor
  · rintro ⟨hcommand, rfl⟩
    refine find?_of_unique hcommand (beq_self_eq_true _) ?_
    intro other hother hkey
    refine hregistry.owner_unique hother hcommand other.key_mem_names ?_
    rw [eq_of_beq hkey]
    exact command.key_mem_names
  · intro hfound
    have hkey := List.find?_some hfound
    exact ⟨List.mem_of_find?_eq_some hfound, (eq_of_beq hkey).symm⟩

theorem resolve?_eq_some (hregistry : registry.WellFormed) {name marker : String}
    {command : Command η} :
    registry.resolve? name marker = some command ↔
      normalize name marker ≠ "" ∧ command ∈ registry.commands ∧
        normalize name marker ∈ command.names := by
  rw [resolve?_eq, hregistry.find?_eq]
  by_cases hempty : normalize name marker = ""
  · simp [hempty]
  · rw [if_neg (by simpa using hempty),
      hregistry.find?_or (List.Perm.refl _) (fun command => Command.mem_names)]
    exact (and_iff_right hempty).symm

/-- A name that is looked up is compared with all names in any order of the commands. -/
theorem resolve?_eq_find?_names (hregistry : registry.WellFormed)
    (hrow : row.Perm registry.commands) {name marker : String} (hne : normalize name marker ≠ "") :
    registry.resolve? name marker = row.find? (·.names.contains (normalize name marker)) := by
  apply Option.ext
  intro command
  rw [hregistry.resolve?_eq_some, ← Option.or_self (o := row.find? _),
    hregistry.find?_or hrow fun command => by rw [or_self, List.contains_iff_mem]]
  exact and_iff_right hne

end WellFormed

end Registry

end Jotter
