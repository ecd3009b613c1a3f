import Jotter.Proofs.Settings.Keys

/-! What stands at a path after one value is laid over another one. The upper value wins, except that two
mappings are laid over each other again; the lower one shows through where the upper one lacks a key. It is
enough for these laws that no mapping of the upper value has two entries with one key. -/

namespace Jotter.Setting

/-! ### Laying entries over others -/

/-- What an entry becomes above what stands under its key, if anything does. -/
def above (below : Option Setting) (value : Setting) : Setting :=
  match below with
  | some base => overlay base value
  | none => value

theorem overlayEntries_cons (below : List (String × Setting)) (entry : String × Setting)
    (entries : List (String × Setting)) :
    overlayEntries below (entry :: entries) =
      overlayEntries (put entry.1 (above (below.lookup entry.1) entry.2) below) entries := by
  obtain ⟨key, value⟩ := entry
  rw [overlayEntries]
  rfl

theorem overlay_mapping (below entries : List (String × Setting)) :
    overlay (mapping below) (mapping entries) = mapping (overlayEntries below entries) := by
  rw [overlay]

theorem overlay_of_not_isMapping {base value : Setting} (hvalue : ¬ (base.IsMapping ∧ value.IsMapping)) :
    overlay base value = value := by
  cases value with
  | mapping entries =>
      cases base with
      | mapping => exact absurd ⟨trivial, trivial⟩ hvalue
      | _ => rw [overlay]; simp
  | _ => rw [overlay]; simp

/-- A key has what the entry of the upper mapping becomes, or else what it has in the lower one. -/
theorem lookup_overlayEntries {entries : List (String × Setting)} (hkeys : (entries.map (·.1)).Nodup)
    (below : List (String × Setting)) (key : String) :
    (overlayEntries below entries).lookup key =
      match entries.lookup key with
      | some value => some (above (below.lookup key) value)
      | none => below.lookup key := by
  induction entries generalizing below with
  | nil => rfl
  | cons entry entries ih =>
      obtain ⟨hfresh, hrest⟩ := List.nodup_cons.1 hkeys
      rw [overlayEntries_cons, ih hrest, lookup_cons, lookup_put]
      by_cases hkey : key = entry.1
      · have hnone : entries.lookup key = none :=
          List.lookup_eq_none_iff.2 fun other hother =>
            bne_iff_ne.2 (hkey ▸ (ne_of_mem hfresh hother).symm)
        rw [hnone, if_pos hkey, if_pos hkey, hkey]
      · rw [if_neg hkey, if_neg hkey]

/-- Where the upper value has something, it stands there above what the lower one has. -/
theorem at?_overlay {value : Setting} (hdistinct : Distinct value) {path : List String} {found : Setting}
    (hfound : value.at? path = some found) (base : Setting) :
    (overlay base value).at? path = some (above (base.at? path) found) := by
  induction path generalizing value base with
  | nil =>
      cases hfound
      rfl
  | cons key keys ih =>
      obtain ⟨inner, hinner, hrest⟩ := Option.bind_eq_some_iff.1 hfound
      have hdeep := hdistinct.entry hinner
      by_cases hboth : base.IsMapping ∧ value.IsMapping
      · obtain ⟨⟨below, rfl⟩, entries, rfl⟩ := hboth.imp isMapping_iff.1 isMapping_iff.1
        have hover : (overlayEntries below entries).lookup key = some (above (below.lookup key) inner) := by
          rw [lookup_overlayEntries hdistinct.keys, show entries.lookup key = some inner from hinner]
        rw [overlay_mapping, at?, at?, entry?, entry?, hover, Option.bind_some]
        cases below.lookup key with
        | none => exact hrest
        | some lower => exact ih hdeep hrest lower
      · rw [overlay_of_not_isMapping hboth, hfound]
        have hbase : ¬ base.IsMapping := fun hbase => hboth ⟨hbase, isMapping_iff.2 ?_⟩
        · rw [at?_cons_of_not_isMapping hbase]
          rfl
        · cases value with
          | mapping entries => exact ⟨entries, rfl⟩
          | _ => cases hinner

/-- Something that is no mapping comes out on top of everything. -/
theorem above_of_not_isMapping {value : Setting} (hkind : ¬ value.IsMapping) (below : Option Setting) :
    above below value = value := by
  cases below with
  | none => rfl
  | some base => exact overlay_of_not_isMapping fun hboth => hkind hboth.2

/-- Everything comes out on top of something that is no mapping, and of nothing. -/
theorem above_of_base {below : Option Setting} (hbelow : ∀ entries, below ≠ some (mapping entries))
    (value : Setting) : above below value = value := by
  cases below with
  | none => rfl
  | some base =>
      refine overlay_of_not_isMapping fun hboth => ?_
      obtain ⟨entries, rfl⟩ := isMapping_iff.1 hboth.1
      exact hbelow entries rfl

/-! ### Paths that lead to nothing -/

/-- A path goes on through something that is no mapping. -/
def Blocks (value : Setting) (path : List String) : Prop :=
  ∃ front key rest inner, path = front ++ key :: rest ∧ value.at? front = some inner ∧ ¬ inner.IsMapping

/-- A path breaks off at a mapping without the next key. -/
def Lacks (value : Setting) (path : List String) : Prop :=
  ∃ front key rest entries, path = front ++ key :: rest ∧
    value.at? front = some (mapping entries) ∧ entries.lookup key = none

/-- Nothing is at a path in either of two values, or the upper one blocks it. -/
def Missing (base value : Setting) (path : List String) : Prop :=
  value.Blocks path ∨ value.at? path = none ∧ base.at? path = none

theorem blocks_or_lacks {value : Setting} {path : List String} (hnone : value.at? path = none) :
    value.Blocks path ∨ value.Lacks path := by
  induction path generalizing value with
  | nil => cases hnone
  | cons key keys ih =>
      by_cases hkind : value.IsMapping
      · obtain ⟨entries, rfl⟩ := isMapping_iff.1 hkind
        cases hentry : entries.lookup key with
        | none => exact .inr ⟨[], key, keys, entries, rfl, rfl, hentry⟩
        | some inner =>
            have hdown (path : List String) : (mapping entries).at? (key :: path) = inner.at? path := by
              rw [at?, entry?, hentry]
              rfl
            rw [hdown] at hnone
            refine (ih hnone).imp ?_ ?_
            all_goals
              rintro ⟨front, last, rest, deep, rfl, hdeep, hend⟩
              exact ⟨key :: front, last, rest, deep, rfl, (hdown front).trans hdeep, hend⟩
      · exact .inl ⟨[], key, keys, value, rfl, rfl, hkind⟩

section

variable {value : Setting} (hdistinct : Distinct value) (base : Setting) {path : List String}
include hdistinct

theorem at?_overlay_of_blocks (hblocks : value.Blocks path) : (overlay base value).at? path = none := by
  obtain ⟨front, key, rest, inner, rfl, hinner, hkind⟩ := hblocks
  rw [at?_append, at?_overlay hdistinct hinner, above_of_not_isMapping hkind]
  exact at?_cons_of_not_isMapping hkind key rest

/-- Below a key that the upper value lacks stands what the lower one has. -/
theorem at?_overlay_of_lacks (hlacks : value.Lacks path) : (overlay base value).at? path = base.at? path := by
  obtain ⟨front, key, rest, entries, rfl, hreached, hkey⟩ := hlacks
  have hkeys : (entries.map (·.1)).Nodup := hdistinct front entries hreached
  rw [at?_append, at?_append, at?_overlay hdistinct hreached, Option.bind_some]
  by_cases hbelow : ∀ below, base.at? front ≠ some (mapping below)
  -- where the lower value has no mapping either, neither of the two goes on
  · rw [above_of_base hbelow, at?, entry?, hkey]
    cases hlower : base.at? front with
    | none => rfl
    | some lower =>
        have hkind : ¬ lower.IsMapping := fun hkind => by
          obtain ⟨below, rfl⟩ := isMapping_iff.1 hkind
          exact hbelow below hlower
        rw [Option.bind_some, at?_cons_of_not_isMapping hkind]
        rfl
  · obtain ⟨below, hlower⟩ := not_forall_not.1 hbelow
    rw [hlower, above, overlay_mapping, at?, entry?, lookup_overlayEntries hkeys, hkey]
    rfl

theorem at?_overlay_eq_none_iff : (overlay base value).at? path = none ↔ Missing base value path := by
  constructor
  · intro hnone
    cases hvalue : value.at? path with
    | some found =>
        rw [at?_overlay hdistinct hvalue] at hnone
        cases hnone
    | none =>
        refine (blocks_or_lacks hvalue).imp_right fun hlacks => ⟨hvalue, ?_⟩
        rw [← at?_overlay_of_lacks hdistinct base hlacks, hnone]
  · rintro (hblocks | ⟨hvalue, hbase⟩)
    · exact at?_overlay_of_blocks hdistinct base hblocks
    · rcases blocks_or_lacks hvalue with hblocks | hlacks
      · exact at?_overlay_of_blocks hdistinct base hblocks
      · rw [at?_overlay_of_lacks hdistinct base hlacks, hbase]

end

/-! ### Laying over again -/

/-- Entries that change nothing one by one change nothing at all. -/
theorem overlayEntries_eq_self {below entries : List (String × Setting)}
    (hsettled : ∀ entry ∈ entries, ∃ base, below.lookup entry.1 = some base ∧ overlay base entry.2 = base) :
    overlayEntries below entries = below := by
  induction entries with
  | nil => rfl
  | cons entry entries ih =>
      obtain ⟨⟨base, hbase, hsame⟩, hrest⟩ := List.forall_mem_cons.1 hsettled
      rw [overlayEntries_cons, hbase, above, hsame, put_eq_self hbase]
      exact ih hrest

theorem overlay_self {value : Setting} (hdistinct : Distinct value) : overlay value value = value := by
  induction value using treeInduction with
  | leaf value hleaf => exact overlay_of_not_isMapping fun hboth => hleaf.not_isMapping hboth.1
  | text value => exact overlay_of_not_isMapping And.left
  | list items _ => exact overlay_of_not_isMapping And.left
  | mapping entries ih =>
      rw [overlay_mapping, overlayEntries_eq_self fun entry hentry =>
        ⟨entry.2, lookup_eq_some hdistinct.keys hentry, ih entry hentry (hdistinct.mem hentry)⟩]

theorem overlay_overlay {value : Setting} (hdistinct : Distinct value) (base : Setting) :
    overlay (overlay base value) value = overlay base value := by
  induction value using treeInduction generalizing base with
  | leaf value hleaf =>
      have htop (lower : Setting) : overlay lower value = value :=
        overlay_of_not_isMapping fun hboth => hleaf.not_isMapping hboth.2
      rw [htop, htop]
  | text value => exact overlay_of_not_isMapping And.right
  | list items _ => exact overlay_of_not_isMapping And.right
  | mapping entries ih =>
      by_cases hbase : base.IsMapping
      · obtain ⟨below, rfl⟩ := isMapping_iff.1 hbase
        rw [overlay_mapping, overlay_mapping, overlayEntries_eq_self fun entry hentry => ?_]
        have hdeep := hdistinct.mem hentry
        have hover := lookup_overlayEntries hdistinct.keys below entry.1
        rw [lookup_eq_some hdistinct.keys hentry] at hover
        refine ⟨_, hover, ?_⟩
        cases below.lookup entry.1 with
        | none => exact overlay_self hdeep
        | some lower => exact ih entry hentry hdeep lower
      · rw [overlay_of_not_isMapping fun hboth => hbase hboth.1]
        exact overlay_self hdistinct

end Jotter.Setting

namespace Jotter

open Setting

/-- A configuration of a text holds the settings of the text, with what its references stand for, over the
standing ones; neither of them has two entries with one key. -/
theorem Configuration.content_of_ofText {environment : Environment} {file text : String}
    {configuration : Configuration}
    (hconfiguration : ofDocument environment file (.ofText text) = .ok configuration) :
    ∃ own, (Document.ofText text).entries file = .ok own ∧
      Distinct (mapping standing) ∧ Distinct (mapping (expandEntries environment own)) ∧
      configuration.content = mapping (overlayEntries standing (expandEntries environment own)) := by
  unfold ofDocument at hconfiguration
  cases hown : (Document.ofText text).entries file with
  | error failure =>
      rw [hown] at hconfiguration
      cases hconfiguration
  | ok own =>
      rw [hown] at hconfiguration
      cases hconfiguration
      exact ⟨own, rfl, distinct_standing, (Document.distinct_of_entries hown).expand environment, rfl⟩

/-- What is at a path in `merged`, which is one value laid over another one. -/
structure LaidOver (base own merged : Setting) (path : List String) : Prop where
  wins : ∀ value, own.at? path = some value → ¬ value.IsMapping → merged.at? path = some value
  stands : ∀ entries, own.at? path = some (mapping entries) →
    (∀ below, base.at? path ≠ some (mapping below)) → merged.at? path = some (mapping entries)
  joins : ∀ entries below, own.at? path = some (mapping entries) → base.at? path = some (mapping below) →
    merged.at? path = some (mapping (overlayEntries below entries))
  /-- This holds even if the lower value has no mapping where the upper one lacks a key. -/
  shows : own.Lacks path → merged.at? path = base.at? path
  missing : merged.at? path = none ↔ Missing base own path

theorem laidOver_overlay {own : Setting} (hown : Distinct own) (base : Setting) (path : List String) :
    LaidOver base own (overlay base own) path where
  wins value hvalue hkind := by rw [at?_overlay hown hvalue, above_of_not_isMapping hkind]
  stands entries hentries hbelow := by rw [at?_overlay hown hentries, above_of_base hbelow]
  joins entries below hentries hbelow := by rw [at?_overlay hown hentries, hbelow, above, overlay_mapping]
  shows := at?_overlay_of_lacks hown base
  missing := at?_overlay_eq_none_iff hown base

/-- One mapping laid over another has at each path what its own value says, or what shows through from
below. Laying over nothing, itself or once more changes nothing, and a configuration falls back only where
there is nothing. -/
theorem own_settings_win {base own : List (String × Setting)} (hbase : Distinct (mapping base))
    (hown : Distinct (mapping own)) :
    (∀ path, LaidOver (mapping base) (mapping own) (mapping (overlayEntries base own)) path) ∧
      overlayEntries base [] = base ∧ overlayEntries base base = base ∧
      overlayEntries (overlayEntries base own) own = overlayEntries base own ∧
      ∀ configuration : Configuration, configuration.content = mapping (overlayEntries base own) →
        ∀ path, let keys := Text.split '.' path
          (Missing (mapping base) (mapping own) keys →
            ∀ fallback, configuration.value path fallback = fallback) ∧
          (¬ Missing (mapping base) (mapping own) keys → ∃ value,
            (mapping (overlayEntries base own)).at? keys = some value ∧
              ∀ fallback, configuration.value path fallback = value) := by
  have hpaths := laidOver_overlay hown (mapping base)
  have hself := overlay_self hbase
  have hagain := overlay_overlay hown (mapping base)
  simp only [overlay_mapping, mapping.injEq] at hpaths hself hagain
  refine ⟨hpaths, rfl, hself, hagain, fun configuration hcontent path => ?_⟩
  dsimp only
  rw [← (hpaths _).missing]
  simp only [Configuration.value, Configuration.value?, hcontent]
  refine ⟨fun hnone fallback => by rw [hnone]; rfl, fun hsome => ?_⟩
  obtain ⟨value, hvalue⟩ := Option.ne_none_iff_exists'.1 hsome
  exact ⟨value, hvalue, fun fallback => by rw [hvalue]; rfl⟩

/-- A mapping over another one, nothing in the place of a mapping, and a mapping in the place of a text. -/
theorem own_marker_wins :
    let base := [("commands", mapping [("marker", .text "/"), ("history_size", .integer 50)]),
      ("cli", mapping [("theme", .text "default")]), ("logging", .text "INFO")]
    let own := [("commands", mapping [("marker", .text "!")]), ("cli", .null),
      ("logging", mapping [("level", .text "DEBUG")])]
    let merged := overlayEntries base own
    Distinct (mapping base) ∧ Distinct (mapping own) ∧
      (mapping merged).at? ["commands", "marker"] = some (.text "!") ∧
      (mapping merged).at? ["commands", "history_size"] = some (.integer 50) ∧
      (mapping merged).at? ["cli", "theme"] = none ∧
      (mapping merged).at? ["logging"] = some (mapping [("level", .text "DEBUG")]) ∧
      overlayEntries merged own = merged ∧
      ∀ fallback, Configuration.value ⟨none, mapping merged⟩ "cli.theme" fallback = fallback := by
  intro base own merged
  have hbase : Distinct (mapping base) := by decide
  have hown : Distinct (mapping own) := by decide
  obtain ⟨hpaths, -, -, hagain, hvalue⟩ := own_settings_win hbase hown
  have hblocks : Missing (mapping base) (mapping own) ["cli", "theme"] :=
    .inl ⟨["cli"], "theme", [], .null, rfl, rfl, id⟩
  have hlacks : Lacks (mapping own) ["commands", "history_size"] :=
    ⟨["commands"], "history_size", [], [("marker", .text "!")], rfl, rfl, rfl⟩
  have hkeys : Text.split '.' "cli.theme" = ["cli", "theme"] := by decide
  exact ⟨hbase, hown, (hpaths ["commands", "marker"]).wins _ rfl id, (hpaths _).shows hlacks,
    (hpaths _).missing.2 hblocks, (hpaths ["logging"]).stands _ rfl nofun, hagain,
    (hvalue ⟨none, mapping merged⟩ rfl "cli.theme").1 (hkeys ▸ hblocks)⟩

end Jotter
