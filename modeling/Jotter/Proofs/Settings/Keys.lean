import Jotter.Proofs.Settings.Shape
import Jotter.Settings.Configuration

/-! The keys of mappings. Of two entries with one key only the later one is read, so that no mapping of a
document has two of them, wherever a path of keys leads to it; this outlasts the substitution of references.
The standing settings have none either. -/

namespace Jotter.Setting

def IsMapping : Setting → Prop
  | mapping _ => True
  | _ => False

theorem isMapping_iff {value : Setting} : value.IsMapping ↔ ∃ entries, value = mapping entries := by
  cases value with
  | mapping entries => exact ⟨fun _ => ⟨entries, rfl⟩, fun _ => trivial⟩
  | _ => exact ⟨False.elim, nofun⟩

theorem IsLeaf.not_isMapping {value : Setting} (hleaf : IsLeaf value) : ¬ value.IsMapping := by
  rintro hmapping
  obtain ⟨entries, rfl⟩ := isMapping_iff.1 hmapping
  exact hleaf

/-! ### Look-up -/

theorem at?_append (value : Setting) (front rest : List String) :
    value.at? (front ++ rest) = (value.at? front).bind (·.at? rest) := by
  induction front generalizing value with
  | nil => rfl
  | cons key front ih =>
      rw [List.cons_append, at?, at?]
      cases value.entry? key with
      | none => rfl
      | some inner => exact ih inner

theorem at?_cons_of_not_isMapping {value : Setting} (hvalue : ¬ value.IsMapping) (key : String)
    (keys : List String) : value.at? (key :: keys) = none := by
  cases value with
  | mapping => exact absurd trivial hvalue
  | _ => rfl

theorem lookup_cons (entry : String × Setting) (entries : List (String × Setting)) (key : String) :
    (entry :: entries).lookup key = if key = entry.1 then some entry.2 else entries.lookup key := by
  rw [List.lookup_cons]
  by_cases hkey : key = entry.1
  · rw [if_pos hkey, hkey, beq_self_eq_true]
  · rw [if_neg hkey, beq_false_of_ne hkey]

theorem mem_of_lookup {entries : List (String × Setting)} {key : String} {value : Setting}
    (hvalue : entries.lookup key = some value) : (key, value) ∈ entries := by
  obtain ⟨front, behind, rfl, -⟩ := List.lookup_eq_some_iff.1 hvalue
  exact List.mem_append_right front List.mem_cons_self

theorem ne_of_mem {entry : String × Setting} {entries : List (String × Setting)}
    (hfresh : entry.1 ∉ entries.map (·.1)) {other : String × Setting} (hother : other ∈ entries) :
    other.1 ≠ entry.1 :=
  fun hsame => hfresh (List.mem_map.2 ⟨other, hother, hsame⟩)

theorem lookup_eq_some {entries : List (String × Setting)} (hkeys : (entries.map (·.1)).Nodup)
    {entry : String × Setting} (hentry : entry ∈ entries) : entries.lookup entry.1 = some entry.2 := by
  induction entries with
  | nil => cases hentry
  | cons first entries ih =>
      obtain ⟨hfresh, hrest⟩ := List.nodup_cons.1 hkeys
      rw [lookup_cons]
      rcases List.mem_cons.1 hentry with rfl | hentry
      · rw [if_pos rfl]
      · rw [if_neg (ne_of_mem hfresh hentry)]
        exact ih hrest hentry

/-! ### Putting an entry into a mapping -/

theorem lookup_put (key : String) (value : Setting) (entries : List (String × Setting)) (other : String) :
    (put key value entries).lookup other = if other = key then some value else entries.lookup other := by
  induction entries with
  | nil => rw [put, lookup_cons]
  | cons entry entries ih =>
      rw [put]
      by_cases hown : entry.1 = key
      · rw [if_pos hown, lookup_cons, lookup_cons, hown]
        by_cases hother : other = key
        · rw [if_pos hother, if_pos hother]
        · rw [if_neg hother, if_neg hother, if_neg hother]
      · rw [if_neg hown, lookup_cons, lookup_cons, ih]
        by_cases hother : other = entry.1
        · rw [if_pos hother, if_neg (hother ▸ hown), if_pos hother]
        · rw [if_neg hother, if_neg hother]

theorem put_eq_self {key : String} {value : Setting} {entries : List (String × Setting)}
    (hvalue : entries.lookup key = some value) : put key value entries = entries := by
  induction entries with
  | nil => cases hvalue
  | cons entry entries ih =>
      rw [lookup_cons] at hvalue
      rw [put]
      by_cases hown : entry.1 = key
      · rw [if_pos hown.symm, Option.some.injEq] at hvalue
        rw [if_pos hown, ← hown, ← hvalue]
      · rw [if_neg (Ne.symm hown)] at hvalue
        rw [if_neg hown, ih hvalue]

theorem mem_put {key : String} {value : Setting} {entries : List (String × Setting)}
    {entry : String × Setting} (hentry : entry ∈ put key value entries) :
    entry = (key, value) ∨ entry ∈ entries := by
  induction entries with
  | nil => exact .inl (List.mem_singleton.1 hentry)
  | cons first entries ih =>
      rw [put] at hentry
      by_cases hown : first.1 = key
      · rw [if_pos hown] at hentry
        exact (List.mem_cons.1 hentry).imp_right (List.mem_cons_of_mem _)
      · rw [if_neg hown] at hentry
        rcases List.mem_cons.1 hentry with rfl | hentry
        · exact .inr List.mem_cons_self
        · exact (ih hentry).imp_right (List.mem_cons_of_mem _)

theorem nodup_put {entries : List (String × Setting)} (hkeys : (entries.map (·.1)).Nodup) (key : String)
    (value : Setting) : ((put key value entries).map (·.1)).Nodup := by
  induction entries with
  | nil => exact List.nodup_cons.2 ⟨List.not_mem_nil, List.nodup_nil⟩
  | cons entry entries ih =>
      obtain ⟨hfresh, hrest⟩ := List.nodup_cons.1 hkeys
      rw [put]
      by_cases hown : entry.1 = key
      · rw [if_pos hown]
        exact List.nodup_cons.2 ⟨hown ▸ hfresh, hrest⟩
      · rw [if_neg hown]
        refine List.nodup_cons.2 ⟨fun hmem => ?_, ih hrest⟩
        obtain ⟨other, hother, hsame⟩ := List.mem_map.1 hmem
        rcases mem_put hother with rfl | hother
        · exact hown hsame.symm
        · exact ne_of_mem hfresh hother hsame

/-! ### No two entries with one key -/

/-- The mappings that paths lead to have no two entries with one key. -/
def Distinct (value : Setting) : Prop :=
  ∀ path entries, value.at? path = some (mapping entries) → (entries.map (·.1)).Nodup

theorem distinct_of_not_isMapping {value : Setting} (hvalue : ¬ value.IsMapping) : Distinct value := by
  intro path entries hpath
  cases path with
  | nil =>
      cases hpath
      exact absurd trivial hvalue
  | cons key keys =>
      rw [at?_cons_of_not_isMapping hvalue] at hpath
      cases hpath

theorem Distinct.entry {value inner : Setting} (hdistinct : Distinct value) {key : String}
    (hinner : value.entry? key = some inner) : Distinct inner := by
  intro path entries hpath
  refine hdistinct (key :: path) entries ?_
  rw [at?, hinner]
  exact hpath

theorem distinct_mapping_iff {entries : List (String × Setting)} :
    Distinct (mapping entries) ↔ (entries.map (·.1)).Nodup ∧ ∀ entry ∈ entries, Distinct entry.2 := by
  constructor
  · intro hdistinct
    have hkeys := hdistinct [] entries rfl
    exact ⟨hkeys, fun entry hentry => hdistinct.entry (lookup_eq_some hkeys hentry)⟩
  · rintro ⟨hkeys, hvalues⟩ path deep hpath
    cases path with
    | nil =>
        cases hpath
        exact hkeys
    | cons key keys =>
        obtain ⟨inner, hinner, hrest⟩ := Option.bind_eq_some_iff.1 hpath
        exact hvalues (key, inner) (mem_of_lookup hinner) keys deep hrest

theorem Distinct.keys {entries : List (String × Setting)} (hdistinct : Distinct (mapping entries)) :
    (entries.map (·.1)).Nodup :=
  hdistinct [] entries rfl

theorem Distinct.mem {entries : List (String × Setting)} (hdistinct : Distinct (mapping entries))
    {entry : String × Setting} (hentry : entry ∈ entries) : Distinct entry.2 :=
  (distinct_mapping_iff.1 hdistinct).2 entry hentry

mutual

/-- Whether the mappings that paths lead to have no two entries with one key. -/
def isDistinct : Setting → Bool
  | mapping entries => (entries.map (·.1)).Nodup && areDistinct entries
  | _ => true

def areDistinct : List (String × Setting) → Bool
  | [] => true
  | (_, value) :: entries => value.isDistinct && areDistinct entries

end

theorem areDistinct_iff {entries : List (String × Setting)} :
    areDistinct entries = true ↔ ∀ entry ∈ entries, entry.2.isDistinct = true := by
  induction entries with
  | nil => exact iff_of_true rfl (List.forall_mem_nil _)
  | cons entry entries ih => rw [areDistinct, Bool.and_eq_true, ih, List.forall_mem_cons]

theorem isDistinct_iff {value : Setting} : value.isDistinct = true ↔ Distinct value := by
  induction value using treeInduction with
  | leaf value hleaf =>
      refine iff_of_true ?_ (distinct_of_not_isMapping hleaf.not_isMapping)
      cases value with
      | mapping => exact hleaf.elim
      | _ => rfl
  | text value => exact iff_of_true rfl (distinct_of_not_isMapping id)
  | list items _ => exact iff_of_true rfl (distinct_of_not_isMapping id)
  | mapping entries ih =>
      rw [isDistinct, Bool.and_eq_true, decide_eq_true_iff, areDistinct_iff, distinct_mapping_iff]
      exact and_congr_right fun _ => forall₂_congr ih

instance (value : Setting) : Decidable (Distinct value) :=
  decidable_of_iff _ isDistinct_iff

theorem Distinct.expand {value : Setting} (hdistinct : Distinct value) (environment : Environment) :
    Distinct (value.expand environment) := by
  intro path entries hpath
  rw [at?_expand] at hpath
  obtain ⟨inner, hinner, hexpand⟩ := Option.map_eq_some_iff.1 hpath
  cases inner with
  | mapping raw =>
      rw [Setting.expand, mapping.injEq, expandEntries_eq_map] at hexpand
      rw [← hexpand, List.map_map]
      exact hdistinct path raw hinner
  | _ => cases hexpand

end Jotter.Setting

/-! ### Documents -/

namespace Jotter.Written

open Setting

theorem distinct_gathered {held : List (String × Setting)} (hheld : ∀ entry ∈ held, Distinct entry.2) :
    Distinct (mapping (gathered held)) := by
  induction held with
  | nil => exact distinct_mapping_iff.2 ⟨List.nodup_nil, nofun⟩
  | cons entry held ih =>
      obtain ⟨hentry, hrest⟩ := List.forall_mem_cons.1 hheld
      refine distinct_mapping_iff.2 ⟨nodup_put (ih hrest).keys _ _, fun other hother => ?_⟩
      rcases mem_put hother with rfl | hother
      · exact hentry
      · exact (ih hrest).mem hother

theorem not_isMapping_of_numeral? {negative : Bool} {cs : List Char} {value : Setting}
    (hvalue : numeral? negative cs = some value) : ¬ value.IsMapping := by
  unfold numeral? at hvalue
  dsimp only at hvalue
  split at hvalue
  · cases hvalue
  · split at hvalue
    · cases hvalue
      exact id
    all_goals
      obtain ⟨exponent, -, hreal⟩ := Option.map_eq_some_iff.1 hvalue
      cases hreal
      exact id

theorem not_isMapping_of_readPlain {cs rest : List Char} {value : Setting}
    (hvalue : readPlain cs = some (value, rest)) : ¬ value.IsMapping := by
  unfold readPlain at hvalue
  split at hvalue
  next word meant hfind =>
    cases hvalue
    have hwords : ∀ word ∈ words, ¬ word.2.IsMapping := by simp [words, IsMapping]
    exact hwords (word, value) (List.mem_of_find?_eq_some hfind)
  next =>
    obtain ⟨meant, hmeant, hsame⟩ := Option.map_eq_some_iff.1 hvalue
    cases hsame
    split at hmeant <;> exact not_isMapping_of_numeral? hmeant

/-- What is read with a bounded number of values has distinct keys. -/
structure ReadsDistinct (fuel : Nat) : Prop where
  value : ∀ {cs value rest}, read fuel cs = some (value, rest) → Distinct value
  entries : ∀ {held cs entries rest}, (∀ entry ∈ held, Distinct entry.2) →
    readEntries fuel held cs = some (entries, rest) → Distinct (mapping entries)

theorem distinct_of_read {fuel : Nat} (ih : ReadsDistinct fuel) {cs rest : List Char} {value : Setting}
    (hread : read (fuel + 1) cs = some (value, rest)) : Distinct value := by
  unfold read at hread
  split at hread
  next =>
    obtain ⟨meant, -, hsame⟩ := Option.map_eq_some_iff.1 hread
    cases hsame
    exact distinct_of_not_isMapping id
  next =>
    split at hread
    · cases hread
      exact distinct_of_not_isMapping id
    · obtain ⟨meant, -, hsame⟩ := Option.map_eq_some_iff.1 hread
      cases hsame
      exact distinct_of_not_isMapping id
  next =>
    split at hread
    · cases hread
      exact distinct_mapping_iff.2 ⟨List.nodup_nil, nofun⟩
    · obtain ⟨meant, hmeant, hsame⟩ := Option.map_eq_some_iff.1 hread
      cases hsame
      exact ih.entries (List.forall_mem_nil _) hmeant
  next => exact distinct_of_not_isMapping (not_isMapping_of_readPlain hread)

theorem distinct_of_readEntries {fuel : Nat} (ih : ReadsDistinct fuel) {held : List (String × Setting)}
    (hheld : ∀ entry ∈ held, Distinct entry.2) {cs rest : List Char} {entries : List (String × Setting)}
    (hread : readEntries (fuel + 1) held cs = some (entries, rest)) : Distinct (mapping entries) := by
  unfold readEntries at hread
  split at hread
  next key cs hkey =>
    split at hread
    next =>
      split at hread
      next => cases hread
      next value cs hvalue =>
        have hall : ∀ entry ∈ (key, value) :: held, Distinct entry.2 :=
          List.forall_mem_cons.2 ⟨ih.value hvalue, hheld⟩
        split at hread
        · exact ih.entries hall hread
        · cases hread
          exact distinct_gathered hall
        · cases hread
    next => cases hread
  next => cases hread

theorem readsDistinct (fuel : Nat) : ReadsDistinct fuel := by
  induction fuel with
  | zero => exact ⟨nofun, fun _ hread => by cases hread⟩
  | succ fuel ih => exact ⟨distinct_of_read ih, fun hheld => distinct_of_readEntries ih hheld⟩

end Jotter.Written

namespace Jotter

open Setting

theorem Setting.distinct_of_ofWritten? {text : String} {value : Setting}
    (hvalue : ofWritten? text = some value) : Distinct value := by
  unfold ofWritten? at hvalue
  split at hvalue
  next meant rest hread =>
    split at hvalue
    · cases hvalue
      exact (Written.readsDistinct _).value hread
    · cases hvalue
  next => cases hvalue

theorem Document.distinct_of_ofText {text : String} {value : Setting} (hvalue : ofText text = data value) :
    Distinct value := by
  unfold ofText at hvalue
  dsimp only at hvalue
  split at hvalue
  · cases hvalue
  · split at hvalue
    · cases hvalue
      exact distinct_of_not_isMapping id
    · split at hvalue
      · cases hvalue
      · split at hvalue
        next meant hmeant =>
          cases hvalue
          exact distinct_of_ofWritten? hmeant
        next => cases hvalue

/-- The settings in a text have no two entries with one key. -/
theorem Document.distinct_of_entries {path text : String} {entries : List (String × Setting)}
    (hentries : (ofText text).entries path = .ok entries) : Distinct (mapping entries) := by
  cases hdocument : ofText text with
  | data value =>
      rw [hdocument] at hentries
      have hvalue := distinct_of_ofText hdocument
      cases value with
      | null =>
          cases hentries
          exact distinct_mapping_iff.2 ⟨List.nodup_nil, nofun⟩
      | mapping own =>
          cases hentries
          exact hvalue
      | _ => cases hentries
  | _ =>
      rw [hdocument] at hentries
      cases hentries

theorem Configuration.distinct_standing : Distinct (mapping standing) := by
  decide

end Jotter
