import Jotter.Settings.Reference
import Mathlib.Data.List.Forall2

/-! The shape of a value: its lists and mappings with their lengths and keys, and the values in them that
are no texts. Putting in what the references in its texts stand for keeps the shape, and it makes no
difference whether this is done before or after a look-up. -/

namespace Jotter.Setting

/-- Whether a value is neither a text nor made of other values. -/
def IsLeaf : Setting → Prop
  | text _ | list _ | mapping _ => False
  | _ => True

/-- What holds of leaves and texts, and of a list or a mapping if it holds of what is in it, holds of all
values. -/
theorem treeInduction {motive : Setting → Prop} (leaf : ∀ value, IsLeaf value → motive value)
    (text : ∀ value, motive (.text value))
    (list : ∀ items, (∀ item ∈ items, motive item) → motive (.list items))
    (mapping : ∀ entries, (∀ entry ∈ entries, motive entry.2) → motive (.mapping entries)) :
    ∀ value, motive value
  | .null => leaf _ trivial
  | .flag _ => leaf _ trivial
  | .integer _ => leaf _ trivial
  | .real _ => leaf _ trivial
  | .text value => text value
  | .list items => list items fun item hitem =>
      have := List.sizeOf_lt_of_mem hitem
      treeInduction leaf text list mapping item
  | .mapping entries => mapping entries fun (key, value) hentry =>
      have := List.sizeOf_lt_of_mem hentry
      treeInduction leaf text list mapping value
termination_by value => sizeOf value
decreasing_by all_goals simp_wf; grind

/-! ### Paths -/

/-- A step into a value: to the entry of a key, or to an item of a list. -/
inductive Step where
  | entry (key : String)
  | item (index : Nat)

def step? : Setting → Step → Option Setting
  | value, .entry key => value.entry? key
  | list items, .item index => items[index]?
  | _, .item _ => none

/-- The value at the end of a path. -/
def follow? : Setting → List Step → Option Setting
  | value, [] => some value
  | value, step :: steps => (value.step? step).bind (·.follow? steps)

theorem follow?_map_entry (value : Setting) (keys : List String) :
    value.follow? (keys.map .entry) = value.at? keys := by
  induction keys generalizing value with
  | nil => rfl
  | cons key keys ih =>
      rw [List.map_cons, follow?, at?, step?]
      cases value.entry? key with
      | none => rfl
      | some inner => exact ih inner

/-! ### Shapes -/

/-- Values that differ in their texts only. -/
inductive SameShape : Setting → Setting → Prop
  | leaf {value : Setting} (hleaf : IsLeaf value) : SameShape value value
  | text (s t : String) : SameShape (text s) (text t)
  | list {items others : List Setting} (hitems : List.Forall₂ SameShape items others) :
      SameShape (list items) (list others)
  | mapping {entries others : List (String × Setting)} (hkeys : entries.map (·.1) = others.map (·.1))
      (hvalues : List.Forall₂ SameShape (entries.map (·.2)) (others.map (·.2))) :
      SameShape (mapping entries) (mapping others)

variable (environment : Environment)

theorem expandItems_eq_map (items : List Setting) :
    expandItems environment items = items.map (·.expand environment) := by
  induction items with
  | nil => rfl
  | cons item items ih => rw [expandItems, ih, List.map_cons]

theorem expandEntries_eq_map (entries : List (String × Setting)) :
    expandEntries environment entries =
      entries.map fun entry => (entry.1, entry.2.expand environment) := by
  induction entries with
  | nil => rfl
  | cons entry entries ih => rw [expandEntries, ih, List.map_cons]

theorem expand_of_isLeaf {value : Setting} (hleaf : IsLeaf value) : value.expand environment = value := by
  cases value with
  | text => exact hleaf.elim
  | list => exact hleaf.elim
  | mapping => exact hleaf.elim
  | _ => rfl

theorem sameShape_expand (value : Setting) : SameShape value (value.expand environment) := by
  induction value using treeInduction with
  | leaf value hleaf =>
      rw [expand_of_isLeaf environment hleaf]
      exact .leaf hleaf
  | text value => exact .text _ _
  | list items ih =>
      rw [expand, expandItems_eq_map]
      exact .list (List.forall₂_map_right_iff.2 (List.forall₂_same.2 ih))
  | mapping entries ih =>
      rw [expand, expandEntries_eq_map]
      refine .mapping (by simp) ?_
      rw [List.map_map, List.forall₂_map_left_iff, List.forall₂_map_right_iff, List.forall₂_same]
      exact ih

/-! ### Look-up -/

theorem entry?_expand (value : Setting) (key : String) :
    Setting.entry? key (value.expand environment) = (value.entry? key).map (·.expand environment) := by
  cases value with
  | mapping entries =>
      rw [expand, entry?, entry?, expandEntries_eq_map]
      induction entries with
      | nil => rfl
      | cons entry entries ih =>
          obtain ⟨own, inner⟩ := entry
          rw [List.map_cons, List.lookup_cons, List.lookup_cons]
          cases key == own with
          | true => rfl
          | false => exact ih
  | _ => rfl

theorem step?_expand (value : Setting) (step : Step) :
    (value.expand environment).step? step = (value.step? step).map (·.expand environment) := by
  cases step with
  | entry key => exact entry?_expand environment value key
  | item index =>
      cases value with
      | list items => rw [expand, step?, step?, expandItems_eq_map, List.getElem?_map]
      | _ => rfl

theorem follow?_expand (value : Setting) (steps : List Step) :
    (value.expand environment).follow? steps = (value.follow? steps).map (·.expand environment) := by
  induction steps generalizing value with
  | nil => rfl
  | cons step steps ih =>
      rw [follow?, follow?, step?_expand]
      cases value.step? step with
      | none => rfl
      | some inner => exact ih inner

theorem at?_expand (value : Setting) (keys : List String) :
    (value.expand environment).at? keys = (value.at? keys).map (·.expand environment) := by
  rw [← follow?_map_entry, ← follow?_map_entry, follow?_expand]

end Jotter.Setting
