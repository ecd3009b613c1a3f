import Jotter.Builtin.Set
import Jotter.Composer.Basic
import Jotter.Panel.Basic

/-!
New composers: the built-in commands over a vault of their own. The notebook to start in is the active
one, and it is added to the vault if it is not among the others; a label that does not count as given
names none.
-/

namespace Jotter

/-- The choices that a composer is made with. -/
structure ComposerSettings extends PanelSettings where
  historySize : Int := History.defaultSize
  deriving DecidableEq, Repr

namespace Composer

/-- The notebooks of a new vault. -/
def notebookLabels (labels : List Setting) (notebook : Setting) : List Setting :=
  if !notebook.isGiven || labels.any (·.isLike notebook) then labels else labels ++ [notebook]

/-- A vault with its active notebook. -/
def newVault (labels : List Setting) (notebook : Setting) : Except Failure Vault :=
  let vault := Vault.withNotebooks (notebookLabels labels notebook)
  if notebook.isGiven then vault.setActive notebook else .ok vault

/-- A composer with the built-in commands. -/
def create (settings : ComposerSettings) (vaultPath : Option String) (notebook : Setting)
    (labels : List Setting) (now : Moment) : Except Failure (Composer Desk) := do
  let vault ← newVault labels notebook
  let history ← History.new settings.historySize
  return {
    session := {
      registry := Builtin.registry Desk.services settings.marker
      history := history
      marker := settings.marker
      context := ⟨notebook, vaultPath⟩
      state := ⟨vault, now⟩ } }

end Composer

end Jotter
