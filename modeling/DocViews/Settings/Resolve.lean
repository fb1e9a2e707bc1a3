import DocViews.Settings.Shape
import DocViews.Toml.Reader

/-!
# Sparse settings

A settings file names what it changes and nothing else.  Its table is laid over the stock table,
the merged table must fit the shape of the settings, and the names in it must be able to stand in
generated code.
-/

set_option autoImplicit false

namespace DocViews

inductive SettingsError where
  /-- The text is no TOML. -/
  | noToml
  | misfit (e : MisfitAt)
  | fault (f : SettingFault)
deriving DecidableEq, Repr

namespace SettingsError

def message : SettingsError → Text
  | noToml => "TOML parse error".toList
  | misfit e => "TOML parse error: ".toList ++ e.message
  | fault f => "Config validation error: ".toList ++ f.message

end SettingsError

namespace Settings

/-- Passes settings whose names can stand in generated code. -/
def checked (s : Settings) : Except SettingsError Settings :=
  match s.firstFault? with
  | some f => .error (.fault f)
  | none => .ok s

/-- The settings that a table changes the stock settings to. -/
def resolve (overlay : Toml.Entries) : Except SettingsError Settings :=
  match ofTable (Toml.Value.mergeEntries (toTable {}) overlay) with
  | .error e => .error (.misfit e)
  | .ok s => s.checked

theorem resolve_eq_ok_iff {overlay : Toml.Entries} {s : Settings} :
    resolve overlay = .ok s
      ↔ ofTable (Toml.Value.mergeEntries (toTable {}) overlay) = .ok s ∧ s.firstFault? = none := by
  rw [resolve]
  cases ofTable (Toml.Value.mergeEntries (toTable {}) overlay) with
  | error e => exact iff_of_false nofun (fun h => nomatch h.1)
  | ok t =>
    simp only [Except.ok.injEq, checked]
    cases ht : t.firstFault? with
    | some f =>
      refine iff_of_false nofun ?_
      rintro ⟨rfl, hs⟩
      exact nomatch ht.symm.trans hs
    | none =>
      rw [Except.ok.injEq]
      exact ⟨fun h => ⟨h, h ▸ ht⟩, fun h => h.1⟩

/-- The settings that the text of a settings file describes. -/
def ofText (text : Text) : Except SettingsError Settings :=
  match Toml.read? text with
  | some overlay => resolve overlay
  | none => .error .noToml

end Settings
end DocViews
