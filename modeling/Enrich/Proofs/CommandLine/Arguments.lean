import Enrich.CommandLine.Arguments
import Enrich.Proofs.Except

/-!
# Arguments that make a command

No value of an option reaches a command unchecked: whatever is collected from the arguments keeps
`Given.Checked`, so a path of a config is never empty. Every such path can be validated: there are
arguments for that (`parse_validate`).
-/

namespace Enrich.CommandLine

open Given

variable {g g' : Given} {key : Key} {verb : Verb} {arguments : List String} {command : Command}

/-- Whether every value that has been given was found to be in order. -/
def Given.Checked (g : Given) : Prop :=
  ∀ key value, (key, value) ∈ g.values → checkValue key value = .ok ()

theorem checked_empty : Checked {} := by
  intro key value hmem
  cases hmem

/-! ## Steps -/

theorem checked_addValue {value : String} (hg : g.Checked) (h : g.addValue key value = .ok g') :
    g'.Checked := by
  unfold addValue at h
  split at h
  · cases h
  · obtain ⟨_, hcheck, h⟩ := bind_eq_ok.mp h
    cases h
    intro k v hmem
    rcases List.mem_append.mp hmem with hmem | hmem
    · exact hg k v hmem
    · cases List.mem_singleton.mp hmem
      exact mapError_eq_ok.mp hcheck

theorem checked_settle (hg : g.Checked) (h : g.settle = .ok g') : g'.Checked := by
  unfold settle at h
  split at h
  · cases h
    exact hg
  · cases h
  · have hwaiting : Checked { g with pending := none } := hg
    exact checked_addValue hwaiting h

theorem checked_addFlag (hg : g.Checked) (h : g.addFlag key = .ok g') : g'.Checked := by
  obtain ⟨settled, hsettle, h⟩ := bind_eq_ok.mp h
  have hsettled := checked_settle hg hsettle
  split at h
  · cases h
  · split at h
    · cases h
    · cases h
      exact hsettled

theorem checked_addOption {value : Option String} (hg : g.Checked)
    (h : g.addOption key value = .ok g') : g'.Checked := by
  obtain ⟨settled, hsettle, h⟩ := bind_eq_ok.mp h
  have hsettled := checked_settle hg hsettle
  split at h
  · exact checked_addValue hsettled h
  · cases h
    exact hsettled

theorem checked_addPlain {room : Nat} {argument : String} (hg : g.Checked)
    (h : g.addPlain room argument = .ok g') : g'.Checked := by
  unfold addPlain at h
  split at h
  · split at h
    · cases h
    · obtain ⟨settled, -, h⟩ := bind_eq_ok.mp h
      cases h
  · split at h
    · cases h
    · obtain ⟨settled, hsettle, h⟩ := bind_eq_ok.mp h
      have hsettled := checked_settle hg hsettle
      cases h
      exact hsettled

theorem checked_addLetters {letters : List Char} (hg : g.Checked)
    (h : addLetters verb g letters = .ok g') : g'.Checked := by
  induction letters generalizing g with
  | nil =>
    cases h
    exact hg
  | cons c rest ih =>
    unfold addLetters at h
    split at h
    · cases h
    · split at h
      · exact checked_addOption hg h
      · obtain ⟨flagged, hflag, h⟩ := bind_eq_ok.mp h
        exact ih (checked_addFlag hg hflag) h

theorem checked_addArgument {argument : String} (hg : g.Checked)
    (h : addArgument verb g argument = .ok g') : g'.Checked := by
  unfold addArgument at h
  split at h
  · cases h
    exact hg
  · split at h
    · cases h
    · split at h
      · exact checked_addOption hg h
      · split at h
        · cases h
        · exact checked_addFlag hg h
  · exact checked_addLetters hg h
  · cases h
    exact hg
  · exact checked_addPlain hg h

/-! ## Runs -/

theorem checked_foldlM_addPlain {room : Nat} (hg : g.Checked)
    (h : arguments.foldlM (fun g argument => g.addPlain room argument) g = .ok g') :
    g'.Checked := by
  induction arguments generalizing g with
  | nil =>
    cases h
    exact hg
  | cons argument arguments ih =>
    rw [List.foldlM_cons] at h
    obtain ⟨next, hnext, h⟩ := bind_eq_ok.mp h
    exact ih (checked_addPlain hg hnext) h

theorem checked_collect (hg : g.Checked) (h : collect verb g arguments = .ok g') :
    g'.Checked := by
  induction arguments generalizing g with
  | nil => exact checked_settle hg h
  | cons argument arguments ih =>
    unfold collect at h
    split at h
    · obtain ⟨next, hnext, h⟩ := bind_eq_ok.mp h
      exact checked_settle (checked_foldlM_addPlain hg hnext) h
    · obtain ⟨next, hnext, h⟩ := bind_eq_ok.mp h
      exact ih (checked_addArgument hg hnext) h

/-- A command is made from values that have been checked. -/
theorem exists_checked_of_parse (h : parse arguments = .ok command) :
    ∃ verb g, Given.Checked g ∧ g.command verb = .ok command := by
  -- Arguments before the name of the command are skipped one by one.
  induction arguments with
  | nil => cases h
  | cons argument arguments ih =>
    unfold parse at h
    split at h
    · obtain ⟨_, -, h⟩ := bind_eq_ok.mp h
      exact ih h
    · split at h
      · next verb _ =>
        obtain ⟨g, hcollect, h⟩ := bind_eq_ok.mp h
        exact ⟨verb, g, checked_collect checked_empty hcollect, mapError_eq_ok.mp h⟩
      · split at h
        · cases h
        · cases h
    · cases h
    · cases h

/-! ## Paths of configs -/

theorem mem_values_of_value? {value : String} (h : g.value? key = some value) :
    (key, value) ∈ g.values := by
  obtain ⟨⟨k, v⟩, hmem, hkey⟩ := List.mem_filterMap.mp (List.mem_of_head? h)
  simp only [Option.ite_none_right_eq_some, Option.some.injEq] at hkey
  obtain ⟨rfl, rfl⟩ := hkey
  exact hmem

theorem configPath_ne_empty (hg : g.Checked) :
    (g.value? .config).getD Config.defaultPath ≠ "" := by
  cases hvalue : g.value? .config with
  | none => decide
  | some path =>
    rintro rfl
    cases hg .config "" (mem_values_of_value? hvalue)

theorem configPath_ne_empty_of_parse {nodes config project : String} {format : Format}
    (h : parse arguments = .ok (.apply nodes config project format)) : config ≠ "" := by
  obtain ⟨verb, g, hg, hcommand⟩ := exists_checked_of_parse h
  cases verb with
  | apply =>
    rw [Given.command] at hcommand
    split at hcommand
    · cases hcommand
    · cases hcommand
      exact configPath_ne_empty hg
  | check =>
    rw [Given.command] at hcommand
    split at hcommand
    · cases hcommand
    · obtain ⟨attributes, -, hcommand⟩ := bind_eq_ok.mp hcommand
      cases hcommand
  | validate => cases hcommand

/-! ## Arguments for a path -/

theorem ofString_long {name : String} (hname : '=' ∉ name.toList) (value : String) :
    Argument.ofString ("--" ++ name ++ "=" ++ value) = .long name (some value) := by
  have htext : ("--" ++ name ++ "=" ++ value).toList =
      '-' :: '-' :: (name.toList ++ '=' :: value.toList) := by
    simp [String.toList_append]
  rw [Argument.ofString, htext]
  split
  · next heq => simp at heq
  · next heq =>
    cases heq
    rw [Text.cut?_append hname]
    simp
  · next hlong heq =>
    cases heq
    exact absurd rfl hlong
  · next hplain => exact absurd rfl (hplain _ _)

theorem addArgument_config {config : String} (h : config ≠ "") :
    addArgument .validate {} ("--config=" ++ config) = .ok { values := [(.config, config)] } := by
  have hform : Argument.ofString ("--config=" ++ config) = .long "config" (some config) :=
    ofString_long (by decide : '=' ∉ "config".toList) config
  have hchecked : checkValue .config config = .ok () := by
    simp [checkValue, h]
  have hvalue : ({} : Given).addOption .config (some config) =
      .ok { values := [(.config, config)] } := by
    simp only [addOption, settle, addValue, hchecked]
    rfl
  rw [addArgument, hform]
  exact hvalue

/-- A path that is not empty can be validated. -/
theorem parse_validate {config : String} (h : config ≠ "") :
    parse ["validate", "--config=" ++ config] = .ok (.validate config) := by
  have hseparator : "--config=" ++ config ≠ "--" := by
    intro heq
    have hchars := congrArg String.toList heq
    rw [String.toList_append] at hchars
    cases hchars
  have hcollect : collect .validate {} ["--config=" ++ config] =
      .ok { values := [(.config, config)] } := by
    rw [collect, if_neg hseparator, addArgument_config h]
    rfl
  have hverb : parse ["validate", "--config=" ++ config] = (do
      ((← collect .validate {} ["--config=" ++ config]).command .validate).mapError .misuse) :=
    rfl
  rw [hverb, hcollect]
  rfl

end Enrich.CommandLine
