import Enrich.Proofs.CommandLine.Arguments
import Enrich.Proofs.Pipeline.Report

/-!
# How runs end

Applying a config begins as validating it does, and what comes behind that can fail on the file of
the nodes only: a pipeline that could be built passes every node. So a config that validates is
applied to all nodes that can be read, and one that does not fails alike under both commands
(`run_apply_code`).
-/

namespace Enrich.CommandLine

variable {files others : Files} {path nodesPath configPath project : String} {format : Format}
  {arguments : List String} {command : Command} {failure : Failure} {c : Config} {p : Pipeline}

/-! ## Outcomes -/

theorem code_outcome_eq_zero_iff :
    (command.outcome files).code = 0 ↔ ∃ printed, command.run files = .ok printed := by
  unfold Command.outcome
  cases command.run files with
  | ok printed => exact iff_of_true rfl ⟨printed, rfl⟩
  | error failure =>
    refine iff_of_false (Nat.succ_ne_zero 0) ?_
    rintro ⟨_, h⟩
    cases h

theorem outcome_of_run_eq_error (h : command.run files = .error failure) :
    command.outcome files = ⟨1, "", firstLine ("Error: " ++ failure.message)⟩ := by
  rw [Command.outcome, h]

theorem output_outcome_of_code_ne_zero (h : (command.outcome files).code ≠ 0) :
    (command.outcome files).output = "" := by
  cases hrun : command.run files with
  | ok printed => exact absurd (code_outcome_eq_zero_iff.mpr ⟨printed, hrun⟩) h
  | error failure => rw [outcome_of_run_eq_error hrun]

theorem run_of_parse (h : parse arguments = .ok command) :
    run files arguments = command.outcome files := by
  rw [run, h]

/-- A run that does not end with 0 prints nothing but an error. -/
theorem output_run_of_code_ne_zero (h : (run files arguments).code ≠ 0) :
    (run files arguments).output = "" := by
  cases hparse : parse arguments with
  | ok command =>
    rw [run_of_parse hparse] at h ⊢
    exact output_outcome_of_code_ne_zero h
  | error stop =>
    cases stop with
    | help =>
      rw [run, hparse] at h
      exact absurd rfl h
    | misuse cause =>
      rw [run, hparse]
      rfl

/-! ## The pipeline of a config -/

/-- Nothing is looked at but the file of the config. -/
theorem loadPipeline_congr (h : others path = files path) :
    loadPipeline others path = loadPipeline files path := by
  unfold loadPipeline Config.load
  rw [h]

/-- A pipeline that could be built takes any nodes to their end. -/
theorem exists_apply_eq_ok (h : Pipeline.build .builtIn c = .ok p) (project : String)
    (nodes : List Node) : ∃ after stats, p.apply project nodes = (after, .ok stats) := by
  obtain ⟨ms, rfl⟩ := Pipeline.exists_ofMatches_of_build h
  exact ⟨_, _, Pipeline.apply_ofMatches ms project nodes⟩

/-! ## The file of the nodes -/

/-- Whether there is a file at a path, it is a text, and the text writes an array of nodes. -/
def HoldsNodes (files : Files) (path : String) : Prop :=
  ∃ content text nodes, files path = .file content ∧ String.fromUTF8? content = some text ∧
    Node.read text = .ok nodes

theorem holdsNodes_iff : HoldsNodes files path ↔ ∃ nodes, readNodes files path = .ok nodes := by
  unfold HoldsNodes readNodes
  constructor
  · rintro ⟨content, text, nodes, hfile, htext, hread⟩
    refine ⟨nodes, ?_⟩
    rw [hfile, Found.text?, htext]
    exact mapError_eq_ok.mpr hread
  · rintro ⟨nodes, h⟩
    cases hfile : files path with
    | nothing =>
      rw [hfile] at h
      cases h
    | unreadable =>
      rw [hfile] at h
      cases h
    | file content =>
      rw [hfile, Found.text?] at h
      split at h
      · cases h
      · next text htext => exact ⟨content, text, nodes, rfl, htext, mapError_eq_ok.mp h⟩

/-! ## Commands on a config -/

theorem exists_run_validate_iff :
    (∃ printed, (Command.validate configPath).run files = .ok printed) ↔
      ∃ c p, loadPipeline files configPath = .ok (c, p) := by
  constructor
  · rintro ⟨printed, h⟩
    obtain ⟨⟨c, p⟩, hload, -⟩ := bind_eq_ok.mp h
    exact ⟨c, p, hload⟩
  · rintro ⟨c, p, hload⟩
    exact ⟨_, bind_eq_ok.mpr ⟨(c, p), hload, rfl⟩⟩

/-- What comes behind the pipeline can fail on the file of the nodes only. -/
theorem exists_run_apply_iff :
    (∃ printed, (Command.apply nodesPath configPath project format).run files = .ok printed) ↔
      (∃ c p, loadPipeline files configPath = .ok (c, p)) ∧ HoldsNodes files nodesPath := by
  rw [holdsNodes_iff]
  constructor
  · rintro ⟨printed, h⟩
    obtain ⟨⟨c, p⟩, hload, h⟩ := bind_eq_ok.mp h
    obtain ⟨nodes, hnodes, -⟩ := bind_eq_ok.mp h
    exact ⟨⟨c, p, hload⟩, nodes, hnodes⟩
  · rintro ⟨⟨c, p, hload⟩, nodes, hnodes⟩
    obtain ⟨after, stats, happly⟩ :=
      exists_apply_eq_ok (build_of_loadPipeline hload) project nodes
    exact ⟨_, apply_eq_ok hload hnodes happly⟩

/-- Both commands end alike if there is no pipeline, whatever the file of the nodes is. -/
theorem outcome_apply_of_code_ne_zero (hothers : others configPath = files configPath)
    (h : ((Command.validate configPath).outcome files).code ≠ 0) :
    (Command.apply nodesPath configPath project format).outcome others =
      (Command.validate configPath).outcome files := by
  cases hload : loadPipeline files configPath with
  | ok loaded =>
    exact absurd (code_outcome_eq_zero_iff.mpr (exists_run_validate_iff.mpr ⟨_, _, hload⟩)) h
  | error failure =>
    have hvalidate : (Command.validate configPath).run files = .error failure := by
      rw [Command.run, validate, hload]
      rfl
    have happly : (Command.apply nodesPath configPath project format).run others =
        .error failure := by
      rw [Command.run, apply, loadPipeline_congr hothers, hload]
      rfl
    rw [outcome_of_run_eq_error hvalidate, outcome_of_run_eq_error happly]

/-- **A config that validates can be applied.** The path of a config that is applied can be
validated. Applying ends with 0 if and only if validating the same path does and the file of the
nodes holds nodes. If validating fails, applying fails with the same error line, whatever there is
at all other paths; if it does not, the pipeline of the config takes any nodes to their end, under
any project. A run that does not end with 0 has no output, whatever its arguments are. -/
theorem run_apply_code (files : Files) {applied : List String}
    (happlied : parse applied = .ok (.apply nodesPath configPath project format)) :
    (∃ validated, parse validated = .ok (.validate configPath)) ∧
    (∀ validated, parse validated = .ok (.validate configPath) →
      ((run files applied).code = 0 ↔
        (run files validated).code = 0 ∧ HoldsNodes files nodesPath) ∧
      ((run files validated).code ≠ 0 →
        ∀ others : Files, others configPath = files configPath →
          (run others applied).code ≠ 0 ∧
          (run others applied).errors = (run files validated).errors) ∧
      ((run files validated).code = 0 →
        ∃ c p, loadPipeline files configPath = .ok (c, p) ∧
          ∀ project nodes, ∃ after stats, p.apply project nodes = (after, .ok stats))) ∧
    ∀ arguments, (run files arguments).code ≠ 0 → (run files arguments).output = "" := by
  refine ⟨⟨_, parse_validate (configPath_ne_empty_of_parse happlied)⟩, ?_,
    fun _ => output_run_of_code_ne_zero⟩
  intro validated hvalidated
  simp only [run_of_parse happlied, run_of_parse hvalidated]
  refine ⟨?_, ?_, ?_⟩
  · rw [code_outcome_eq_zero_iff, code_outcome_eq_zero_iff, exists_run_apply_iff,
      exists_run_validate_iff]
  · intro hfails others hothers
    rw [outcome_apply_of_code_ne_zero hothers hfails]
    exact ⟨hfails, rfl⟩
  · intro hvalidates
    obtain ⟨c, p, hload⟩ := exists_run_validate_iff.mp (code_outcome_eq_zero_iff.mp hvalidates)
    exact ⟨c, p, hload, exists_apply_eq_ok (build_of_loadPipeline hload)⟩

/-- Files with a config, with one that names an unknown provider, and with one node. -/
def oneNode : Files
  | "nodematch.toml" =>
    .file "[[enhancers]]\nprovider = \"attribute-match\"\n[enhancers.config]\nmatch = \"\"\n".toUTF8
  | "other.toml" => .file "[[enhancers]]\nprovider = \"other\"\n".toUTF8
  | "nodes.json" => .file "[[\"a\"]]".toUTF8
  | _ => .nothing

/-- One config is applied to the node, the other fails wherever it is applied. -/
theorem run_apply_code_one_node :
    (run oneNode ["apply", "nodes.json"]).code = 0 ∧
    (run oneNode ["validate", "--config", "other.toml"]).code ≠ 0 ∧
    ∀ others : Files, others "other.toml" = oneNode "other.toml" →
      (run others ["apply", "nodes.json", "--config", "other.toml"]).code ≠ 0 ∧
      (run others ["apply", "nodes.json", "--config", "other.toml"]).errors =
        "Error: Invalid config 'other.toml'" := by
  have happlied : parse ["apply", "nodes.json"] =
      .ok (.apply "nodes.json" "nodematch.toml" "default" .human) := by
    decide +kernel
  have hother : parse ["apply", "nodes.json", "--config", "other.toml"] =
      .ok (.apply "nodes.json" "other.toml" "default" .human) := by
    decide +kernel
  have hnodes : HoldsNodes oneNode "nodes.json" := by
    refine ⟨_, "[[\"a\"]]", [⟨"a", ∅, ∅⟩], rfl, ?_, ?_⟩
    · decide +kernel
    · decide +kernel
  have hfails : (run oneNode ["validate", "--config", "other.toml"]).code ≠ 0 := by
    decide +kernel
  obtain ⟨hcode, -, -⟩ := (run_apply_code oneNode happlied).2.1 ["validate"] (by decide +kernel)
  obtain ⟨-, herrors, -⟩ := (run_apply_code oneNode hother).2.1
    ["validate", "--config", "other.toml"] (by decide +kernel)
  refine ⟨hcode.mpr ⟨by decide +kernel, hnodes⟩, hfails, fun others hothers => ?_⟩
  obtain ⟨hfailed, hline⟩ := herrors hfails others hothers
  refine ⟨hfailed, hline.trans ?_⟩
  decide +kernel

end Enrich.CommandLine
