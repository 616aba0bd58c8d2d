import Enrich.CommandLine.Run
import Enrich.Proofs.Node.Change
import Enrich.Proofs.Pipeline.Build
import Mathlib.Data.List.Forall2

/-!
# The report on a pipeline

What a reader is told about the nodes that went through a pipeline is complete: the nodes that came
out different are marked, and the lines under such a node tell all that was done to it
(`report_complete`). This rests on attribute matches never removing or renaming anything
(`extends_enhanceAll`).
-/

namespace Enrich

namespace AttributeMatch

variable {m : AttributeMatch}

theorem extends_enhance (m : AttributeMatch) (n : Node) : n.Extends (m.enhance n).1 where
  name := name_enhance
  keys key hkey := by
    rw [find?_enhance, Option.or_eq_none_iff] at hkey
    exact hkey.2
  tags tag htag := mem_tags_enhance.mpr (.inr htag)

theorem extends_enhanceAll (ms : List AttributeMatch) (n : Node) :
    n.Extends (enhanceAll ms n) := by
  induction ms generalizing n with
  | nil => exact .refl n
  | cons m ms ih => exact (extends_enhance m n).trans (ih _)

end AttributeMatch

namespace Report

variable {before after : Node}

/-- Whether the lines about a node say that it was changed. -/
def MarksChanged (after : Node) (lines : List String) : Prop :=
  lines.head? = some ("✓ " ++ after.name)

instance (after : Node) (lines : List String) : Decidable (MarksChanged after lines) :=
  inferInstanceAs (Decidable (_ = _))

/-- Whether a line tells of a change: of an attribute by its key, its value and the value that it
had before, and of a tag by its name. -/
inductive Tells : Change → String → Prop
  | replaced (key value old : String) :
      Tells (.replaced key value old) ("    ~ " ++ key ++ " = " ++ value ++ " (was " ++ old ++ ")")
  | added (key value : String) : Tells (.added key value) ("    + " ++ key ++ " = " ++ value)
  | tagged (tag : String) : Tells (.tagged tag) ("    + #" ++ tag)

/-- Whether some lines tell all that happened to a node: they name it and nothing else if it is as
it was, and if it is different they mark it and then tell of some changes, a line for each. The
changes are one for each attribute that is new or has another value and one for each new tag, and
they make the last state out of the first. -/
structure Complete (before after : Node) (lines : List String) (changes : List Change) : Prop where
  marked : MarksChanged after lines ↔ before ≠ after
  unmarked : before = after → lines = ["· " ++ after.name]
  listed : List.Forall₂ Tells changes lines.tail
  some_change : before ≠ after → changes ≠ []
  added : ∀ key value, .added key value ∈ changes ↔
    before.attribute? key = none ∧ after.attribute? key = some value
  replaced : ∀ key value old, .replaced key value old ∈ changes ↔
    before.attribute? key = some old ∧ after.attribute? key = some value ∧ old ≠ value
  tagged : ∀ tag, .tagged tag ∈ changes ↔ tag ∈ after.tags ∧ tag ∉ before.tags
  once : (changes.map Change.subject).Nodup
  makes : changes.foldl Change.apply before = after

/-! ## One node -/

theorem marks_ne (name : String) : "· " ++ name ≠ "✓ " ++ name := by
  intro h
  have hchars := congrArg String.toList h
  rw [String.toList_append, String.toList_append] at hchars
  cases hchars

theorem node_of_eq (h : before = after) : node before after = ["· " ++ after.name] :=
  if_pos h

theorem node_of_ne (h : before ≠ after) :
    node before after = ("✓ " ++ after.name) :: (before.changes after).map Change.line :=
  if_neg h

theorem marksChanged_node_iff : MarksChanged after (node before after) ↔ before ≠ after := by
  rcases eq_or_ne before after with heq | hne
  · rw [MarksChanged, node_of_eq heq, List.head?_cons, Option.some.injEq]
    exact iff_of_false (marks_ne after.name) (not_not.mpr heq)
  · rw [MarksChanged, node_of_ne hne]
    exact iff_of_true rfl hne

theorem tail_node : (node before after).tail = (before.changes after).map Change.line := by
  rcases eq_or_ne before after with rfl | hne
  · rw [node_of_eq rfl, Node.changes_self]
    rfl
  · rw [node_of_ne hne, List.tail_cons]

theorem tells_line (change : Change) : Tells change change.line := by
  cases change with
  | replaced key value old => exact .replaced key value old
  | added key value => exact .added key value
  | tagged tag => exact .tagged tag

theorem forall₂_tells_node :
    List.Forall₂ Tells (before.changes after) (node before after).tail := by
  rw [tail_node, List.forall₂_map_right_iff]
  exact List.forall₂_same.mpr fun change _ => tells_line change

theorem complete_node (h : before.Extends after) :
    Complete before after (node before after) (before.changes after) where
  marked := marksChanged_node_iff
  unmarked := node_of_eq
  listed := forall₂_tells_node
  some_change := Node.changes_ne_nil h
  added _ _ := Node.added_mem_changes_iff
  replaced _ _ _ := Node.replaced_mem_changes_iff
  tagged _ := Node.tagged_mem_changes_iff
  once := Node.nodup_changes
  makes := Node.foldl_apply_changes h

/-- The number of nodes that are marked. -/
def markedCount (before after : List Node) : Nat :=
  (before.zip after).countP fun (b, a) => MarksChanged a (node b a)

theorem markedCount_map (f : Node → Node) (nodes : List Node) :
    markedCount nodes (nodes.map f) = nodes.countP fun n => f n ≠ n := by
  rw [markedCount, ← List.map_prod_left_eq_zip, List.countP_map]
  refine List.countP_congr fun n _ => ?_
  simp only [Function.comp_apply, marksChanged_node_iff, ne_comm]

end Report

namespace CommandLine

theorem build_of_loadPipeline {files : Files} {path : String} {c : Config} {p : Pipeline}
    (h : loadPipeline files path = .ok (c, p)) : Pipeline.build .builtIn c = .ok p := by
  obtain ⟨config, -, h⟩ := bind_eq_ok.mp h
  obtain ⟨pipeline, hbuild, h⟩ := bind_eq_ok.mp h
  cases h
  exact mapError_eq_ok.mp hbuild

/-- What is printed by applying a pipeline that never stops. -/
theorem apply_eq_ok {files : Files} {nodesPath configPath project : String} {format : Format}
    {c : Config} {p : Pipeline} {nodes after : List Node} {stats : Pipeline.Stats}
    (hpipeline : loadPipeline files configPath = .ok (c, p))
    (hnodes : readNodes files nodesPath = .ok nodes)
    (hafter : p.apply project nodes = (after, .ok stats)) :
    apply files nodesPath configPath project format =
      .ok ⟨written format nodes after stats, ""⟩ := by
  refine bind_eq_ok.mpr ⟨(c, p), hpipeline, bind_eq_ok.mpr ⟨nodes, hnodes, ?_⟩⟩
  rw [hafter]
  rfl

end CommandLine

namespace Pipeline

variable {c : Config} {p : Pipeline}

/-- **The report is complete.** A pipeline that was made with nothing but what comes built in never
stops. Of the nodes it was applied to, the report marks those that came out different, and tells
under each of them, line by line, of changes that are one for each attribute that is new or has
another value and one for each new tag, and that make the last state of the node out of the first.
The number at the end is that of the marked nodes. -/
theorem report_complete (h : build .builtIn c = .ok p) (project : String) (nodes : List Node) :
    ∃ (after : List Node) (report : String), after.length = nodes.length ∧
      (p.apply project nodes).1 = after ∧
      (∀ files nodesPath configPath, CommandLine.loadPipeline files configPath = .ok (c, p) →
        CommandLine.readNodes files nodesPath = .ok nodes →
        CommandLine.apply files nodesPath configPath project .human = .ok ⟨report, ""⟩) ∧
      report = String.join (((nodes.zip after).flatMap (fun (b, a) => Report.node b a) ++
        ["", toString (Report.markedCount nodes after) ++ " of " ++ toString nodes.length ++
          " nodes enriched"]).map (· ++ "\n")) ∧
      ∀ b a, (b, a) ∈ nodes.zip after →
        ∃ changes, Report.Complete b a (Report.node b a) changes := by
  obtain ⟨ms, rfl⟩ := exists_ofMatches_of_build h
  have happly := apply_ofMatches ms project nodes
  refine ⟨_, _, List.length_map _, congrArg Prod.fst happly,
    fun files nodesPath configPath hpipeline hnodes =>
      CommandLine.apply_eq_ok hpipeline hnodes happly, ?_, fun b a hmem => ?_⟩
  · rw [Report.markedCount_map]
    rfl
  · rw [← List.map_prod_left_eq_zip] at hmem
    obtain ⟨n, -, hpair⟩ := List.mem_map.mp hmem
    cases hpair
    exact ⟨_, Report.complete_node (AttributeMatch.extends_enhanceAll _ b)⟩

/-- Files with a config that sets an attribute and a tag where another attribute is `1`, and with two
nodes, one of which has that attribute. -/
def overwriting : Files
  | "nodematch.toml" =>
    .file ("[[enhancers]]\nprovider = \"attribute-match\"\n[enhancers.config]\n" ++
      "match = \"a==1\"\nadd = \"b=2\"\nadd_tags = \"t\"\n").toUTF8
  | "nodes.json" => .file "[[\"m\", \x7b\"a\": \"1\", \"b\": \"1\"\x7d], [\"n\"]]".toUTF8
  | _ => .nothing

/-- One of two nodes is given a new value for an attribute and a tag. -/
theorem report_complete_overwrite :
    ∃ (c : Config) (p : Pipeline) (nodes : List Node),
      build .builtIn c = .ok p ∧ (p.apply "x" nodes).2.toOption = some ⟨2, 1⟩ ∧
      CommandLine.apply overwriting "nodes.json" "nodematch.toml" "x" .human =
        .ok ⟨"✓ m\n    ~ b = 2 (was 1)\n    + #t\n· n\n\n1 of 2 nodes enriched\n", ""⟩ ∧
      ∀ b a, (b, a) ∈ nodes.zip (p.apply "x" nodes).1 →
        ∃ changes, Report.Complete b a (Report.node b a) changes := by
  let nodes : List Node :=
    [⟨"m", StringMap.ofList [("a", "1"), ("b", "1")], ∅⟩, ⟨"n", ∅, ∅⟩]
  have hnodes : CommandLine.readNodes overwriting "nodes.json" = .ok nodes := by
    have hread : Node.read "[[\"m\", \x7b\"a\": \"1\", \"b\": \"1\"\x7d], [\"n\"]]" = .ok nodes := by
      decide +kernel
    exact mapError_eq_ok.mpr hread
  have hchecked : ((CommandLine.loadPipeline overwriting "nodematch.toml").toOption.any
      fun loaded => (loaded.2.apply "x" nodes).2.toOption == some ⟨2, 1⟩) = true := by
    decide +kernel
  have hprinted : (CommandLine.apply overwriting "nodes.json" "nodematch.toml" "x" .human).toOption =
      some ⟨"✓ m\n    ~ b = 2 (was 1)\n    + #t\n· n\n\n1 of 2 nodes enriched\n", ""⟩ := by
    decide +kernel
  cases hload : CommandLine.loadPipeline overwriting "nodematch.toml" with
  | error cause =>
    rw [hload] at hchecked
    cases hchecked
  | ok loaded =>
    obtain ⟨c, p⟩ := loaded
    rw [hload] at hchecked
    have hbuild : build .builtIn c = .ok p := CommandLine.build_of_loadPipeline hload
    obtain ⟨_, report, -, rfl, hprints, -, hcomplete⟩ := report_complete hbuild "x" nodes
    have hreport := hprints overwriting "nodes.json" "nodematch.toml" hload hnodes
    rw [hreport] at hprinted ⊢
    exact ⟨c, p, nodes, hbuild, eq_of_beq hchecked, congrArg Except.ok (Option.some.inj hprinted),
      hcomplete⟩

end Pipeline

end Enrich
