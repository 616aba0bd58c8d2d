import Enrich.Pipeline
import Enrich.Proofs.Splits

/-!
# Applying a pipeline

A pipeline goes through the nodes and takes each through all stages, until a stage fails. Where none
does, every node comes out as the fold of the stages over it, whatever the other nodes are; else the
work ends at the first failing stage of the first node that has one, and what was changed by then
stays (`apply_outcome`). `Passes` says of one node that no stage fails on it, each taken as the
stages before it leave the node.
-/

namespace Enrich

/-- The node that a stage leaves, also if it fails. -/
def Stage.after (project : String) (stage : Stage) (n : Node) : Node :=
  (stage.enhancer.update project n).1

/-- The error with which a stage fails on a node, if it does. -/
def Stage.error? (project : String) (stage : Stage) (n : Node) : Option EnhancerError :=
  (stage.enhancer.update project n).2

namespace Pipeline

variable {project : String} {stage : Stage} {stages front back : List Stage} {n : Node}
  {nodes before : List Node} {e : EnhancerError}

/-- The node that some stages leave one after the other, whether or not they fail. -/
def foldStages (project : String) (stages : List Stage) (n : Node) : Node :=
  stages.foldl (fun n stage => stage.after project n) n

/-- Whether no stage fails on a node as it stands when the stage comes to it. -/
def Passes (project : String) (stages : List Stage) (n : Node) : Prop :=
  ∀ front stage back, stages = front ++ stage :: back →
    stage.error? project (foldStages project front n) = none

/-! ## One node -/

theorem foldStages_append :
    foldStages project (front ++ back) n = foldStages project back (foldStages project front n) :=
  List.foldl_append

theorem passes_nil : Passes project [] n := by
  intro front stage back h
  cases front <;> cases h

theorem passes_cons : Passes project (stage :: stages) n ↔
    stage.error? project n = none ∧ Passes project stages (stage.after project n) :=
  forall_split_cons fun front (stage : Stage) _ =>
    stage.error? project (foldStages project front n) = none

theorem runStages_of_error (h : stage.error? project n = some e) :
    runStages project (stage :: stages) n = (stage.after project n, some e) := by
  have hupdate : stage.enhancer.update project n = (stage.after project n, some e) :=
    Prod.ext rfl h
  rw [runStages, hupdate]

theorem runStages_of_no_error (h : stage.error? project n = none) :
    runStages project (stage :: stages) n = runStages project stages (stage.after project n) := by
  have hupdate : stage.enhancer.update project n = (stage.after project n, none) :=
    Prod.ext rfl h
  rw [runStages, hupdate]

theorem runStages_append (h : Passes project front n) :
    runStages project (front ++ back) n =
      runStages project back (foldStages project front n) := by
  induction front generalizing n with
  | nil => rfl
  | cons stage front ih =>
    obtain ⟨hstage, hfront⟩ := passes_cons.mp h
    rw [List.cons_append, runStages_of_no_error hstage, ih hfront]
    rfl

theorem runStages_of_passes (h : Passes project stages n) :
    runStages project stages n = (foldStages project stages n, none) := by
  rw [← List.append_nil stages, runStages_append h, List.append_nil]
  rfl

theorem runStages_of_fails (h : Passes project front n)
    (he : stage.error? project (foldStages project front n) = some e) :
    runStages project (front ++ stage :: back) n =
      (foldStages project (front ++ [stage]) n, some e) := by
  rw [runStages_append h, runStages_of_error he, foldStages_append]
  rfl

theorem exists_first_failing_stage (h : ¬ Passes project stages n) :
    ∃ front stage back e, stages = front ++ stage :: back ∧ Passes project front n ∧
      stage.error? project (foldStages project front n) = some e := by
  -- The node changes from stage to stage, so the induction is over all nodes at once.
  induction stages generalizing n with
  | nil => exact absurd passes_nil h
  | cons stage stages ih =>
    cases hstage : stage.error? project n with
    | some e => exact ⟨[], stage, stages, e, rfl, passes_nil, hstage⟩
    | none =>
      have hrest : ¬ Passes project stages (stage.after project n) :=
        fun hpasses => h (passes_cons.mpr ⟨hstage, hpasses⟩)
      obtain ⟨front, next, back, e, rfl, hfront, he⟩ := ih hrest
      exact ⟨stage :: front, next, back, e, rfl, passes_cons.mpr ⟨hstage, hfront⟩, he⟩

/-! ## All nodes -/

/-- The stats with the counts for some nodes that pass the stages. -/
def Stats.countAll (s : Stats) (project : String) (stages : List Stage) (nodes : List Node) :
    Stats :=
  ⟨s.seen + nodes.length,
    s.enriched + nodes.countP fun n => foldStages project stages n ≠ n⟩

theorem Stats.countAll_cons {s : Stats} :
    s.countAll project stages (n :: nodes) =
      (s.count (foldStages project stages n ≠ n)).countAll project stages nodes := by
  simp only [countAll, count, List.length_cons, List.countP_cons, Stats.mk.injEq]
  constructor
  · omega
  · split <;> omega

/-- Nodes that pass come out as the fold of the stages over them and are counted; the nodes behind
them are taken up from there. -/
theorem applyFrom_append {p : Pipeline} {s : Stats} (h : ∀ n ∈ before, Passes project p.stages n) :
    p.applyFrom project s (before ++ nodes) =
      (before.map (foldStages project p.stages) ++
          (p.applyFrom project (s.countAll project p.stages before) nodes).1,
        (p.applyFrom project (s.countAll project p.stages before) nodes).2) := by
  -- The stats are carried along, and with them what the nodes behind `before` start from.
  induction before generalizing s with
  | nil => rfl
  | cons n before ih =>
    have hn := runStages_of_passes (h n List.mem_cons_self)
    rw [List.cons_append, applyFrom, hn, Stats.countAll_cons]
    simp only [ih fun m hm => h m (List.mem_cons_of_mem _ hm), List.map_cons, List.cons_append]

theorem apply_of_passes {p : Pipeline} (h : ∀ n ∈ nodes, Passes project p.stages n) :
    p.apply project nodes =
      (nodes.map (foldStages project p.stages),
        .ok ⟨nodes.length, nodes.countP fun n => foldStages project p.stages n ≠ n⟩) := by
  rw [apply, ← List.append_nil nodes, applyFrom_append h]
  simp only [applyFrom, List.append_nil, Stats.countAll, Nat.zero_add]

theorem apply_of_fails {p : Pipeline} {rest : List Node}
    (hbefore : ∀ m ∈ before, Passes project p.stages m)
    (hstages : p.stages = front ++ stage :: back) (hfront : Passes project front n)
    (he : stage.error? project (foldStages project front n) = some e) :
    p.apply project (before ++ n :: rest) =
      (before.map (foldStages project p.stages) ++
        foldStages project (front ++ [stage]) n :: rest, .error e) := by
  have hrun : runStages project p.stages n = (foldStages project (front ++ [stage]) n, some e) := by
    rw [hstages, runStages_of_fails hfront he]
  rw [apply, applyFrom_append hbefore, applyFrom, hrun]

theorem exists_first_failing_node (h : ¬ ∀ n ∈ nodes, Passes project stages n) :
    ∃ before n rest, nodes = before ++ n :: rest ∧ (∀ m ∈ before, Passes project stages m) ∧
      ¬ Passes project stages n := by
  classical
  have hsome : (nodes.find? fun n => ¬ Passes project stages n).isSome := by
    rw [List.find?_isSome]
    simpa using h
  obtain ⟨n, hfound⟩ := Option.isSome_iff_exists.mp hsome
  obtain ⟨hn, before, rest, hnodes, hbefore⟩ := List.find?_eq_some_iff_append.mp hfound
  exact ⟨before, n, rest, hnodes, by simpa using hbefore, by simpa using hn⟩

/-- **What a pipeline leaves.** If every node passes all stages, each becomes the fold of the stages
over it alone, all are counted as seen, and those that came out different as enriched. Else the
error is that of the first failing stage on the first node that has one: the nodes before it are
done, it keeps what its stages did up to and with the failing one, and the nodes after it stay as
they were. -/
theorem apply_outcome (p : Pipeline) (project : String) (nodes : List Node) :
    ((∀ n ∈ nodes, Passes project p.stages n) →
      p.apply project nodes =
        (nodes.map (foldStages project p.stages),
          .ok ⟨nodes.length, nodes.countP fun n => foldStages project p.stages n ≠ n⟩)) ∧
    ((¬ ∀ n ∈ nodes, Passes project p.stages n) →
      ∃ before n rest front stage back e,
        nodes = before ++ n :: rest ∧ (∀ m ∈ before, Passes project p.stages m) ∧
        p.stages = front ++ stage :: back ∧ Passes project front n ∧
        stage.error? project (foldStages project front n) = some e ∧
        p.apply project nodes =
          (before.map (foldStages project p.stages) ++
            foldStages project (front ++ [stage]) n :: rest, .error e)) := by
  refine ⟨apply_of_passes, fun h => ?_⟩
  obtain ⟨before, n, rest, rfl, hbefore, hn⟩ := exists_first_failing_node h
  obtain ⟨front, stage, back, e, hstages, hfront, he⟩ := exists_first_failing_stage hn
  exact ⟨before, n, rest, front, stage, back, e, rfl, hbefore, hstages, hfront, he,
    apply_of_fails hbefore hstages hfront he⟩

/-- A stage that fails on nodes without a name: it lets one node pass and ends the work at
another. -/
theorem apply_outcome_unnamed :
    ∃ p : Pipeline,
      (∀ n ∈ [(⟨"a", ∅, ∅⟩ : Node)], Passes "x" p.stages n) ∧
      p.apply "x" [⟨"a", ∅, ∅⟩] = ([⟨"a", ∅, StringSet.ofList ["all", "named"]⟩], .ok ⟨1, 1⟩) ∧
      (¬ ∀ n ∈ [(⟨"a", ∅, ∅⟩ : Node), ⟨"", ∅, ∅⟩], Passes "x" p.stages n) ∧
      ∃ e, (p.apply "x" [⟨"a", ∅, ∅⟩, ⟨"", ∅, ∅⟩]).2 = .error e := by
  let all : Stage := ⟨"all", "all", fun _ n => (n.withTag "all", none)⟩
  let named : Stage := ⟨"named", "named", fun project n =>
    (n.withTag "named", if n.name = "" then some (.unknownProvider project) else none)⟩
  have hpasses : ∀ n ∈ [(⟨"a", ∅, ∅⟩ : Node)], Passes "x" [all, named] n :=
    List.forall_mem_singleton.mpr (passes_cons.mpr ⟨rfl, passes_cons.mpr ⟨rfl, passes_nil⟩⟩)
  have hfails : ¬ ∀ n ∈ [(⟨"a", ∅, ∅⟩ : Node), ⟨"", ∅, ∅⟩], Passes "x" [all, named] n := by
    intro h
    have hempty := h ⟨"", ∅, ∅⟩ (List.mem_cons_of_mem _ List.mem_cons_self)
    cases (passes_cons.mp (passes_cons.mp hempty).2).1
  obtain ⟨_, _, _, _, _, _, e, _, _, _, _, _, happly⟩ :=
    (apply_outcome ⟨[all, named]⟩ "x" _).2 hfails
  exact ⟨⟨[all, named]⟩, hpasses, (apply_outcome ⟨[all, named]⟩ "x" _).1 hpasses, hfails, e,
    congrArg Prod.snd happly⟩

end Pipeline

end Enrich
