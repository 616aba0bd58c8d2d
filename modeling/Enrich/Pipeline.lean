import Enrich.Config.Basic
import Enrich.Enhancer.Registry

/-!
# Pipelines

A pipeline is a row of enhancers. It is applied to nodes one after the other, and to each node all
stages in order, so that a later stage sees what an earlier one added. The first error stops it, and
what has been changed by then stays.
-/

namespace Enrich

/-- An enhancer under the display name of its entry. -/
structure Stage where
  name : String
  enhancer : Enhancer

/-- The stages to apply, in order. -/
structure Pipeline where
  stages : List Stage

namespace Pipeline

/-- The entry whose enhancer cannot be made, and why. -/
structure BuildError where
  name : String
  cause : EnhancerError

/-- The wording of an error, if it has one of its own. -/
def BuildError.message? (e : BuildError) : Option String :=
  e.cause.message?.map fun message =>
    "Enhancer '" ++ e.name ++ "' failed to build: " ++ message

/-- The stages of some entries, given how many entries come before them. An entry that is not
enabled gives no stage. -/
def buildStages (r : Registry) (index : Nat) : List Config.Entry → Except BuildError (List Stage)
  | [] => .ok []
  | e :: entries =>
    if e.enabled then
      match r.create e.provider (.obj (Toml.membersToJson e.settings)) with
      | .error cause => .error ⟨e.displayName index, cause⟩
      | .ok enhancer =>
        (buildStages r (index + 1) entries).map (⟨e.displayName index, enhancer⟩ :: ·)
    else buildStages r (index + 1) entries

/-- The pipeline of a config. The first entry whose enhancer cannot be made decides the error. -/
def build (r : Registry) (c : Config) : Except BuildError Pipeline :=
  (buildStages r 0 c.entries).map Pipeline.mk

def stageNames (p : Pipeline) : List String :=
  p.stages.map Stage.name

/-- The node after some stages, and the error at which they stopped, if there is one. -/
def runStages (project : String) : List Stage → Node → Node × Option EnhancerError
  | [], n => (n, none)
  | stage :: stages, n =>
    match stage.enhancer.update project n with
    | (n, some e) => (n, some e)
    | (n, none) => runStages project stages n

/-- How many nodes were seen, and how many came out different. -/
structure Stats where
  seen : Nat
  enriched : Nat
  deriving DecidableEq, Repr

/-- The stats with one more node. -/
def Stats.count (s : Stats) (changed : Bool) : Stats :=
  ⟨s.seen + 1, if changed then s.enriched + 1 else s.enriched⟩

/-- The nodes after the pipeline, and the stats or the error at which it stopped, given the stats of
the nodes before them. -/
def applyFrom (p : Pipeline) (project : String) (s : Stats) :
    List Node → List Node × Except EnhancerError Stats
  | [] => ([], .ok s)
  | n :: nodes =>
    match runStages project p.stages n with
    | (after, some e) => (after :: nodes, .error e)
    | (after, none) =>
      let (nodes, result) := p.applyFrom project (s.count (after ≠ n)) nodes
      (after :: nodes, result)

/-- The nodes after the pipeline, and the stats or the error at which it stopped. -/
def apply (p : Pipeline) (project : String) (nodes : List Node) :
    List Node × Except EnhancerError Stats :=
  p.applyFrom project ⟨0, 0⟩ nodes

end Pipeline

end Enrich
