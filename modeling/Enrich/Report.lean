import Enrich.AttributeMatch.Basic
import Enrich.Config.Basic
import Enrich.Node.Change
import Enrich.Pipeline
import Enrich.Text.Lines

/-!
# Reports

What is told to a reader about nodes, rules and configs, as lines of text. A number in a column is
lined up at its end: nothing but blanks stands before it (`dropWhile_blank_aligned`).
-/

namespace Enrich

/-- The line about a change. -/
def Change.line : Change → String
  | replaced key value old => "    ~ " ++ key ++ " = " ++ value ++ " (was " ++ old ++ ")"
  | added key value => "    + " ++ key ++ " = " ++ value
  | tagged tag => "    + #" ++ tag

namespace Report

/-- Lines as one text, each with its end. -/
def unlines (lines : List String) : String :=
  String.join (lines.map (· ++ "\n"))

/-- The lines about the changes of a node. -/
def changes (before after : Node) : List String :=
  (before.changes after).map Change.line

/-- The lines about a node that went through a pipeline. -/
def node (before after : Node) : List String :=
  if before = after then ["· " ++ after.name]
  else ("✓ " ++ after.name) :: changes before after

/-- The lines about the nodes that went through a pipeline. -/
def nodes (before after : List Node) (stats : Pipeline.Stats) : List String :=
  (before.zip after).flatMap (fun (b, a) => node b a) ++
    ["", toString stats.enriched ++ " of " ++ toString stats.seen ++ " nodes enriched"]

/-- The lines about a node that an attribute match was tried on. -/
def tried (before after : Node) : AttributeMatch.Outcome → List String
  | .skipped => ["no match"]
  | .enriched _ _ => "match" :: changes before after

/-- The number with blanks before it, at least `width` characters. -/
def aligned (width n : Nat) : String :=
  let digits := toString n
  String.ofList (List.replicate (width - digits.length) ' ') ++ digits

theorem length_aligned (width n : Nat) :
    (aligned width n).length = max width (toString n).length := by
  simp only [aligned, String.length_append, String.length_ofList, List.length_replicate]
  omega

/-- What stands behind the blanks is the number. -/
theorem dropWhile_blank_aligned (width n : Nat) :
    (aligned width n).toList.dropWhile (· = ' ') = (toString n).toList := by
  have hdigits : (toString n).toList = Nat.toDigits 10 n := Nat.toList_repr
  -- No digit is a blank, so the blanks end where the digits start.
  have hblank : ∀ c ∈ Nat.toDigits 10 n, c ≠ ' ' := by
    intro c hc heq
    have hdigit : c.isDigit = true := Nat.isDigit_of_mem_toDigits (by omega) (by omega) hc
    rw [heq] at hdigit
    exact absurd hdigit (by decide)
  rw [aligned, String.toList_append, String.toList_ofList, hdigits,
    List.dropWhile_append_of_pos (by simp)]
  cases hcons : Nat.toDigits 10 n with
  | nil => rfl
  | cons d ds =>
    have hd : d ≠ ' ' := hblank d (hcons ▸ List.mem_cons_self)
    rw [List.dropWhile_cons_of_neg (by simpa using hd)]

/-- What the report shows as the line with a number. -/
def shownLine (lines : Array String) (number : Nat) : String :=
  lines[number - 1]?.getD ""

/-- The lines about the lines of a rule text that are no rules. -/
def malformedLines (text : String) (numbers : List Nat) : List String :=
  let lines := (Text.reportLines text).toArray
  "⚠️  Malformed rule lines, the rules can never match:" ::
    numbers.map fun number => "  ✗ " ++ aligned 3 number ++ ": " ++ shownLine lines number

/-- The lines about a config that makes a pipeline. -/
def config (path : String) (c : Config) (p : Pipeline) : List String :=
  ("✓ " ++ path ++ " (" ++ toString p.stages.length ++ " enabled of " ++
    toString c.entries.length ++ " enhancers)") ::
    p.stageNames.map ("  • " ++ ·)

end Report

end Enrich
