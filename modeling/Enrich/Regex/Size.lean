import Enrich.Regex.Form
import Std.Data.TreeSet

/-!
# Size of a regular expression

The memory that the automata for an expression take: one that reads text forwards and notes what is
captured, and one that reads it backwards. Each state takes the same room, and a state with several
ways on takes more for each of them. A repetition is laid out as often as it may run, so nested
counts multiply; the limit on the size keeps hostile patterns out.
-/

namespace Enrich.Regex

/-- The way in which an automaton reads text. -/
inductive Direction where
  | forward
  | backward
  deriving DecidableEq, Repr

/-- Bytes that one state of an automaton takes. -/
def stateBytes : Nat := 32

/-- Bytes for a state that goes on in `count` ways without reading. -/
def forkBytes (count : Nat) : Nat := stateBytes + 4 * count

/-- Bytes for a state that reads a byte of one of `count` ranges. -/
def choiceBytes (count : Nat) : Nat := stateBytes + 8 * count

/-! ## Classes -/

/-- The number of items with which two lists start alike. -/
def sharedLength : List ByteRange → List ByteRange → Nat
  | a :: as, b :: bs => if a = b then sharedLength as bs + 1 else 0
  | _, _ => 0

/-- Bytes for reading some sequences backwards. What a sequence starts with, and the sequence before
it too, is laid out once. -/
def sequenceBytes (before : List ByteRange) : List (List ByteRange) → Nat
  | [] => 0
  | s :: rest => stateBytes * (s.length - sharedLength before s) + sequenceBytes s rest

/-- What may follow at each place of some sequences, as lists of sequences; `fuel` bounds their
lengths. -/
def continuations : Nat → List (List ByteRange) → List (List (List ByteRange))
  | 0, _ => []
  | fuel + 1, sequences =>
    if sequences.all List.isEmpty then []
    else sequences ::
      (sequences.splitBy (·.head? == ·.head?)).flatMap fun group =>
        continuations fuel (group.map List.tail)

/-- The number of byte ranges that some sequences start with. -/
def choices (sequences : List (List ByteRange)) : Nat :=
  (sequences.splitBy (·.head? == ·.head?)).length

/-- Bytes for reading some sequences forwards. Places with the same continuation are one state. -/
def continuationBytes (sequences : List (List ByteRange)) : Nat :=
  let distinct : Std.TreeSet (List (List ByteRange)) := .ofList (continuations 5 sequences)
  distinct.foldl (fun bytes s => bytes + choiceBytes (choices s)) 0

/-- Bytes for the class of the characters between some edges. -/
def classBytes (direction : Direction) (es : Edges) : Nat :=
  let sequences := Utf8.sequences es
  if sequences.all (·.length == 1) then stateBytes + choiceBytes sequences.length
  else
    match direction with
    | .forward => stateBytes + continuationBytes sequences
    | .backward => stateBytes + forkBytes sequences.length + sequenceBytes [] sequences

/-! ## Literals -/

/-- Bytes for reading one of some words, given without what has been read of them, in the order in
which they are tried. The words tried before one that ends here are kept apart from those behind it.
-/
def wordBytes : Nat → List (List Nat) → Nat
  | 0, _ => 0
  | fuel + 1, words =>
    let words := if words.head? == some [] then [] :: words.dropWhile List.isEmpty else words
    let groups := words.splitOn []
    let parts := groups.filter (!·.isEmpty)
    if parts.isEmpty then 0
    else
      let ways := parts.length + (groups.length - 1)
      (if ways = 1 then 0 else forkBytes ways) +
        (parts.map fun part =>
          let firsts := (part.map List.head?).eraseDups
          (if firsts.length = 1 then stateBytes else choiceBytes firsts.length) +
            (firsts.map fun first =>
              wordBytes fuel ((part.filter (·.head? == first)).map List.tail)).sum).sum

/-- Bytes for reading one of some literals. -/
def literalsBytes (direction : Direction) (literals : List (List Nat)) : Nat :=
  let words := literals.map fun codes =>
    let bytes := codes.flatMap Utf8.encode
    match direction with
    | .forward => bytes
    | .backward => bytes.reverse
  stateBytes + wordBytes ((words.map List.length).foldl max 0 + 1) words

/-! ## Expressions -/

namespace Form

/-- The characters of a literal. -/
def codes? : Form → Option (List Nat)
  | literal codes => some codes
  | _ => none

mutual

/-- The fewest characters that the form reads, if it holds no class without characters. -/
def minLength? : Form → Option Nat
  | empty | look _ => some 0
  | literal codes => some codes.length
  | chars es => if es.isEmpty then none else some 1
  | capture body => body.minLength?
  | rep body min _ => body.minLength?.map (· * min)
  | concat items => minLengths? items |>.map List.sum
  | alternation branches => minLengths? branches |>.bind List.min?

/-- The fewest characters that each of some forms reads, if none holds a class without
characters. -/
def minLengths? : List Form → Option (List Nat)
  | [] => some []
  | form :: forms => do pure ((← form.minLength?) :: (← minLengths? forms))

end

/-- Whether it is certain that the form reads something. -/
def consumes (form : Form) : Bool :=
  form.minLength?.any (0 < ·)

/-- Bytes for at least `min` and at most `more` further rounds of a body that takes `bytes`. -/
def roundsBytes (bytes : Nat) (consumes : Bool) : Nat → Option Nat → Nat
  | 0, none =>
    if consumes then forkBytes 2 + bytes else bytes + forkBytes 2 + forkBytes 2 + stateBytes
  | min + 1, none => (min + 1) * bytes + forkBytes 2
  | 0, some 1 => forkBytes 2 + bytes + stateBytes
  | min + 1, some 0 => (min + 1) * bytes
  | min, some more =>
    (if min = 0 then stateBytes else min * bytes) + stateBytes + more * (forkBytes 2 + bytes)

mutual

/-- Bytes for an automaton of the form. -/
def bytes (direction : Direction) : Form → Nat
  | empty | look _ => stateBytes
  | literal codes => stateBytes * (codes.flatMap Utf8.encode).length
  | chars es => classBytes direction es
  | capture body =>
    bytes direction body + if direction = .forward then 2 * stateBytes else 0
  | rep body min more => roundsBytes (bytes direction body) body.consumes min more
  | concat items => (bytesOfEach direction items).sum
  | alternation branches =>
    match branches.mapM codes? with
    | some literals => literalsBytes direction literals
    | none => forkBytes branches.length + stateBytes + (bytesOfEach direction branches).sum

/-- Bytes for an automaton of each form. -/
def bytesOfEach (direction : Direction) : List Form → List Nat
  | [] => []
  | form :: forms => bytes direction form :: bytesOfEach direction forms

end

end Form

/-- Bytes for an automaton that matches whole texts: a start, the two ends of the text, a match,
and, forwards, a capture of the whole. -/
def bytes (direction : Direction) (r : Regex) : Nat :=
  let whole := (Form.look .textStart).append (r.form.append (.look .textEnd))
  stateBytes + (if direction = .forward then 2 * stateBytes else 0) + whole.bytes direction +
    stateBytes

/-- The most bytes that an automaton may take. -/
def maxBytes : Nat := 10000000

/-- Whether neither automaton takes too many bytes. -/
def fits (r : Regex) : Bool :=
  r.bytes .backward ≤ maxBytes && r.bytes .forward ≤ maxBytes

end Enrich.Regex
