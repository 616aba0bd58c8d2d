import Enrich.Proofs.Regex.Matching
import Enrich.Proofs.Rule.BadPattern
import Enrich.Proofs.Rule.Opposite
import Mathlib.Data.String.Basic

/-!
# Patterns of plain characters

A pattern without metacharacters is read as its characters one after the other (`parse_plain`), so
the expression for it matches the text of the pattern and nothing else (`matches_ofChars`). In normal
form the expression is one literal, and the automata grow with the bytes of the text
(`bytes_ofChars_le`): a plain pattern that is not too long is not too large either
(`compile_plain`). So the operators with a pattern ask of a value what those for equality ask
(`condition_plain`).
-/

namespace Enrich

/-! ## Sizes -/

theorem CharSet.edges_singleton (c : Char) :
    (CharSet.singleton c).edges = [c.toNat, c.toNat + 1] := by
  have hwritten : (CharSet.singleton c).writtenEdges = [c.toNat, c.toNat + 1] := by
    simp [singleton, range, writtenEdges, Edges.ofRanges]
  have hvalid : c.toNat < 0xD800 ∨ 0xDFFF < c.toNat ∧ c.toNat < 0x110000 := c.valid
  rw [edges, hwritten]
  generalize c.toNat = code at hvalid
  simp only [Edges.combine, characterEdges, List.length_cons, List.length_nil, Edges.combineFrom,
    Edges.keepEdge]
  rcases hvalid with hbelow | ⟨habove, hlast⟩
  · grind
  · grind

theorem Utf8.length_encode (c : Char) : (Utf8.encode c.toNat).length = c.utf8Size := by
  have hle : ∀ last (h : last < UInt32.size), c.val ≤ .ofNatLT last h ↔ c.toNat < last + 1 := by
    intro last h
    rw [UInt32.le_iff_toNat_le, UInt32.toNat_ofNatLT, Nat.lt_succ_iff]
    rfl
  simp only [Utf8.encode, Char.utf8Size, hle]
  split_ifs <;> rfl

theorem Utf8.length_flatMap_encode (chars : List Char) :
    ((chars.map Char.toNat).flatMap Utf8.encode).length = String.utf8Len chars := by
  induction chars with
  | nil => rfl
  | cons c chars ih =>
    rw [List.map_cons, List.flatMap_cons, List.length_append, Utf8.length_encode, ih,
      String.utf8Len_cons, Nat.add_comm]

namespace Regex

/-- The expression for some characters one after the other. -/
def ofChars : List Char → Regex
  | [] => .empty
  | [c] => .set (.singleton c)
  | c :: d :: chars => .seq (.set (.singleton c)) (ofChars (d :: chars))

variable {c : Char} {chars text : List Char} {before after : Option Char}

theorem matches_singleton : (Regex.set (.singleton c)).Matches before text after ↔ text = [c] := by
  simp [Matches]

/-- The expression for some characters matches these and nothing else, wherever it stands. -/
theorem matches_ofChars : (ofChars chars).Matches before text after ↔ text = chars := by
  induction chars using ofChars.induct generalizing before text after with
  | case1 => rfl
  | case2 c => exact matches_singleton
  | case3 c d chars ih =>
    constructor
    · rintro ⟨s, t, rfl, hs, ht⟩
      rw [matches_singleton.mp hs, ih.mp ht]
      rfl
    · rintro rfl
      exact ⟨[c], d :: chars, rfl, matches_singleton.mpr rfl, ih.mpr rfl⟩

theorem matchesWhole_ofChars (value text : String) :
    (ofChars text.toList).matchesWhole value = (value == text) := by
  rw [Bool.eq_iff_iff, matchesWhole_iff, matches_ofChars, beq_iff_eq, String.toList_inj]

theorem form_singleton (c : Char) : (Regex.set (.singleton c)).form = .literal [c.toNat] := by
  simp [form, branchForms, Form.ofBranches, CharSet.edges_singleton, Form.ofEdges]

/-- Literals one after the other are one literal in normal form. -/
theorem form_ofChars (c : Char) (chars : List Char) :
    (ofChars (c :: chars)).form = .literal ((c :: chars).map Char.toNat) := by
  induction chars generalizing c with
  | nil => exact form_singleton c
  | cons d chars ih =>
    have hseq : (ofChars (c :: d :: chars)).form =
        (Regex.set (.singleton c)).form.append (ofChars (d :: chars)).form := rfl
    rw [hseq, form_singleton, ih]
    rfl

/-- The automata have one state for each byte of the characters and six others at most. -/
theorem bytes_ofChars_le (direction : Direction) (chars : List Char) :
    (ofChars chars).bytes direction ≤ stateBytes * (String.utf8Len chars + 6) := by
  cases chars with
  | nil => cases direction <;> decide
  | cons c chars =>
    let codes := (c :: chars).map Char.toNat
    have hwhole : (ofChars (c :: chars)).bytes direction =
        stateBytes + (if direction = .forward then 2 * stateBytes else 0) +
          (stateBytes + (stateBytes * (codes.flatMap Utf8.encode).length + stateBytes)) +
          stateBytes := by
      rw [bytes, form_ofChars]
      rfl
    rw [hwhole, Utf8.length_flatMap_encode, Nat.mul_add]
    split
    · omega
    · omega

theorem fits_ofChars (h : String.utf8Len chars ≤ maxPatternBytes) : (ofChars chars).fits = true := by
  have hbytes : ∀ direction, (ofChars chars).bytes direction ≤ maxBytes := by
    intro direction
    refine (bytes_ofChars_le direction chars).trans ?_
    simp only [stateBytes, maxBytes, maxPatternBytes] at h ⊢
    omega
  simp [fits, hbytes]

end Regex

/-! ## The pattern -/

namespace Pattern

/-- The characters that may write something else than themselves, and those that end it. -/
def metacharacters : List Char :=
  ['\\', '.', '+', '*', '?', '(', ')', '|', '[', ']', '{', '}', '^', '$']

/-- Whether a text has no metacharacter. -/
def IsPlain (text : String) : Prop :=
  ∀ c ∈ text.toList, c ∉ metacharacters

instance (text : String) : Decidable (IsPlain text) :=
  List.decidableBAll (· ∉ metacharacters) text.toList

/-- The patterns of some characters that stand for themselves. -/
def literals (chars : List Char) : List Pattern :=
  chars.map fun c => .literal ⟨c, false⟩

variable {s : Progress} {c : Char} {chars rest : List Char} {text : String}

theorem step_plain (h : c ∉ metacharacters) :
    s.step c rest = .ok (s.push (.literal ⟨c, false⟩), rest) := by
  unfold Progress.step
  split <;> first | rfl | exact absurd (by decide) h

theorem run_plain (h : ∀ c ∈ chars, c ∉ metacharacters) (hverbose : s.verbose = false) :
    s.run chars.length chars =
      .ok { s with items := (literals chars).reverse ++ s.items } := by
  induction chars generalizing s with
  | nil => rfl
  | cons c chars ih =>
    obtain ⟨hc, hchars⟩ := List.forall_mem_cons.mp h
    have hskip : skip s.verbose (c :: chars) = c :: chars := by
      rw [hverbose]
      rfl
    have hrest := @ih (s.push (.literal ⟨c, false⟩)) hchars hverbose
    rw [List.length_cons, Progress.run, hskip]
    simp only [step_plain hc, hrest]
    simp [Progress.push, literals]

theorem ofItems_literals (c d : Char) (chars : List Char) :
    ofItems (literals (c :: d :: chars)) = .concat (literals (c :: d :: chars)) := rfl

theorem depthOfAll_literals (chars : List Char) : depthOfAll (literals chars) = 0 := by
  induction chars with
  | nil => rfl
  | cons c chars ih =>
    rw [literals, List.map_cons, depthOfAll, ← literals, ih]
    rfl

theorem depth_literals (chars : List Char) : (ofItems (literals chars)).depth ≤ 1 := by
  match chars with
  | [] | [_] => exact Nat.zero_le 1
  | c :: d :: chars => rw [ofItems_literals, depth, depthOfAll_literals]

/-- A plain text is the pattern of its characters one after the other. -/
theorem parse_plain (h : IsPlain text) : parse text = .ok (ofItems (literals text.toList)) := by
  have hrun : Progress.run {} text.toList.length text.toList =
      .ok { items := (literals text.toList).reverse } := by
    simpa using @run_plain {} text.toList h rfl
  have hbody : Progress.body { items := (literals text.toList).reverse } =
      ofItems (literals text.toList) := by
    rw [Progress.body, List.reverse_reverse]
    rfl
  have hdepth : ¬ maxDepth < (ofItems (literals text.toList)).depth :=
    Nat.not_lt.mpr ((depth_literals _).trans (by decide))
  unfold parse
  simp [bind, Except.bind, hrun, hbody, hdepth, pure, Except.pure]

theorem concatUnder_literals (chars : List Char) :
    concatUnder {} (literals chars) = .ok (.ofChars chars, {}) := by
  induction chars using Regex.ofChars.induct with
  | case1 | case2 => rfl
  | case3 c d chars ih =>
    have hfirst : regexUnder {} (.literal ⟨c, false⟩) = .ok (.set (.singleton c), {}) := rfl
    have hrest : literals (d :: chars) ≠ [] := List.cons_ne_nil _ _
    rw [literals, List.map_cons, ← literals, concatUnder, hfirst]
    · simp only [bind, Except.bind, ih]
      rfl
    · exact hrest

theorem toRegex_literals (chars : List Char) :
    (ofItems (literals chars)).toRegex = .ok (.ofChars chars) := by
  match chars with
  | [] | [_] => rfl
  | c :: d :: chars =>
    rw [ofItems_literals, toRegex, regexUnder, concatUnder_literals]
    rfl

/-- A plain text that is not too long compiles to the expression for its characters. -/
theorem compile_plain (h : IsPlain text) (hshort : text.utf8ByteSize ≤ 500) :
    compile text = .ok (.ofChars text.toList) := by
  have hbytes : String.utf8Len text.toList ≤ maxPatternBytes := by
    rwa [← String.utf8ByteSize_ofList, String.ofList_toList]
  rw [compile_of_short hshort, parse_plain h]
  simp only [Except.bind, toRegex_literals, Regex.fits_ofChars hbytes, if_true]

end Pattern

/-! ## The rules -/

namespace Rule

namespace Line

variable {r : Line} {op : Operator}

theorem Writable.congr (hr : r.Writable)
    (hhead : op.token.toList.head? = r.operator.token.toList.head?)
    (hoperand : op.takesOperand = true) : { r with operator := op }.Writable := by
  obtain ⟨hne, hkey, hnewline, hends, -⟩ := writable_iff.mp hr
  refine writable_iff.mpr ⟨hne, hkey, hnewline, hends.congr hhead, fun h => ?_⟩
  rw [hoperand] at h
  cases h

/-- Lines with operators that start alike and take an operand are rules for the same key. -/
theorem parse?_congr (key operand : String) (op op' : Operator)
    (hhead : op'.token.toList.head? = op.token.toList.head?)
    (hoperand : op.takesOperand = true) (hoperand' : op'.takesOperand = true) :
    parse? (toString ⟨key, op, operand⟩) = some ⟨key, op, operand⟩ ↔
      parse? (toString ⟨key, op', operand⟩) = some ⟨key, op', operand⟩ := by
  rw [parse?_eq_some_iff, parse?_eq_some_iff, and_iff_right rfl, and_iff_right rfl]
  exact ⟨fun hr => hr.congr hhead hoperand', fun hr => hr.congr hhead.symm hoperand⟩

end Line

/-- **A plain pattern asks for equality.** If the operand of a rule has no metacharacter and at most
500 bytes, it can be compiled, and the rule with `=~` holds on just the values on which the one with
`==` holds, and the rule with `!~` on just those on which the one with `!=` holds. Either both lines
are rules for a key or none is. -/
theorem condition_plain {operand : String} (hplain : Pattern.IsPlain operand)
    (hshort : operand.utf8ByteSize ≤ 500) (key : String) :
    (Line.parse? (key ++ "=~" ++ operand) = some ⟨key, .regexMatch, operand⟩ ↔
      Line.parse? (key ++ "==" ++ operand) = some ⟨key, .equals, operand⟩) ∧
    (Line.parse? (key ++ "!~" ++ operand) = some ⟨key, .regexNotMatch, operand⟩ ↔
      Line.parse? (key ++ "!=" ++ operand) = some ⟨key, .notEquals, operand⟩) ∧
    ∃ matching equal noMatching unequal : Condition,
      (⟨key, .regexMatch, operand⟩ : Line).condition = .ok matching ∧
      (⟨key, .equals, operand⟩ : Line).condition = .ok equal ∧
      (⟨key, .regexNotMatch, operand⟩ : Line).condition = .ok noMatching ∧
      (⟨key, .notEquals, operand⟩ : Line).condition = .ok unequal ∧
      ∀ value, matching.test value = equal.test value ∧
        noMatching.test value = unequal.test value := by
  have hcompile := Pattern.compile_plain hplain hshort
  have hmatch : ∀ value : Option String,
      value.any (Regex.ofChars operand.toList).matchesWhole = (value == some operand) := by
    intro value
    cases value with
    | none => rfl
    | some value => exact Regex.matchesWhole_ofChars value operand
  refine ⟨Line.parse?_congr key operand .regexMatch .equals (by decide) rfl rfl,
    Line.parse?_congr key operand .regexNotMatch .notEquals (by decide) rfl rfl,
    _, _, _, _, map_eq_ok.mpr ⟨_, hcompile, rfl⟩, rfl, map_eq_ok.mpr ⟨_, hcompile, rfl⟩, rfl,
    fun value => ⟨hmatch value, ?_⟩⟩
  exact congrArg not (hmatch value)

/-- The operand holds blanks, what starts a comment elsewhere, tokens and a character of several
bytes. -/
theorem condition_plain_blanks :
    Line.parse? ("=" ++ "==" ++ " #é ~~=") = some ⟨"=", .equals, " #é ~~="⟩ ∧
      Pattern.IsPlain " #é ~~=" ∧ " #é ~~=".utf8ByteSize ≤ 500 ∧
      Line.parse? ("=" ++ "=~" ++ " #é ~~=") = some ⟨"=", .regexMatch, " #é ~~="⟩ ∧
      ∃ matching noMatching : Condition,
        (⟨"=", .regexMatch, " #é ~~="⟩ : Line).condition = .ok matching ∧
        (⟨"=", .regexNotMatch, " #é ~~="⟩ : Line).condition = .ok noMatching ∧
        matching.test (some " #é ~~=") = true ∧ noMatching.test (some " #é ~~=\n") = true ∧
        noMatching.test none = true := by
  have hplain : Pattern.IsPlain " #é ~~=" := by decide
  have hshort : " #é ~~=".utf8ByteSize ≤ 500 := by decide
  have hparse : Line.parse? ("=" ++ "==" ++ " #é ~~=") = some ⟨"=", .equals, " #é ~~="⟩ := by decide
  obtain ⟨hlines, -, matching, equal, noMatching, unequal, hmatching, hequal, hnoMatching, hunequal,
    htest⟩ := condition_plain hplain hshort "="
  cases hequal
  cases hunequal
  refine ⟨hparse, hplain, hshort, hlines.mpr hparse, matching, noMatching, hmatching, hnoMatching,
    ?_, ?_, ?_⟩
  · rw [(htest _).1]
    decide
  · rw [(htest _).2]
    decide
  · rw [(htest _).2]
    decide

end Rule

end Enrich
