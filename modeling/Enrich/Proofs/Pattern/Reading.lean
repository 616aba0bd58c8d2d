import Enrich.Pattern.Meaning
import Enrich.Proofs.Pattern.Counts

/-!
# What a pattern reads

`Pattern.Reads` says of a pattern as it is written which pieces of text it matches, with the flags
followed in reading order. An expression made from a pattern means just that (`compile_spec`):
that a repetition without width is cut down to one round, and that greed is forgotten, changes
nothing.
-/

namespace Enrich

open Regex (Reading)

namespace Pattern

/-! ## Flags behind a pattern -/

mutual

/-- The flags that hold behind a pattern. A group keeps its switches to itself. -/
def flagsBehind (f : Flags) : Pattern → Flags
  | switch switches => f.switch switches
  | repetition body _ _ _ => flagsBehind f body
  | alternation branches => flagsBehindAll f branches
  | concat items => flagsBehindAll f items
  | _ => f

/-- The flags that hold behind some patterns, one after the other. -/
def flagsBehindAll (f : Flags) : List Pattern → Flags
  | [] => f
  | p :: ps => flagsBehindAll (flagsBehind f p) ps

end

/-! ## The relation -/

/-- Reads one character of a set, if there is such a set. -/
def OneOf (set : Except PatternError CharSet) : Reading := fun _ text _ =>
  ∃ s c, set = .ok s ∧ text = [c] ∧ s.contains c = true

/-- Reads a number of rounds that is at least `min` and at most `max`. -/
def Between (m : Reading) (min : Nat) (max : Option Nat) : Reading := fun before text after =>
  ∃ n, min ≤ n ∧ (∀ most, max = some most → n ≤ most) ∧ m.Rounds n before text after

mutual

/-- What a pattern reads under some flags. -/
def Reads (f : Flags) : Pattern → Reading
  | empty | switch _ => fun _ text _ => text = []
  | literal l => OneOf (.ok (f.fold (.singleton l.char)))
  | dot => fun _ text _ =>
    ∃ c, text = [c] ∧ (f.dotAll = true ∨ (c ≠ '\n' ∧ (f.crlf = true → c ≠ '\r')))
  | anchor a => fun before text after => text = [] ∧ (f.assertion a).holds before after = true
  | letter kind negated => OneOf (f.letterSet kind negated)
  | unicode query negated => OneOf (f.unicodeSet query negated)
  | bracket negated body => OneOf (bracketSet f body >>= fun s => f.negate negated (f.fold s))
  | repetition body min max _ => Between (Reads f body) min max
  | group (.plain switches) body => Reads (f.switch switches) body
  | group .capture body => Reads f body
  | alternation branches => ReadsSome f branches
  | concat items => ReadsAll f items

/-- What some patterns read one after the other. -/
def ReadsAll (f : Flags) : List Pattern → Reading
  | [] => fun _ text _ => text = []
  | p :: ps => (Reads f p).Then (ReadsAll (flagsBehind f p) ps)

/-- What one of some patterns reads. -/
def ReadsSome (f : Flags) : List Pattern → Reading
  | [] => fun _ _ _ => False
  | p :: ps => fun before text after =>
    Reads f p before text after ∨ ReadsSome (flagsBehind f p) ps before text after

end

theorem readsAll_cons (f : Flags) (p : Pattern) (ps : List Pattern) :
    ReadsAll f (p :: ps) = (Reads f p).Then (ReadsAll (flagsBehind f p) ps) := by
  rw [ReadsAll]

theorem readsSome_cons (f : Flags) (p : Pattern) (ps : List Pattern) :
    ReadsSome f (p :: ps) = fun before text after =>
      Reads f p before text after ∨ ReadsSome (flagsBehind f p) ps before text after := by
  rw [ReadsSome]

/-- Whether a pattern matches the whole of a text. -/
def MatchesWhole (p : Pattern) (text : String) : Prop :=
  p.Reads {} none text.toList none

/-! ## Rounds -/

theorem then_nil (m : Reading) : m.Then (fun _ text _ => text = []) = m := by
  funext before text after
  refine propext ⟨?_, fun h => ⟨text, [], by simp, by simpa using h, rfl⟩⟩
  rintro ⟨s, t, rfl, hm, rfl⟩
  simpa using hm

theorem rounds_one (m : Reading) : m.Rounds 1 = m := then_nil m

theorem between_zero_zero (m : Reading) : Between m 0 (some 0) = fun _ text _ => text = [] := by
  funext before text after
  refine propext ⟨?_, fun h => ⟨0, Nat.le_refl _, by simp, h⟩⟩
  rintro ⟨n, -, hmax, h⟩
  obtain rfl : n = 0 := Nat.le_zero.mp (hmax 0 rfl)
  exact h

theorem between_one_one (m : Reading) : Between m 1 (some 1) = m := by
  funext before text after
  refine propext ⟨?_, fun h => ⟨1, Nat.le_refl _, by simp, by rwa [rounds_one]⟩⟩
  rintro ⟨n, hmin, hmax, h⟩
  obtain rfl : n = 1 := Nat.le_antisymm (hmax 1 rfl) hmin
  rwa [rounds_one] at h

/-- Rounds of a reading without width read nothing, and if there are any, one would do. -/
theorem rounds_iff_of_zeroWidth {m : Reading}
    (hm : ∀ before text after, m before text after → text = []) (n : Nat)
    (before : Option Char) (text : List Char) (after : Option Char) :
    m.Rounds n before text after ↔ text = [] ∧ (n = 0 ∨ m before [] after) := by
  induction n generalizing before text after with
  | zero => simp [Reading.Rounds]
  | succ n ih =>
    constructor
    · rintro ⟨s, t, rfl, hs, ht⟩
      obtain rfl := hm _ _ _ hs
      obtain ⟨rfl, -⟩ := (ih _ _ _).mp ht
      exact ⟨rfl, .inr hs⟩
    · rintro ⟨rfl, hn | hone⟩
      · omega
      · exact ⟨[], [], rfl, hone, (ih _ _ _).mpr ⟨rfl, .inr hone⟩⟩

/-- A reading without width is as good in at most one round. -/
theorem between_of_zeroWidth {m : Reading}
    (hm : ∀ before text after, m before text after → text = []) {least : Nat}
    {greatest : Option Nat} (hordered : ∀ most, greatest = some most → least ≤ most) :
    Between m (min least 1) (some (min (greatest.getD 1) 1)) = Between m least greatest := by
  funext before text after
  simp only [Between, rounds_iff_of_zeroWidth hm]
  refine propext ⟨?_, ?_⟩
  · rintro ⟨n, hleast, hgreatest, htext, hround⟩
    have hgreatest := hgreatest _ rfl
    by_cases hn : n = 0
    · exact ⟨0, by omega, by simp, htext, .inl rfl⟩
    · refine ⟨max least 1, by omega, ?_, htext, .inr (hround.resolve_left hn)⟩
      intro most hmost
      have hle := hordered most hmost
      rw [hmost, Option.getD_some] at hgreatest
      omega
  · rintro ⟨n, hleast, hgreatest, htext, hround⟩
    refine ⟨min n 1, by omega, ?_, htext, hround.imp (by omega) id⟩
    rintro most hmost
    obtain rfl := Option.some.inj hmost
    cases greatest with
    | none => exact Nat.min_le_right n 1
    | some most =>
      have := hgreatest most rfl
      simp only [Option.getD_some]
      omega

end Pattern

/-! ## Expressions made from patterns -/

/-- An expression without width matches nothing but the empty text. -/
theorem Regex.eq_nil_of_zeroWidth {r : Regex} (h : r.zeroWidth = true) :
    ∀ {before : Option Char} {text : List Char} {after : Option Char},
      r.Matches before text after → text = [] := by
  induction r with
  | empty => exact fun hm => hm
  | set s => cases h
  | look a => exact fun hm => hm.1
  | seq a b iha ihb =>
    rw [zeroWidth, Bool.and_eq_true] at h
    rintro _ _ _ ⟨s, t, rfl, hs, ht⟩
    rw [iha h.1 hs, ihb h.2 ht, List.nil_append]
  | alt a b iha ihb =>
    rw [zeroWidth, Bool.and_eq_true] at h
    rintro _ _ _ (hm | hm)
    · exact iha h.1 hm
    · exact ihb h.2 hm
  | group _ a iha => exact iha h
  | rep a min more iha =>
    rw [zeroWidth, Bool.or_eq_true, Bool.and_eq_true, beq_iff_eq, beq_iff_eq] at h
    rintro before text after ⟨n, -, hmore, hround⟩
    rcases h with h | ⟨rfl, hnone⟩
    · exact ((Pattern.rounds_iff_of_zeroWidth (fun _ _ _ => iha h) n before text after).mp hround).1
    · obtain rfl : n = 0 := Nat.le_zero.mp (hmore 0 hnone)
      exact hround

namespace Pattern

theorem matches_rep {r : Regex} {min : Nat} {max : Option Nat}
    (hordered : ∀ most, max = some most → min ≤ most) :
    (Regex.rep r min (max.map (· - min))).Matches = Between r.Matches min max := by
  funext before text after
  have hbound : ∀ n, min ≤ n → ((∀ m, max.map (· - min) = some m → n ≤ min + m) ↔
      ∀ most, max = some most → n ≤ most) := by
    intro n hmin
    cases max with
    | none => simp
    | some most =>
      have hle := hordered most rfl
      simp only [Option.map_some, Option.some.injEq, forall_eq']
      omega
  refine propext (exists_congr fun n => and_congr_right fun hmin => ?_)
  rw [hbound n hmin]

/-- A repetition means rounds between its bounds, whatever shape it is given. -/
theorem matches_repeatRegex {r : Regex} {least : Nat} {greatest : Option Nat}
    (hordered : ∀ most, greatest = some most → least ≤ most) :
    (repeatRegex r least greatest).Matches = Between r.Matches least greatest := by
  unfold repeatRegex
  split
  · next low high hbounds =>
    -- the bounds that count are ordered too, and mean the same
    have hsame : (∀ most, high = some most → low ≤ most) ∧
        Between r.Matches low high = Between r.Matches least greatest := by
      split at hbounds
      · next hzero =>
        cases hbounds
        refine ⟨?_, between_of_zeroWidth (fun _ _ _ => Regex.eq_nil_of_zeroWidth hzero) hordered⟩
        intro most hmost
        obtain rfl := Option.some.inj hmost
        cases greatest with
        | none => exact Nat.min_le_right least 1
        | some most =>
          have hle := hordered most rfl
          show min least 1 ≤ min most 1
          omega
      · cases hbounds
        exact ⟨hordered, rfl⟩
    rw [← hsame.2]
    split
    · exact (between_zero_zero r.Matches).symm
    · exact (between_one_one r.Matches).symm
    · exact matches_rep hsame.1

/-! ### Sets -/

theorem matches_set (s : CharSet) : (Regex.set s).Matches = OneOf (.ok s) := by
  funext before text after
  refine propext ⟨?_, ?_⟩
  · rintro ⟨c, htext, hc⟩
    exact ⟨s, c, rfl, htext, hc⟩
  · rintro ⟨s, c, hs, htext, hc⟩
    cases hs
    exact ⟨c, htext, hc⟩

theorem matches_none : (Regex.set .none).Matches = fun _ _ _ => False := by
  funext before text after
  refine propext ⟨?_, False.elim⟩
  rintro ⟨c, -, hc⟩
  cases hc

theorem contains_all (c : Char) : CharSet.all.contains c = true := by
  have hle : c.toNat ≤ 0x10FFFF := by
    have hvalid := c.valid
    rw [UInt32.isValidChar, Nat.isValidChar] at hvalid
    have : c.val.toNat = c.toNat := rfl
    omega
  simp [CharSet.contains, CharSet.all, CharSet.containsCode, CharSet.inRanges, hle]

theorem contains_compl (s : CharSet) (c : Char) :
    (CharSet.compl s).contains c = true ↔ ¬ s.contains c = true := by
  simp [CharSet.contains, CharSet.containsCode]

theorem contains_newline (c : Char) : (CharSet.ofHex "A").contains c = true ↔ c = '\n' := by
  have hset : CharSet.ofHex "A" = .singleton '\n' := by decide
  rw [hset, CharSet.contains_singleton, beq_iff_eq]

theorem contains_lineEnd (c : Char) :
    (CharSet.ofHex "A D").contains c = true ↔ c = '\n' ∨ c = '\r' := by
  have hset : CharSet.ofHex "A D" = .ranges [⟨0xA, 0xA⟩, ⟨0xD, 0xD⟩] := by decide
  have hnewline := contains_newline c
  have hreturn : (CharSet.singleton '\r').contains c = true ↔ c = '\r' := by
    rw [CharSet.contains_singleton, beq_iff_eq]
  rw [← hnewline, ← hreturn, hset, show CharSet.ofHex "A" = .ranges [⟨0xA, 0xA⟩] by decide]
  simp only [CharSet.contains, CharSet.containsCode, CharSet.inRanges, CharSet.singleton,
    CharSet.range]
  grind

theorem matches_dotRegex {f : Flags} {r : Regex} (h : f.dotRegex = .ok r) :
    r.Matches = Reads f .dot := by
  have hset : ∀ s : CharSet, (∀ c, s.contains c = true ↔
      (f.dotAll = true ∨ (c ≠ '\n' ∧ (f.crlf = true → c ≠ '\r')))) →
      (Regex.set s).Matches = Reads f .dot := by
    intro s hs
    funext before text after
    simp only [Regex.Matches, Reads, hs]
  unfold Flags.dotRegex at h
  split at h
  · cases h
  · split at h
    · next hall =>
      cases h
      exact hset _ fun c => iff_of_true (contains_all c) (.inl hall)
    · next hall =>
      split at h
      · next hcrlf =>
        cases h
        refine hset _ fun c => ?_
        rw [contains_compl, contains_lineEnd]
        simp [hall, hcrlf]
      · next hcrlf =>
        cases h
        refine hset _ fun c => ?_
        rw [contains_compl, contains_newline]
        simp [hall, hcrlf]

/-! ### Patterns -/

mutual

/-- The expression for a pattern means what the pattern reads. -/
theorem regexUnder_spec : ∀ (p : Pattern) {f g : Flags} {r : Regex},
    p.CountsOrdered → regexUnder f p = .ok (r, g) → r.Matches = Reads f p ∧ g = flagsBehind f p
  | empty, f, g, r, _, h => by
    cases h
    exact ⟨rfl, rfl⟩
  | switch _, f, g, r, _, h => by
    cases h
    exact ⟨rfl, rfl⟩
  | literal l, f, g, r, _, h => by
    obtain ⟨s, hs, h⟩ := bind_eq_ok.mp h
    cases h
    unfold Flags.literalRegex at hs
    split at hs
    · cases hs
    · cases hs
      exact ⟨matches_set _, rfl⟩
  | dot, f, g, r, _, h => by
    obtain ⟨s, hs, h⟩ := bind_eq_ok.mp h
    cases h
    exact ⟨matches_dotRegex hs, rfl⟩
  | anchor a, f, g, r, _, h => by
    cases h
    exact ⟨rfl, rfl⟩
  | letter kind negated, f, g, r, _, h => by
    obtain ⟨s, hs, h⟩ := bind_eq_ok.mp h
    cases h
    exact ⟨by rw [matches_set, Reads, hs], rfl⟩
  | unicode query negated, f, g, r, _, h => by
    obtain ⟨s, hs, h⟩ := bind_eq_ok.mp h
    cases h
    exact ⟨by rw [matches_set, Reads, hs], rfl⟩
  | bracket negated body, f, g, r, _, h => by
    obtain ⟨t, ht, h⟩ := bind_eq_ok.mp h
    obtain ⟨s, hs, h⟩ := bind_eq_ok.mp h
    cases h
    have hset : (bracketSet f body >>= fun s => f.negate negated (f.fold s)) = .ok s :=
      bind_eq_ok.mpr ⟨t, ht, hs⟩
    exact ⟨by rw [matches_set, Reads, hset], rfl⟩
  | repetition body min max _, f, g, r, hp, h => by
    obtain ⟨⟨s, g'⟩, hs, h⟩ := bind_eq_ok.mp h
    cases h
    obtain ⟨hbody, hflags⟩ := regexUnder_spec body hp.2 hs
    exact ⟨by rw [matches_repeatRegex hp.1, Reads, hbody], hflags⟩
  | group (.plain switches) body, f, g, r, hp, h => by
    obtain ⟨⟨s, g'⟩, hs, h⟩ := bind_eq_ok.mp h
    cases h
    exact ⟨(regexUnder_spec body hp hs).1, rfl⟩
  | group .capture body, f, g, r, hp, h => by
    obtain ⟨⟨s, g'⟩, hs, h⟩ := bind_eq_ok.mp h
    cases h
    exact ⟨(regexUnder_spec body hp hs).1, rfl⟩
  | alternation branches, f, g, r, hp, h => alternationUnder_spec branches hp h
  | concat items, f, g, r, hp, h => concatUnder_spec items hp h

theorem concatUnder_spec : ∀ (ps : List Pattern) {f g : Flags} {r : Regex},
    AllCountsOrdered ps → concatUnder f ps = .ok (r, g) →
      r.Matches = ReadsAll f ps ∧ g = flagsBehindAll f ps
  | [], f, g, r, _, h => by
    cases h
    exact ⟨rfl, rfl⟩
  | [p], f, g, r, hp, h => by
    obtain ⟨hr, hg⟩ := regexUnder_spec p hp.1 h
    exact ⟨by rw [hr, ReadsAll, ReadsAll, then_nil], hg⟩
  | p :: q :: ps, f, g, r, hp, h => by
    obtain ⟨⟨a, f'⟩, ha, h⟩ := bind_eq_ok.mp h
    obtain ⟨⟨b, f''⟩, hb, h⟩ := bind_eq_ok.mp h
    cases h
    obtain ⟨hfirst, rfl⟩ := regexUnder_spec p hp.1 ha
    obtain ⟨hrest, hg⟩ := concatUnder_spec (q :: ps) hp.2 hb
    exact ⟨by rw [Regex.Matches, hfirst, hrest, ← readsAll_cons], hg⟩

theorem alternationUnder_spec : ∀ (ps : List Pattern) {f g : Flags} {r : Regex},
    AllCountsOrdered ps → alternationUnder f ps = .ok (r, g) →
      r.Matches = ReadsSome f ps ∧ g = flagsBehindAll f ps
  | [], f, g, r, _, h => by
    cases h
    exact ⟨matches_none, rfl⟩
  | [p], f, g, r, hp, h => by
    obtain ⟨hr, hg⟩ := regexUnder_spec p hp.1 h
    exact ⟨by simp only [hr, ReadsSome, or_false], hg⟩
  | p :: q :: ps, f, g, r, hp, h => by
    obtain ⟨⟨a, f'⟩, ha, h⟩ := bind_eq_ok.mp h
    obtain ⟨⟨b, f''⟩, hb, h⟩ := bind_eq_ok.mp h
    cases h
    obtain ⟨hfirst, rfl⟩ := regexUnder_spec p hp.1 ha
    obtain ⟨hrest, hg⟩ := alternationUnder_spec (q :: ps) hp.2 hb
    exact ⟨by rw [Regex.Matches, hfirst, hrest, ← readsSome_cons], hg⟩

end

/-- **The meaning of a pattern.** An expression that a text compiles to matches what the pattern
written by the text reads. -/
theorem compile_spec {text : String} {r : Regex} (h : compile text = .ok r) :
    ∃ p, parse text = .ok p ∧ r.Matches = p.Reads {} := by
  unfold compile at h
  split at h
  · cases h
  · obtain ⟨p, hp, h⟩ := bind_eq_ok.mp h
    obtain ⟨s, hs, h⟩ := bind_eq_ok.mp h
    split at h
    · cases h
      obtain ⟨⟨s, f⟩, hunder, rfl⟩ := map_eq_ok.mp hs
      exact ⟨p, hp, (regexUnder_spec p (countsOrdered_parse hp) hunder).1⟩
    · cases h

end Pattern

end Enrich
