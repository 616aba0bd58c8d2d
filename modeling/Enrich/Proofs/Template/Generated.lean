import Enrich.Proofs.Except
import Enrich.Proofs.Ordered.Map
import Enrich.Proofs.Template.Filling
import Enrich.Proofs.Template.Reading
import Enrich.Proofs.Text.Lines
import Enrich.Template.Generator
import Mathlib.Data.List.DropRight
import Mathlib.Data.List.Forall2

/-!
# What templates generate

The attributes and tags to add are cut out of their texts before anything is filled in:
`WritesEntries` and `WritesTokens` say into what. So the values that fill the templates decide
neither which attributes there are nor how many tags; each stands, as it is, where its hole was
(`render_shape`).
-/

namespace Enrich.Text

/-! ## Trimmed text -/

/-- Whether a text without the blanks at its two ends is `core`. -/
def Trimmed (core text : List Char) : Prop :=
  ∃ front back, text = front ++ core ++ back ∧ (∀ c ∈ front, isBlank c = true) ∧
    (∀ c ∈ back, isBlank c = true) ∧ (∀ c ∈ core.head?, isBlank c = false) ∧
    ∀ c ∈ core.getLast?, isBlank c = false

theorem toList_trim (text : String) :
    (trim text).toList = (text.toList.dropWhile isBlank).rdropWhile isBlank := by
  rw [trim, String.toList_ofList]
  rfl

theorem dropWhile_append_blank {front rest : List Char} (hfront : ∀ c ∈ front, isBlank c = true)
    (hrest : ∀ c ∈ rest.head?, isBlank c = false) : (front ++ rest).dropWhile isBlank = rest := by
  rw [List.dropWhile_append_of_pos hfront]
  cases rest with
  | nil => rfl
  | cons c rest => rw [List.dropWhile_cons_of_neg (by simpa using hrest c rfl)]

theorem isBlank_of_mem_head?_dropWhile {c : Char} {text : List Char}
    (h : c ∈ (text.dropWhile isBlank).head?) : isBlank c = false := by
  rw [← List.find?_not_eq_head?_dropWhile] at h
  simpa using List.find?_some h

theorem trimmed_iff {core text : List Char} :
    Trimmed core text ↔ core = (text.dropWhile isBlank).rdropWhile isBlank := by
  constructor
  · rintro ⟨front, back, rfl, hfront, hback, hhead, hlast⟩
    cases core with
    | nil =>
      have hall : (front ++ [] ++ back).dropWhile isBlank = [] := by
        rw [List.append_nil, List.dropWhile_eq_nil_iff]
        exact fun c hc => (List.mem_append.mp hc).elim (hfront c) (hback c)
      rw [hall, List.rdropWhile_nil]
    | cons c core =>
      have hhead' : ∀ d ∈ (c :: core ++ back).head?, isBlank d = false := hhead
      have hlast' : ∀ d ∈ ((c :: core).reverse).head?, isBlank d = false := by
        rw [List.head?_reverse]
        exact hlast
      rw [List.append_assoc, dropWhile_append_blank hfront hhead', List.rdropWhile,
        List.reverse_append, dropWhile_append_blank _ hlast', List.reverse_reverse]
      exact fun d hd => hback d (List.mem_reverse.mp hd)
  · rintro rfl
    refine ⟨text.takeWhile isBlank, (text.dropWhile isBlank).rtakeWhile isBlank, ?_,
      fun c hc => List.mem_takeWhile_imp hc, fun c hc => List.mem_rtakeWhile_imp hc,
      fun c hc => ?_, fun c hc => ?_⟩
    · rw [List.append_assoc, List.rdropWhile_append_rtakeWhile, List.takeWhile_append_dropWhile]
    · obtain ⟨rest, hrest⟩ := List.rdropWhile_prefix isBlank (l := text.dropWhile isBlank)
      have hfirst : c ∈ (text.dropWhile isBlank).head? := by
        rw [← hrest, List.head?_append, hc]
        rfl
      exact isBlank_of_mem_head?_dropWhile hfirst
    · rw [List.rdropWhile, List.getLast?_reverse] at hc
      exact isBlank_of_mem_head?_dropWhile hc

theorem eq_trim_iff {core : String} {text : List Char} :
    core = trim (String.ofList text) ↔ Trimmed core.toList text := by
  rw [trimmed_iff, ← String.toList_inj, toList_trim, String.toList_ofList]

theorem trim_eq_empty_iff {text : List Char} :
    trim (String.ofList text) = "" ↔ text.all isBlank = true := by
  rw [List.all_eq_true, eq_comm, eq_trim_iff]
  constructor
  · rintro ⟨front, back, rfl, hfront, hback, -⟩ c hc
    rw [String.toList_empty, List.append_nil] at hc
    exact (List.mem_append.mp hc).elim (hfront c) (hback c)
  · intro hall
    exact ⟨text, [], by simp, hall, by simp, by simp, by simp⟩

end Enrich.Text

namespace Enrich.Template

/-! ## Entries and tokens -/

variable {add addTags : Option String} {es : List (String × String)} {tokens : List String}

/-- The entries that a text of attributes to add writes. A text of blanks writes none. -/
inductive WritesEntries : Option String → List (String × String) → Prop
  | missing : WritesEntries none []
  | blank {text : String} (hblank : Text.allBlank text = true) : WritesEntries (some text) []
  | entries {text : String} {es : List (String × String)} (hblank : Text.allBlank text = false)
      (hparse : Properties.parse text = .ok es) : WritesEntries (some text) es

/-- The tokens that a text of tags to add writes: the pieces between its commas, each without the
blanks at its ends, but for the blank ones. -/
inductive WritesTokens : Option String → List String → Prop
  | missing : WritesTokens none []
  | pieces {text : String} {pieces : List (List Char)} {tokens : List String} (hne : pieces ≠ [])
      (hcommas : ∀ piece ∈ pieces, ',' ∉ piece) (htext : text.toList = [','].intercalate pieces)
      (htokens : List.Forall₂ (fun token piece => Text.Trimmed token.toList piece) tokens
        (pieces.filter fun piece => !piece.all Text.isBlank)) :
      WritesTokens (some text) tokens

theorem AttributeTemplates.parse_eq_ok_iff {t : AttributeTemplates} :
    AttributeTemplates.parse add = .ok t ↔
      ∃ es, WritesEntries add es ∧ t = ⟨StringMap.ofList es⟩ := by
  constructor
  · intro h
    unfold parse at h
    split at h
    · cases h
      exact ⟨[], .missing, rfl⟩
    · next text =>
      split at h
      · next hblank =>
        cases h
        exact ⟨[], .blank hblank, rfl⟩
      · next hblank =>
        obtain ⟨es, hes, rfl⟩ := map_eq_ok.mp h
        exact ⟨es, .entries (Bool.eq_false_iff.mpr hblank) hes, rfl⟩
  · rintro ⟨es, hes, rfl⟩
    cases hes with
    | missing => rfl
    | blank hblank =>
      rw [parse, if_pos hblank]
      rfl
    | entries hblank hparse =>
      rw [parse, if_neg (Bool.eq_false_iff.mp hblank), hparse]
      rfl

theorem AttributeTemplates.parse_error_iff {cause : Properties.ParseError} :
    AttributeTemplates.parse add = .error cause ↔
      ∃ text, add = some text ∧ Text.allBlank text = false ∧
        Properties.parse text = .error cause := by
  cases add with
  | none => simp [parse]
  | some text =>
    rw [parse]
    cases hblank : Text.allBlank text with
    | true => simp [hblank]
    | false => simp [hblank, map_eq_error_iff]

/-- The tokens between some commas. -/
theorem filter_map_trim (pieces : List (List Char)) :
    (pieces.map fun piece => Text.trim (String.ofList piece)).filter (· ≠ "") =
      (pieces.filter fun piece => !piece.all Text.isBlank).map
        fun piece => Text.trim (String.ofList piece) := by
  rw [List.filter_map]
  refine congrArg _ (List.filter_congr fun piece _ => ?_)
  rw [Bool.eq_iff_iff, Function.comp_apply, decide_eq_true_iff, ne_eq, Text.trim_eq_empty_iff,
    Bool.not_eq_true, Bool.not_eq_true']

theorem writesTokens_parse (addTags : Option String) :
    WritesTokens addTags (TagTemplates.parse addTags).tokens := by
  cases addTags with
  | none => exact .missing
  | some text =>
    obtain ⟨hne, hcommas, htext⟩ := Text.eq_splitOn_iff.mp (rfl : _ = text.toList.splitOn ',')
    refine .pieces hne hcommas htext ?_
    rw [TagTemplates.parse, Option.toList_some, List.flatMap_singleton, filter_map_trim,
      List.forall₂_map_left_iff]
    exact List.forall₂_same.mpr fun piece _ => Text.eq_trim_iff.mp rfl

theorem WritesEntries.eq {es' : List (String × String)} (h : WritesEntries add es)
    (h' : WritesEntries add es') : es = es' := by
  cases h with
  | missing =>
    cases h'
    rfl
  | blank hblank =>
    cases h' with
    | blank => rfl
    | entries hblank' => exact absurd hblank (Bool.eq_false_iff.mp hblank')
  | entries hblank hparse =>
    cases h' with
    | blank hblank' => exact absurd hblank' (Bool.eq_false_iff.mp hblank)
    | entries _ hparse' => exact Except.ok.inj (hparse.symm.trans hparse')

theorem WritesTokens.eq_parse (h : WritesTokens addTags tokens) :
    tokens = (TagTemplates.parse addTags).tokens := by
  cases h with
  | missing => rfl
  | @pieces text pieces _ hne hcommas htext htokens =>
    have hpieces : pieces = text.toList.splitOn ',' := Text.eq_splitOn_iff.mpr ⟨hne, hcommas, htext⟩
    have htrimmed : List.Forall₂ (· = ·) tokens
        ((pieces.filter fun piece => !piece.all Text.isBlank).map
          fun piece => Text.trim (String.ofList piece)) :=
      List.forall₂_map_right_iff.mpr (htokens.imp fun _ _ => Text.eq_trim_iff.mpr)
    rw [List.forall₂_eq_eq_eq] at htrimmed
    rw [htrimmed, TagTemplates.parse, Option.toList_some, List.flatMap_singleton, filter_map_trim,
      hpieces]

/-! ## Filled templates -/

/-- What a template comes to: what it expands to from left to right if placeholders are filled, and
else itself. -/
inductive Renders (values : StringMap String) : (substitute : Bool) → String → String → Prop
  | plain (template : String) : Renders values false template template
  | filled {template text : String} (h : Expands values template.toList text.toList) :
      Renders values true template text

/-- The text that a template comes to. -/
def rendered (values : StringMap String) (substitute : Bool) (template : String) : String :=
  if substitute then fill values template else template

theorem renders_iff {values : StringMap String} {substitute : Bool} {template text : String} :
    Renders values substitute template text ↔ text = rendered values substitute template := by
  constructor
  · rintro (_ | h)
    · rfl
    · rw [← String.toList_inj, expands_iff.mp h]
      exact (toList_fill values template).symm
  · rintro rfl
    cases substitute with
    | false => exact .plain template
    | true => exact .filled (expands_iff.mpr (toList_fill values template))

theorem find?_render {t : AttributeTemplates} {values : StringMap String} {substitute : Bool}
    {key : String} : (t.render substitute values).find? key =
      (t.entries.find? key).map (rendered values substitute) := by
  cases substitute with
  | false => exact (congrFun Option.map_id _).symm
  | true => exact StringMap.find?_mapValues _ _ key

theorem mem_render {t : TagTemplates} {values : StringMap String} {substitute : Bool}
    {tag : String} : tag ∈ t.render substitute values ↔
      tag ≠ "" ∧ ∃ token ∈ t.tokens, tag = rendered values substitute token := by
  have hset : tag ∈ t.render substitute values ↔
      tag ∈ (t.tokens.map (rendered values substitute)).filter (· ≠ "") :=
    StringSet.mem_insertAll.trans (or_iff_left (StringSet.not_mem_empty tag))
  rw [hset, List.mem_filter, decide_eq_true_iff, and_comm, List.mem_map]
  simp only [eq_comm]

theorem find?_render_true {t : AttributeTemplates} {values : StringMap String} {key : String} :
    (t.render true values).find? key = (t.entries.find? key).map (fill values) :=
  find?_render

theorem mem_render_true {t : TagTemplates} {values : StringMap String} {tag : String} :
    tag ∈ t.render true values ↔ tag ≠ "" ∧ ∃ token ∈ t.tokens, tag = fill values token :=
  mem_render

/-- **Values cannot be injected.** The keys of the attributes that are generated are those of the
entries of the text, whatever the values are. Each attribute is its own template, the last one
written under its key, and each tag a token of the text of tags, read once for all values and then
filled: the values stand where the holes were. A token gives no more than one tag, and none is
empty. -/
theorem render_shape {t : AttributeTemplates} (h : AttributeTemplates.parse add = .ok t)
    (addTags : Option String) :
    ∃ (es : List (String × String)) (tokens : List String) (readings : List (List Piece)),
      WritesEntries add es ∧ WritesTokens addTags tokens ∧
      (∀ a b, (t.render true a).keys = (t.render true b).keys) ∧
      (∀ a key, key ∈ (t.render true a).keys ↔ key ∈ es.map Prod.fst) ∧
      (∀ key template, StringMap.IsLast es key template →
        ∃ ps, Reading template.toList ps ∧
          ∀ a, (t.render true a).find? key = some (String.ofList (ps.flatMap (Piece.fill a)))) ∧
      List.Forall₂ (fun token ps => Reading token.toList ps) tokens readings ∧
      ∀ a tag, tag ∈ (TagTemplates.parse addTags).render true a ↔
        tag ≠ "" ∧ ∃ ps ∈ readings, tag = String.ofList (ps.flatMap (Piece.fill a)) := by
  obtain ⟨es, hes, rfl⟩ := AttributeTemplates.parse_eq_ok_iff.mp h
  refine ⟨es, _, (TagTemplates.parse addTags).tokens.map pieces, hes, writesTokens_parse addTags,
    fun a b => ?_, fun a key => ?_, fun key template hlast => ?_, ?_, fun a tag => ?_⟩
  · rw [AttributeTemplates.keys_render, AttributeTemplates.keys_render]
  · rw [AttributeTemplates.keys_render, StringMap.mem_keys_ofList]
  · refine ⟨pieces template, reading_pieces template, fun a => ?_⟩
    rw [find?_render_true, StringMap.find?_ofList_eq_some_iff.mpr hlast]
    rfl
  · rw [List.forall₂_map_right_iff]
    exact List.forall₂_same.mpr fun token _ => reading_pieces token
  · rw [mem_render_true]
    simp only [List.mem_map, exists_exists_and_eq_and]
    rfl

/-- A value that looks like a further entry, a further tag and a hole stays in its place. -/
theorem render_shape_hostile :
    ∃ t : AttributeTemplates,
      AttributeTemplates.parse (some "k=1\nk=a$\x7bx\x7d\nv=$\x7b\x7d") = .ok t ∧
      (∀ a, (t.render true a).keys = ["k", "v"]) ∧
      (t.render true (StringMap.ofList [("x", " ,\nz=$\x7bx\x7d\\")])).find? "k" =
        some "a ,\nz=$\x7bx\x7d\\" ∧
      ((TagTemplates.parse (some "$\x7bx\x7d , $\x7by\x7d,")).render true
        (StringMap.ofList [("x", " ,\nz=$\x7bx\x7d\\")])).toList = [" ,\nz=$\x7bx\x7d\\"] := by
  let t : AttributeTemplates :=
    ⟨StringMap.ofList [("k", "1"), ("k", "a$\x7bx\x7d"), ("v", "$\x7b\x7d")]⟩
  have ht : AttributeTemplates.parse (some "k=1\nk=a$\x7bx\x7d\nv=$\x7b\x7d") = .ok t := by
    decide +kernel
  obtain ⟨es, tokens, readings, -, -, hkeys, -⟩ := render_shape ht (some "$\x7bx\x7d , $\x7by\x7d,")
  refine ⟨t, ht, fun a => (hkeys a ∅).trans ?_, ?_, ?_⟩
  · decide +kernel
  · decide +kernel
  · decide +kernel

end Enrich.Template
