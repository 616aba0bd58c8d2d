import Enrich.Proofs.Ordered.Map
import Enrich.Template.Generator
import Mathlib.Data.List.Basic

/-!
# What filling reads

A template is filled from the values under the names of its holes and from no others, and a missing
value fills a hole as an empty one does. So values that give the same texts there (`AgreeInText`)
fill it alike (`fill_congr`). The same holds of the attributes and tags that templates give, and
without filling they depend on no values at all.
-/

namespace Enrich.Template

variable {a b : StringMap String} {template name : String} {substitute : Bool}

theorem mem_holes_iff : name ∈ holes template ↔ .hole name ∈ pieces template := by
  rw [holes, List.mem_filterMap]
  constructor
  · rintro ⟨_ | _, hmem, hname⟩
    · cases hname
    · cases hname
      exact hmem
  · exact fun hmem => ⟨.hole name, hmem, rfl⟩

/-- Whether two maps give the same texts under some names, a missing value counting as an empty
one. -/
def AgreeInText (names : List String) (a b : StringMap String) : Prop :=
  ∀ name ∈ names, (a.find? name).getD "" = (b.find? name).getD ""

theorem AgreeInText.mono {names fewer : List String} (h : AgreeInText names a b)
    (hsub : fewer ⊆ names) : AgreeInText fewer a b :=
  fun name hname => h name (hsub hname)

theorem agreeInText_of_agreeOn {names : List String} (h : StringMap.AgreeOn names a b) :
    AgreeInText names a b :=
  fun name hname => congrArg (Option.getD · "") (h name hname)

/-- Values that give the same texts under the names of its holes fill a template alike. -/
theorem fill_congr (h : AgreeInText (holes template) a b) :
    fill a template = fill b template := by
  refine congrArg String.ofList (List.flatMap_congr fun piece hpiece => ?_)
  cases piece with
  | char c => rfl
  | hole name => rw [Piece.fill, Piece.fill, h name (mem_holes_iff.mpr hpiece)]

namespace AttributeTemplates

variable {t : AttributeTemplates}

theorem render_congr (h : substitute = true →
      AgreeInText ((t.entries.entries.map Prod.snd).flatMap holes) a b) :
    t.render substitute a = t.render substitute b := by
  cases substitute with
  | false => simp only [render, Bool.false_eq_true, if_false]
  | true =>
    refine StringMap.ext_find? fun key => ?_
    simp only [render, if_true, StringMap.find?_mapValues]
    cases hfound : t.entries.find? key with
    | none => rfl
    | some template =>
      have hmem : template ∈ t.entries.entries.map Prod.snd :=
        List.mem_map.mpr ⟨(key, template), StringMap.mem_entries_iff.mpr hfound, rfl⟩
      have hholes : AgreeInText (holes template) a b :=
        (h rfl).mono fun name hname => List.mem_flatMap.mpr ⟨template, hmem, hname⟩
      rw [Option.map_some, Option.map_some, fill_congr hholes]

theorem keys_render : (t.render substitute a).keys = t.entries.keys := by
  cases substitute with
  | false => simp only [render, Bool.false_eq_true, if_false]
  | true => simp [render, StringMap.keys, StringMap.mapValues]

end AttributeTemplates

theorem TagTemplates.render_congr {t : TagTemplates}
    (h : substitute = true → AgreeInText (t.tokens.flatMap holes) a b) :
    t.render substitute a = t.render substitute b := by
  cases substitute with
  | false => simp only [render, Bool.false_eq_true, if_false]
  | true =>
    have htokens : t.tokens.map (fill a) = t.tokens.map (fill b) := by
      refine List.map_congr_left fun token htoken => fill_congr ?_
      exact (h rfl).mono fun name hname => List.mem_flatMap.mpr ⟨token, htoken, hname⟩
    simp only [render, if_true]
    rw [htokens]

end Enrich.Template
