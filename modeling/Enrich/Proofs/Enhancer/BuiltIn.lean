import Enrich.Proofs.AttributeMatch.Decoding
import Enrich.Proofs.Enhancer.Registry

/-!
# The attribute match from a registry

There are two ways to an attribute match: it is made from settings at once, or a registry makes it
from a JSON value that holds the settings. If the last call for its provider registered what comes
built in, the two ways agree (`create_agrees`): settings that are refused are refused with the same
cause, and otherwise the enhancer does to every node what the match does.
-/

namespace Enrich

namespace AttributeMatch

variable {j : Json} {s : Settings} {m : AttributeMatch} {e : EnhancerError} {enhancer : Enhancer}

theorem Settings.holds_toJson (s : Settings) : Settings.Holds s.toJson s :=
  ofJson_eq_ok_iff.mp (ofJson_toJson s)

/-- Only the match itself can fail once the settings are read. -/
theorem ofJson_of_holds (h : Settings.Holds j s) :
    ofJson j = (ofSettings s).mapError (.build provider) := by
  unfold ofJson
  rw [Settings.ofJson_eq_ok_iff.mpr h]
  rfl

theorem map_toEnhancer_eq_ok_iff (h : Settings.Holds j s) :
    (ofJson j).map toEnhancer = .ok enhancer ↔
      ∃ m, ofSettings s = .ok m ∧ m.toEnhancer = enhancer := by
  simp only [ofJson_of_holds h, map_eq_ok, mapError_eq_ok]

theorem map_toEnhancer_eq_error_iff (h : Settings.Holds j s) :
    (ofJson j).map toEnhancer = .error e ↔
      ∃ cause, ofSettings s = .error cause ∧ .build provider cause = e := by
  simp only [ofJson_of_holds h, map_eq_error_iff, mapError_eq_error_iff]

end AttributeMatch

/-- Whether an enhancer does to every node, for whatever project, what a match does, and never
fails. -/
def Enhancer.Enacts (enhancer : Enhancer) (m : AttributeMatch) : Prop :=
  ∀ project n, enhancer.update project n = ((m.enhance n).1, none)

theorem AttributeMatch.enacts_toEnhancer (m : AttributeMatch) : m.toEnhancer.Enacts m := by
  intro project n
  rfl

namespace Registry

open AttributeMatch (Settings ofSettings)

variable {calls : List Registration} {i : Nat}

/-- **A registry makes the match that settings make.** If the last call for `attribute-match`
registered what comes built in, the registry makes an enhancer from the JSON form of settings, and
from any other value that holds them, if and only if the settings make a match. If they do not, its
error is the one of the settings under the name of the provider. If they do, the enhancer does to
every node what the match does. -/
theorem create_agrees (hlast : LastCall calls i .builtIn) (s : Settings) :
    Settings.Holds s.toJson s ∧ ∀ j, Settings.Holds j s →
      ((∃ enhancer, (afterCalls calls).create "attribute-match" j = .ok enhancer) ↔
        ∃ m, ofSettings s = .ok m) ∧
      (∀ e, (afterCalls calls).create "attribute-match" j = .error e ↔
        ∃ cause, ofSettings s = .error cause ∧ .build "attribute-match" cause = e) ∧
      ∀ enhancer m, (afterCalls calls).create "attribute-match" j = .ok enhancer →
        ofSettings s = .ok m → enhancer.provider = "attribute-match" ∧ enhancer.Enacts m := by
  refine ⟨s.holds_toJson, ?_⟩
  intro j hj
  have hcreate : (afterCalls calls).create "attribute-match" j =
      (AttributeMatch.ofJson j).map AttributeMatch.toEnhancer :=
    reflects_afterCalls.create_eq i .builtIn j hlast
  have hok : ∀ enhancer, (afterCalls calls).create "attribute-match" j = .ok enhancer ↔
      ∃ m, ofSettings s = .ok m ∧ m.toEnhancer = enhancer := by
    intro enhancer
    rw [hcreate, AttributeMatch.map_toEnhancer_eq_ok_iff hj]
  refine ⟨?_, ?_, ?_⟩
  · constructor
    · rintro ⟨enhancer, henhancer⟩
      obtain ⟨m, hm, -⟩ := (hok enhancer).mp henhancer
      exact ⟨m, hm⟩
    · rintro ⟨m, hm⟩
      exact ⟨m.toEnhancer, (hok m.toEnhancer).mpr ⟨m, hm, rfl⟩⟩
  · intro e
    rw [hcreate, AttributeMatch.map_toEnhancer_eq_error_iff hj]
    rfl
  · intro enhancer m henhancer hm
    obtain ⟨made, hmade, rfl⟩ := (hok enhancer).mp henhancer
    rw [hm] at hmade
    cases hmade
    exact ⟨rfl, m.enacts_toEnhancer⟩

/-- Settings that make a match. -/
def taggedMatch : Settings :=
  ⟨"a==b", some "k=v", some "t", false⟩

/-- Settings with a pattern that cannot be read. -/
def unreadMatch : Settings :=
  ⟨"a=~(", none, none, false⟩

/-- What comes built in counts if it replaced something else and a call for another provider came
after it. -/
theorem create_agrees_replaced :
    ∃ calls, LastCall calls 1 .builtIn ∧
      (∃ enhancer m, ofSettings taggedMatch = .ok m ∧ enhancer.Enacts m ∧
        (afterCalls calls).create "attribute-match" taggedMatch.toJson = .ok enhancer) ∧
      ∃ cause, ofSettings unreadMatch = .error cause ∧
        (afterCalls calls).create "attribute-match" unreadMatch.toJson =
          .error (.build "attribute-match" cause) := by
  let refusing : Factory := fun _ => .error (.unknownProvider "none")
  have hlast : LastCall [.given "attribute-match" refusing, .builtIn, .given "none" refusing] 1
      .builtIn := by
    refine ⟨[.given "attribute-match" refusing], [.given "none" refusing], rfl, rfl, ?_⟩
    simp [Registration.provider, AttributeMatch.provider]
  refine ⟨_, hlast, ?_, ?_⟩
  · obtain ⟨hholds, hmade⟩ := create_agrees hlast taggedMatch
    obtain ⟨hsucceeds, -, henacts⟩ := hmade _ hholds
    obtain ⟨m, hm⟩ : ∃ m, ofSettings taggedMatch = .ok m :=
      exists_eq_ok_of_isOk (by decide +kernel)
    obtain ⟨enhancer, henhancer⟩ := hsucceeds.mpr ⟨m, hm⟩
    exact ⟨enhancer, m, hm, (henacts enhancer m henhancer hm).2, henhancer⟩
  · obtain ⟨hholds, hmade⟩ := create_agrees hlast unreadMatch
    obtain ⟨-, hfails, -⟩ := hmade _ hholds
    have hunread : (ofSettings unreadMatch).isOk = false := by
      decide +kernel
    cases hcause : ofSettings unreadMatch with
    | ok m =>
      rw [hcause] at hunread
      cases hunread
    | error cause =>
      exact ⟨cause, rfl, (hfails _).mpr ⟨cause, hcause, rfl⟩⟩

end Registry

end Enrich
