import SourceAtlas.Rule.Library

/-!
# Libraries do not forget and do not change their mind

The rules that a library gives for a label are the same whether it is asked early or late, and
whatever it was asked in between. `SameRules` says this of a library and one that it has become.
-/

namespace SourceAtlas.RuleLibrary

variable {patterns : Pattern.Language} {fs : FileSystem}

/-- Two libraries that give the same rules for every label. -/
def SameRules (patterns : Pattern.Language) (fs : FileSystem) (library library' : RuleLibrary) :
    Prop :=
  ∀ label, (library'.load patterns fs label).set = (library.load patterns fs label).set

theorem SameRules.refl (library : RuleLibrary) : SameRules patterns fs library library :=
  fun _ => rfl

theorem SameRules.trans {l₁ l₂ l₃ : RuleLibrary} (h₁ : SameRules patterns fs l₁ l₂)
    (h₂ : SameRules patterns fs l₂ l₃) : SameRules patterns fs l₁ l₃ := by
  intro label
  rw [h₂ label, h₁ label]

theorem load_of_lookup {library : RuleLibrary} {label : Text} {set : RuleSet}
    (h : library.loaded.lookup label = some set) :
    library.load patterns fs label = ⟨set, library, []⟩ := by
  rw [load, h]

theorem set_load_of_lookup_eq_none {library : RuleLibrary} {label : Text}
    (h : library.loaded.lookup label = none) :
    (library.load patterns fs label).set = (library.read patterns fs label).1 := by
  rw [load, h]

theorem sameRules_load (library : RuleLibrary) (label : Text) :
    SameRules patterns fs library (library.load patterns fs label).library := by
  cases hlookup : library.loaded.lookup label with
  | some set =>
    rw [load_of_lookup hlookup]
    exact .refl library
  | none =>
    intro other
    -- The only change is the entry for `label`, which holds what reading it gives.
    have hlibrary : (library.load patterns fs label).library =
        { library with
          loaded := library.loaded ++ [(label, (library.read patterns fs label).1)] } := by
      rw [load, hlookup]
    have hlookup' : (library.load patterns fs label).library.loaded.lookup other =
        (library.loaded.lookup other).or
          ([(label, (library.read patterns fs label).1)].lookup other) := by
      rw [hlibrary, List.lookup_append]
    cases hother : library.loaded.lookup other with
    | some set =>
      rw [hother, Option.some_or] at hlookup'
      rw [load_of_lookup hother, load_of_lookup hlookup']
    | none =>
      rw [hother, Option.none_or] at hlookup'
      rw [set_load_of_lookup_eq_none hother]
      by_cases heq : other = label
      · subst heq
        rw [List.lookup_cons_self] at hlookup'
        rw [load_of_lookup hlookup']
      · have hne : (other == label) = false := by simpa using heq
        rw [List.lookup_cons, hne] at hlookup'
        rw [set_load_of_lookup_eq_none hlookup', hlibrary]
        rfl

end SourceAtlas.RuleLibrary
