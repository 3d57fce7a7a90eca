import SourceAtlas.Proofs.RuleFile.Accepted
import SourceAtlas.Proofs.Source.LineStates

/-!
# States inside a line

Stripping a line amounts to the turns of a scanner, and between two of them there is a state, as
there is between two lines. This file shows that the states of both kinds fit the language: what is
open is one comment or one literal that the language has. If the language was read from a rule file,
an open literal also has an end mark to look for, so that stripping never has to give up a literal.
-/

namespace SourceAtlas

/-- The state behind some lines that are stripped one after the other. -/
def RuleSet.stateAfter (set : RuleSet) (lines : List Text) : LineState :=
  lines.foldl (fun state line => (set.strip state line).2) .clear

namespace Stripping

variable {set : RuleSet} {state now next : LineState} {line rest others code : Text}

deriving instance DecidableEq for Turn

/-- The marks of a language that start a line comment and are looked for. -/
def lineStarts (set : RuleSet) : List Text := set.lineComments.filter (!·.isEmpty)

/-- A turn that is taken in stripping a line: the state before it, and what is left of the line. -/
inductive Reaches (set : RuleSet) (state : LineState) (line : Text) : LineState → Text → Prop
  | first : Reaches set state line state line
  | next {now next : LineState} {rest others code : Text} (before : Reaches set state line now rest)
      (goesOn : turn set (lineStarts set) now rest = .goOn code next others) :
      Reaches set state line next others

/-! ## One turn -/

/-- A turn that goes on leaves the open comment, leaves the open literal, or opens something. -/
theorem turn_eq_goOn (h : turn set (lineStarts set) now rest = .goOn code next others) :
    next = { now with insideComment := false } ∨ next = { now with openLiteral := none } ∨
      ∃ found, opening? set rest = some found ∧ next = found.mark.enter := by
  unfold turn at h
  split at h
  · split at h <;> cases h
    exact .inl rfl
  · split at h
    · split at h
      · cases h
        exact .inr (.inl rfl)
      · split at h <;> cases h
        exact .inr (.inl rfl)
    · split at h
      · cases h
      · split at h <;> cases h
        rename_i mark _ hfirst
        refine .inr (.inr ⟨⟨code.length, mark.1.length, mark.2⟩, ?_, rfl⟩)
        rw [opening?_eq, hfirst, Option.map_some]

theorem fits_turn (hfits : now.Fits set)
    (h : turn set (lineStarts set) now rest = .goOn code next others) : next.Fits set := by
  rcases turn_eq_goOn h with rfl | rfl | ⟨found, hfound, rfl⟩
  · exact hfits.leaveComment
  · exact hfits.leaveLiteral
  · exact fits_enter hfound

/-- What is left to do after a turn that goes on is to strip the rest of the line. -/
theorem strip_of_turn (h : turn set (lineStarts set) now rest = .goOn code next others) :
    set.strip now rest = (code ++ (set.strip next others).1, (set.strip next others).2) := by
  have hscan := Scans.goOn h (scans_strip set next others)
  obtain ⟨hcode, hlast⟩ := (scans_strip set now rest).unique hscan
  exact Prod.ext hcode hlast

/-! ## All turns -/

theorem Reaches.fits (hfits : state.Fits set) (h : Reaches set state line now rest) :
    now.Fits set := by
  induction h with
  | first => exact hfits
  | next _ goesOn ih => exact fits_turn ih goesOn

theorem Reaches.exists_strip_eq (h : Reaches set state line now rest) :
    ∃ code, set.strip state line = (code ++ (set.strip now rest).1, (set.strip now rest).2) := by
  induction h with
  | first => exact ⟨[], rfl⟩
  | @next now next rest others code _ goesOn ih =>
    obtain ⟨passed, hpassed⟩ := ih
    refine ⟨passed ++ code, ?_⟩
    rw [hpassed, strip_of_turn goesOn, List.append_assoc]

theorem fits_stateAfter (set : RuleSet) (lines : List Text) : (set.stateAfter lines).Fits set := by
  induction lines using List.reverseRecOn with
  | nil => exact LineState.fits_clear set
  | append_singleton lines line ih =>
    rw [RuleSet.stateAfter, List.foldl_append]
    exact fits_strip ih line

end Stripping

/-- A literal that is open in a state has an end mark, if the marks of the language are readable. -/
theorem LineState.Fits.exists_stop {language : Pattern.Language} {set : RuleSet} {state : LineState}
    (h : state.Fits set) (hset : set.IsReadable language) {index : Nat}
    (hopen : state.openLiteral = some index) :
    ∃ mark, set.literals[index]? = some mark ∧ mark.stop ≠ [] := by
  have hindex := h.literal index hopen
  refine ⟨set.literals[index], List.getElem?_eq_getElem hindex, ?_⟩
  refine ((hset.literals _ (List.getElem_mem hindex)).element _ ?_).ne_nil
  simp [LiteralMark.elements]

namespace Stripping

/-- In a language that was read from a rule file, the state fits the language after any lines, and
before every turn in which the next line is stripped. An open literal is then a literal of the
language, and its end mark is not empty. -/
theorem fits_before_every_turn {language : Pattern.Language} {text : Text} {set : RuleSet}
    (h : (RuleFile.parse language text).1 = .ok set) (lines : List Text) :
    (set.stateAfter lines).Fits set ∧
      ∀ line now rest, Reaches set (set.stateAfter lines) line now rest →
        now.Fits set ∧
          (∀ index, now.openLiteral = some index →
            ∃ mark, set.literals[index]? = some mark ∧ mark.stop ≠ []) ∧
          ∃ code, set.strip (set.stateAfter lines) line =
            (code ++ (set.strip now rest).1, (set.strip now rest).2) := by
  have hset := RuleFile.isReadable_parse h
  have hlines := fits_stateAfter set lines
  refine ⟨hlines, ?_⟩
  intro line now rest hreach
  have hnow := hreach.fits hlines
  exact ⟨hnow, fun index hopen => hnow.exists_stop hset hopen, hreach.exists_strip_eq⟩

/-- A literal that is open between lines ends on the next one, where a comment is opened. -/
theorem fits_before_every_turn_spanning :
    let set : RuleSet := ⟨[⟨"//".toList, []⟩, ⟨"/*".toList, "*/".toList⟩],
      [⟨['"'], ['"'], ["\\\"".toList]⟩], []⟩
    let lines := ["a /* b".toList, "c */ \"d".toList]
    let line := "e\\\" f\" g /* h */ i".toList
    (set.stateAfter lines).openLiteral = some 0 ∧ (set.stateAfter lines).Fits set ∧
      Reaches set (set.stateAfter lines) line ⟨true, none⟩ " h */ i".toList ∧
      LineState.Fits ⟨true, none⟩ set := by
  intro set lines line
  have hparse : (RuleFile.parse (fun _ => .error .malformed)
      ("Comments=[[//], [/*, */]]\nText=[[\", \\\", \"]]".toList)).1 = .ok set := by decide +kernel
  have hlines : set.stateAfter lines = ⟨false, some 0⟩ := by decide +kernel
  have hleave : turn set (lineStarts set) ⟨false, some 0⟩ line =
      .goOn [] ⟨false, none⟩ " g /* h */ i".toList := by decide +kernel
  have henter : turn set (lineStarts set) ⟨false, none⟩ " g /* h */ i".toList =
      .goOn " g ".toList ⟨true, none⟩ " h */ i".toList := by decide +kernel
  have hreach : Reaches set (set.stateAfter lines) line ⟨true, none⟩ " h */ i".toList := by
    rw [hlines]
    exact .next (.next .first hleave) henter
  obtain ⟨hfits, hturns⟩ := fits_before_every_turn hparse lines
  exact ⟨congrArg LineState.openLiteral hlines, hfits, hreach, (hturns line _ _ hreach).1⟩

end Stripping

end SourceAtlas
