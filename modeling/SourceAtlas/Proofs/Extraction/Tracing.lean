import SourceAtlas.Proofs.Extraction.Pass
import SourceAtlas.Proofs.Extraction.PlainPass

/-!
# The applications of a pass

Tracing a sink lists the applications of rules and changes nothing else: the traced pass ends in
the same state, with the same notices. So what a pass does is to carry out the applications that
its trace lists, one after the other, and they are applications of rules of its kind.
-/

namespace SourceAtlas

variable {σ : Type}

/-- The state after some applications, one after the other. -/
def Sink.applyAll (sink : Sink σ) (state : σ) (applications : List (Rule × Hit)) : σ :=
  applications.foldl (fun state a => (sink.apply state a.1 a.2).1) state

theorem Sink.applyAll_append (sink : Sink σ) (state : σ) (earlier later : List (Rule × Hit)) :
    sink.applyAll state (earlier ++ later) = sink.applyAll (sink.applyAll state earlier) later :=
  List.foldl_append

namespace Pass

variable {language : Pattern.Language} {sink : Sink σ}

/-- An outcome without the list of applications. -/
def Outcome.untraced (o : Outcome (σ × List (Rule × Hit))) : Outcome σ := ⟨o.state.1, o.notices⟩

theorem tryRule_untraced (line : Text) (o : Outcome (σ × List (Rule × Hit))) (a : Active) :
    tryRule language sink line o.untraced a =
      ((tryRule language sink.traced line o a).1,
        (tryRule language sink.traced line o a).2.untraced) := by
  unfold tryRule
  have hexpand : sink.traced.expand o.state a.template = sink.expand o.untraced.state a.template :=
    rfl
  simp only [hexpand]
  split <;> rfl

theorem tryRules_untraced (line : Text) (o : Outcome (σ × List (Rule × Hit)))
    (active : List Active) :
    tryRules language sink line o.untraced active =
      ((tryRules language sink.traced line o active).1,
        (tryRules language sink.traced line o active).2.untraced) := by
  induction active generalizing o with
  | nil => rfl
  | cons a active ih => simp only [tryRules, tryRule_untraced, ih]

theorem lines_untraced (set : RuleSet) (fault : Option FileFault) (state : LineState)
    (active : List Active) (o : Outcome (σ × List (Rule × Hit))) (raws : List Text.Bytes) :
    lines language set sink fault state active o.untraced raws =
      ((lines language set sink.traced fault state active o raws).1.untraced,
        (lines language set sink.traced fault state active o raws).2) := by
  induction raws generalizing state active o with
  | nil => rfl
  | cons raw raws ih =>
    rw [lines, lines]
    simp only [tryRules_untraced, ih]
    split
    · rfl
    · split <;> rfl

theorem constants_untraced (rules : List Rule) (o : Outcome (σ × List (Rule × Hit))) :
    constants sink rules o.untraced = (constants sink.traced rules o).untraced :=
  List.foldl_hom Outcome.untraced fun _ _ => rfl

theorem content_untraced (set : RuleSet) (kind : RuleKind)
    (state : σ × List (Rule × Hit)) (stream : Stream) :
    content language set kind sink state.1 stream =
      ((content language set kind sink.traced state stream).1.untraced,
        (content language set kind sink.traced state stream).2) := by
  have hconstants : constants sink (eligible set kind) (.start state.1) =
      (constants sink.traced (eligible set kind) (.start state)).untraced :=
    constants_untraced (eligible set kind) (.start state)
  unfold content
  simp only
  split
  · exact congrArg (·, none) hconstants
  · rw [← lines_untraced, ← hconstants]

/-- The list of applications makes no difference. -/
theorem file_untraced (fs : FileSystem) (set : RuleSet) (kind : RuleKind)
    (state : σ × List (Rule × Hit)) (path : Path) :
    file language fs set kind sink state.1 path =
      ((file language fs set kind sink.traced state path).1.untraced,
        (file language fs set kind sink.traced state path).2) := by
  unfold file
  split
  · rfl
  · split
    · rfl
    · exact content_untraced set kind state _

/-- What a traced sink has come to from a state: the listed applications are those of some rules,
and they lead to the state that the sink is in. -/
structure Lists (sink : Sink σ) (rules : List Rule) (start : σ) (traced : σ × List (Rule × Hit)) :
    Prop where
  state : traced.1 = sink.applyAll start traced.2
  rule : ∀ a ∈ traced.2, a.1 ∈ rules

theorem keeps_lists (rules : List Rule) (start : σ) :
    Keeps sink.traced rules (Lists sink rules start) := by
  rintro rule hrule ⟨now, listed⟩ hit ⟨hstate, hrules⟩
  refine ⟨?_, ?_⟩
  · simp only [Sink.traced, Sink.applyAll_append, ← hstate]
    rfl
  · intro a ha
    rcases List.mem_append.1 ha with ha | ha
    · exact hrules a ha
    · obtain rfl := List.mem_singleton.1 ha
      exact hrule

/-- The applications that a pass carries out, in their order. -/
structure CarriesOut (language : Pattern.Language) (fs : FileSystem) (set : RuleSet)
    (kind : RuleKind) (sink : Sink σ) (state : σ) (path : Path) (applications : List (Rule × Hit)) :
    Prop where
  traced : (file language fs set kind sink.traced (state, []) path).1.state.2 = applications
  state : (file language fs set kind sink state path).1.state = sink.applyAll state applications
  rule : ∀ a ∈ applications, a.1 ∈ set.rulesOf kind

theorem exists_carriesOut (language : Pattern.Language) (fs : FileSystem) (set : RuleSet)
    (kind : RuleKind) (sink : Sink σ) (state : σ) (path : Path) :
    ∃ applications, CarriesOut language fs set kind sink state path applications := by
  have hlists : Lists sink (set.rulesOf kind) state
      (file language fs set kind sink.traced (state, []) path).1.state :=
    file_keeps (keeps_lists _ _) ⟨rfl, List.forall_mem_nil _⟩
  refine ⟨_, rfl, ?_, hlists.rule⟩
  rw [← hlists.state, file_untraced fs set kind (state, []) path]
  rfl

end Pass

end SourceAtlas
