import SourceAtlas.Proofs.Extraction.Agreement
import SourceAtlas.Proofs.RuleFile.Accepted
import SourceAtlas.Proofs.Source.LineStates

/-!
# Lines without code

What stands in comments and literals has no influence on a pass. A line that holds no code may be
put in anywhere: the line state, the rules that may still apply and the state of the sink are the
same behind it as before it, so the rest of the file is read alike.
-/

namespace SourceAtlas.Pass

variable {σ : Type} {language : Pattern.Language} {set : RuleSet} {state : LineState}

/-- The state at the end of some raw lines. -/
def stateAfter (set : RuleSet) (state : LineState) (raws : List Text.Bytes) : LineState :=
  raws.foldl (fun state raw => (codeOf set state raw).2) state

theorem fits_codeOf (h : state.Fits set) (raw : Text.Bytes) :
    (codeOf set state raw).2.Fits set := by
  rw [codeOf]
  split
  · exact h
  · exact Stripping.fits_strip h _

theorem fits_stateAfter (h : state.Fits set) (raws : List Text.Bytes) :
    (stateAfter set state raws).Fits set := by
  induction raws generalizing state with
  | nil => exact h
  | cons raw raws ih => exact ih (fits_codeOf h raw)

theorem codeOf_of_isSilent (hstarts : ∀ start ∈ set.lineComments, start ≠ [])
    (hfits : state.Fits set) {raw : Text.Bytes}
    (h : Stripping.IsSilent set state (Text.trim (Text.decodeLossy raw))) :
    codeOf set state raw = ([], state) := by
  rw [codeOf]
  split
  · rfl
  · rename_i hne
    exact h.strip_eq hstarts hfits (by simpa using hne)

/-- A line from which nothing is left may as well not be there. -/
theorem lines_insert {sink : Sink σ} {pre post : List Text.Bytes} {raw : Text.Bytes}
    (h : codeOf set (stateAfter set state pre) raw = ([], stateAfter set state pre))
    (fault : Option FileFault) (active : List Active) (o : Outcome σ) :
    lines language set sink fault state active o (pre ++ raw :: post) =
      lines language set sink fault state active o (pre ++ post) := by
  induction pre generalizing state active o with
  | nil =>
    have hcode : codeOf set state raw = ([], state) := h
    rw [List.nil_append, List.nil_append, lines, hcode]
    rfl
  | cons first pre ih =>
    rw [List.cons_append, List.cons_append, lines, lines]
    simp only [ih h]

theorem content_insert {sink : Sink σ} {pre post : List Text.Bytes} {raw : Text.Bytes}
    (h : codeOf set (stateAfter set .clear pre) raw = ([], stateAfter set .clear pre))
    {stream stream' : Stream} (hlines : stream.rawLines = pre ++ post)
    (hlines' : stream'.rawLines = pre ++ raw :: post) (hfault : stream'.fault = stream.fault)
    (kind : RuleKind) (start : σ) :
    content language set kind sink start stream' =
      content language set kind sink start stream := by
  rw [content, content]
  simp only [hlines, hlines', hfault, lines_insert h]

theorem ne_nil_of_parse {text : Text} (h : (RuleFile.parse language text).1 = .ok set) :
    ∀ start ∈ set.lineComments, start ≠ [] := by
  intro start hstart
  obtain ⟨mark, hmark, rfl⟩ := List.mem_map.1 hstart
  exact ((RuleFile.isReadable_parse h).comments mark (List.mem_filter.1 hmark).1).start.ne_nil

/-- A line that holds no code has no influence on a pass, wherever it stands in a file: the same
rules apply to the same hits in the same order, with the same result and the same notices. This is
so also if the same fault ends the reading of both files. -/
theorem file_insert_silent {text : Text} (hset : (RuleFile.parse language text).1 = .ok set)
    {pre post : List Text.Bytes} {raw : Text.Bytes}
    (hsilent : Stripping.IsSilent set (stateAfter set .clear pre)
      (Text.trim (Text.decodeLossy raw)))
    {fs fs' : FileSystem} {path path' : Path} {stream stream' : Stream}
    (hread : fs.openFile path = .ok stream) (hlines : stream.rawLines = pre ++ post)
    (hread' : fs'.openFile path' = .ok stream') (hlines' : stream'.rawLines = pre ++ raw :: post)
    (hfault : stream'.fault = stream.fault) (kind : RuleKind) (sink : Sink σ) (start : σ) :
    file language fs' set kind sink.traced (start, []) path' =
        file language fs set kind sink.traced (start, []) path ∧
      file language fs' set kind sink start path' = file language fs set kind sink start path := by
  have hfits : (stateAfter set .clear pre).Fits set :=
    fits_stateAfter (LineState.fits_clear set) pre
  have hcode := codeOf_of_isSilent (ne_nil_of_parse hset) hfits hsilent
  constructor
  · rw [PlainPass.file_of_openFile hread, PlainPass.file_of_openFile hread']
    exact content_insert hcode hlines hlines' hfault kind (start, [])
  · rw [PlainPass.file_of_openFile hread, PlainPass.file_of_openFile hread']
    exact content_insert hcode hlines hlines' hfault kind start

/-- Inside a comment, a line that a rule would match. -/
theorem file_insert_silent_inside_comment :
    let language := Pattern.Language.beginnings
    let text : Text := ["Comments=[[/*, */]]", "Variables",
      "v \x7b pattern: \"+\" \x7d"].flatMap (·.toList ++ ['\n'])
    let set : RuleSet := ⟨[⟨"/*".toList, "*/".toList⟩], [],
      [⟨['v'], .vars, .pattern ['+'], [], none, false, false⟩]⟩
    let pre : List Text.Bytes := [[43, 120, 47, 42]]
    let raw : Text.Bytes := [43, 121]
    let post : List Text.Bytes := [[42, 47, 43, 122]]
    let fs (lines : List Text.Bytes) : FileSystem :=
      ⟨.directory [(['a'], .file (lines.flatMap (· ++ [10])))], ['/']⟩
    let sink : Sink (List Text) :=
      { expand := fun _ template => template
        apply := fun found _ hit => (found ++ [hit.capture], []) }
    (RuleFile.parse language text).1 = .ok set ∧ stateAfter set .clear pre = ⟨true, none⟩ ∧
      (file language (fs (pre ++ raw :: post)) set .vars sink [] ['/', 'a']).1.state =
        [['x'], ['z']] := by
  intro language text set pre raw post fs sink
  have hset : (RuleFile.parse language text).1 = .ok set := by decide +kernel
  have hstate : stateAfter set .clear pre = ⟨true, none⟩ := by decide +kernel
  have hsteps : FileSystem.steps (Path.join ['/'] ['/', 'a']) = [.root, .name ['a']] := by decide
  have hread (lines : List Text.Bytes) :
      (fs lines).openFile ['/', 'a'] = .ok (.whole (lines.flatMap (· ++ [10]))) := by
    simp [fs, FileSystem.openFile, FileSystem.node, FileSystem.locate, hsteps, FileSystem.follow,
      FileSystem.nodeAt, Node.isDirectory, Node.child?, Node.file, FileData.ofBytes, Except.map]
  have hsilent : Stripping.IsSilent set (stateAfter set .clear pre)
      (Text.trim (Text.decodeLossy raw)) := by
    rw [hstate]
    apply Stripping.IsSilent.insideComment rfl
    decide +kernel
  have hlines : (Stream.whole ((pre ++ post).flatMap (· ++ [10]))).rawLines = pre ++ post := by
    decide
  have hlines' : (Stream.whole ((pre ++ raw :: post).flatMap (· ++ [10]))).rawLines =
      pre ++ raw :: post := by
    decide
  obtain ⟨-, hsame⟩ :=
    file_insert_silent hset hsilent (hread _) hlines (hread _) hlines' rfl .vars sink []
  refine ⟨hset, hstate, ?_⟩
  rw [hsame, PlainPass.file_of_openFile (hread _)]
  decide +kernel

end SourceAtlas.Pass
