import SourceAtlas.Proofs.Extraction.Pass
import SourceAtlas.Proofs.Rule.Library
import SourceAtlas.Survey.Census

/-!
# The steps of a census

What a census does, said once. Entering a file gives out the next number, reads the file by the
rules of its type, and registers what was found (`enterFile_eq_ok`). A census that goes through is a
run of such steps along its listings (`Takes`), so that what it keeps is shown step by step.
-/

namespace SourceAtlas

/-! ## New entities -/

/-- An entity at a path with a number, of which nothing is known that a later stage finds out. -/
structure Entity.IsFresh (e : Entity) (id : EntityId) (path : Path) : Prop where
  id_eq : e.id = id
  path_eq : e.path = path
  name_eq : e.name = (Path.fileName? path).getD path
  parent : e.parent = none
  children : e.children = []
  identifiers : e.identifiers = []
  unlinked : e.dependencies = [] ∧ e.dependants = []

namespace Entity

theorem isFresh_blank (id : EntityId) (path : Path) (isDirectory : Bool) :
    (blank id path isDirectory).IsFresh id path :=
  ⟨rfl, rfl, rfl, rfl, rfl, rfl, rfl, rfl⟩

theorem IsFresh.setStats {e : Entity} {id : EntityId} {path : Path} (h : e.IsFresh id path)
    (lines size : UInt64) : (e.setStats lines size).IsFresh id path := by
  rw [Entity.setStats]
  split
  · exact h
  · exact ⟨h.id_eq, h.path_eq, h.name_eq, h.parent, h.children, h.identifiers, h.unlinked⟩

theorem IsFresh.classify {e : Entity} {id : EntityId} {path : Path} (h : e.IsFresh id path)
    (table : FileTypes) : (Survey.Census.classify table e).IsFresh id path := by
  rw [Survey.Census.classify]
  split
  · exact ⟨h.id_eq, h.path_eq, h.name_eq, h.parent, h.children, h.identifiers, h.unlinked⟩
  · exact h

theorem foldl_addIdentifier (e : Entity) (is : List Identifier) :
    is.foldl addIdentifier e = { e with identifiers := e.identifiers ++ is } := by
  induction is generalizing e with
  | nil => rw [List.foldl_nil, List.append_nil]
  | cons i is ih =>
    rw [List.foldl_cons, ih, addIdentifier, List.append_assoc, List.singleton_append]

/-- Reading the variables of a file changes nothing else of its entity. -/
theorem exists_vars_eq (language : Pattern.Language) (fs : FileSystem) (set : RuleSet)
    (e : Entity) :
    ∃ vars, (Extraction.vars language fs set e).1.state = { e with vars } := by
  have hkeeps : Pass.Keeps Extraction.variableSink (set.rulesOf .vars)
      fun e' => ∃ vars, e' = { e with vars } := by
    rintro rule - state hit ⟨vars, rfl⟩
    exact ⟨_, rfl⟩
  exact Pass.file_keeps hkeeps ⟨e.vars, rfl⟩

end Entity

namespace Survey

theorem bind_eq_error {α β ε : Type} {x : Except ε α} {f : α → Except ε β} {e : ε}
    (h : (x >>= f) = .error e) : x = .error e ∨ ∃ a, x = .ok a ∧ f a = .error e := by
  cases x with
  | error e' =>
    cases h
    exact .inl rfl
  | ok a => exact .inr ⟨a, rfl, h⟩

theorem sameRules_look {env : Environment} {s s' : Session} (h : s.look env = .ok s') :
    RuleLibrary.SameRules env.patterns env.files s.library s'.library := by
  rw [Session.look] at h
  split at h
  · cases h
  · cases h
    exact .refl _

namespace Census

open RuleFile (bind_eq_ok)

variable {env : Environment}

/-! ## Files -/

/-- The entity of a file by its extension and its size, before it is read by any rules. -/
def fileEntity (env : Environment) (id : EntityId) (path : Path) (file : FileData) : Entity :=
  classify env.fileTypes
    ((Entity.file id path).setStats (countLines path file).1.toUInt64 file.size)

/-- An entity with the variables of its file, and the identifiers that the file declares, by some
rules. -/
def readBy (env : Environment) (set : RuleSet) (e : Entity) : Entity × List Identifier :=
  let e := (Extraction.vars env.patterns env.files set e).1.state
  (e, (Extraction.identifiers env.patterns env.files set e).1.state)

/-- The same by the rules that a library has for the type of the entity, if there are any. -/
def read (env : Environment) (library : RuleLibrary) (e : Entity) : Entity × List Identifier :=
  match e.fileType with
  | none => (e, [])
  | some label =>
    let set := (library.load env.patterns env.files label).set
    if set.hasNoRules then (e, []) else readBy env set e

/-- What is known of a file when it is entered, and the identifiers that are then registered. -/
def readFile (env : Environment) (library : RuleLibrary) (id : EntityId) (path : Path)
    (file : FileData) : Entity × List Identifier :=
  let e := fileEntity env id path file
  if e.isCode then read env library e else (e, [])

theorem readFile_congr {library library' : RuleLibrary}
    (h : RuleLibrary.SameRules env.patterns env.files library library') (id : EntityId)
    (path : Path) (file : FileData) :
    readFile env library' id path file = readFile env library id path file := by
  simp only [readFile, read, h _]

theorem exists_read_eq (env : Environment) (library : RuleLibrary) (e : Entity) :
    ∃ vars, (read env library e).1 = { e with vars } := by
  rw [read]
  split
  · exact ⟨e.vars, rfl⟩
  · simp only
    split
    · exact ⟨e.vars, rfl⟩
    · exact Entity.exists_vars_eq ..

/-- Reading a file by rules changes nothing of its entity but the variables. -/
theorem exists_readFile_eq (env : Environment) (library : RuleLibrary) (id : EntityId)
    (path : Path) (file : FileData) :
    ∃ vars, (readFile env library id path file).1 =
      { fileEntity env id path file with vars } := by
  rw [readFile]
  split
  · exact exists_read_eq env library _
  · exact ⟨_, rfl⟩

theorem isFresh_fileEntity (env : Environment) (id : EntityId) (path : Path)
    (file : FileData) : (fileEntity env id path file).IsFresh id path :=
  ((Entity.isFresh_blank id path false).setStats _ _).classify env.fileTypes

theorem isFresh_readFile (env : Environment) (library : RuleLibrary) (id : EntityId)
    (path : Path) (file : FileData) :
    (readFile env library id path file).1.IsFresh id path := by
  have hfresh := isFresh_fileEntity env id path file
  obtain ⟨vars, hvars⟩ := exists_readFile_eq env library id path file
  rw [hvars]
  exact ⟨hfresh.id_eq, hfresh.path_eq, hfresh.name_eq, hfresh.parent, hfresh.children,
    hfresh.identifiers, hfresh.unlinked⟩

theorem isDirectory_readFile (env : Environment) (library : RuleLibrary) (id : EntityId)
    (path : Path) (file : FileData) :
    (readFile env library id path file).1.isDirectory = false := by
  have hentity : (fileEntity env id path file).isDirectory = false := by
    rw [fileEntity, classify]
    split
    · rfl
    · rfl
  obtain ⟨vars, hvars⟩ := exists_readFile_eq env library id path file
  rw [hvars]
  exact hentity

/-- Only code files declare anything. -/
theorem isCode_readFile {library : RuleLibrary} {id : EntityId} {path : Path}
    {file : FileData} (h : (readFile env library id path file).2 ≠ []) :
    (readFile env library id path file).1.isCode := by
  rw [readFile] at h ⊢
  split at h
  · rename_i hcode
    obtain ⟨vars, hvars⟩ := exists_read_eq env library (fileEntity env id path file)
    rw [if_pos hcode, hvars]
    exact hcode
  · exact absurd rfl h

/-- The second census has given out some numbers more than the first one. Nothing was registered,
and the library gives the same rules. -/
structure Advances (env : Environment) (c c' : Census) (count : Nat) : Prop where
  nextId : c'.nextId = c.nextId + count
  index : c'.index = c.index
  library : RuleLibrary.SameRules env.patterns env.files c.session.library c'.session.library

theorem Advances.nextId_eq {c c' : Census} (h : Advances env c c' 0) : c'.nextId = c.nextId :=
  h.nextId

theorem Advances.trans {c₁ c₂ c₃ : Census} {count : Nat} (h₁ : Advances env c₁ c₂ count)
    (h₂ : Advances env c₂ c₃ 0) : Advances env c₁ c₃ count :=
  ⟨h₂.nextId.trans h₁.nextId, h₂.index.trans h₁.index, h₁.library.trans h₂.library⟩

theorem advances_note (c : Census) (notices : List Notice) :
    Advances env c (c.inSession (·.note notices)) 0 := ⟨rfl, rfl, .refl _⟩

theorem advances_rules (c : Census) (label : Text) :
    Advances env c { c with session := (c.session.rules env label).2 } 0 :=
  ⟨rfl, rfl, RuleLibrary.sameRules_load _ _⟩

theorem advances_look {c c' : Census} (h : c.look env = .ok c') : Advances env c c' 0 := by
  rw [look] at h
  cases hlook : c.session.look env with
  | error error =>
    rw [hlook] at h
    cases h
  | ok session =>
    rw [hlook] at h
    cases h
    exact ⟨rfl, rfl, sameRules_look hlook⟩

/-- A census that nobody stops goes on after each look. -/
theorem look_bind_eq_error (hstop : ∀ look, env.stop look = false) {α : Type} {c : Census}
    {f : Census → Except Error α} {error : Error} (h : (c.look env >>= f) = .error error) :
    ∃ c', Advances env c c' 0 ∧ f c' = .error error := by
  rcases bind_eq_error h with h | ⟨c', hlook, h⟩
  · rw [look, Session.look, hstop] at h
    cases h
  · exact ⟨c', advances_look hlook, h⟩

theorem register_nil (e : Entity) (c : Census) : c.register e [] = .ok (e, c) := rfl

/-- Reading a file comes down to registering what is found in it, after its number is given out. -/
theorem exists_extract_eq {c c₁ : Census} (h : Advances env c c₁ 1) (set : RuleSet) (e : Entity) :
    ∃ c₂, Advances env c c₂ 1 ∧
      extract env set e c₁ = c₂.register (readBy env set e).1 (readBy env set e).2 := by
  refine ⟨_, ?_, rfl⟩
  exact (h.trans (advances_note c₁ _)).trans (advances_note _ _)

theorem exists_readCode_eq {c c₁ : Census} (h : Advances env c c₁ 1) (e : Entity) :
    ∃ c₂, Advances env c c₂ 1 ∧ readCode env e c₁ =
      c₂.register (read env c.session.library e).1 (read env c.session.library e).2 := by
  rw [readCode, read]
  cases e.fileType with
  | none => exact ⟨c₁, h, (register_nil _ _).symm⟩
  | some label =>
    have h₁ := h.trans (advances_rules c₁ label)
    have hset : (c₁.session.rules env label).1 =
        (c.session.library.load env.patterns env.files label).set := h.library label
    simp only [hset]
    split
    · exact ⟨_, h₁, (register_nil _ _).symm⟩
    · exact exists_extract_eq h₁ _ e

theorem exists_enterFile_eq (env : Environment) (c : Census) (path : Path)
    (file : FileData) :
    ∃ c₁, Advances env c c₁ 1 ∧ c.enterFile env path file =
      c₁.register (readFile env c.session.library c.nextId path file).1
        (readFile env c.session.library c.nextId path file).2 := by
  rw [enterFile, readFile, ← fileEntity]
  split
  · apply exists_readCode_eq
    exact ⟨rfl, rfl, .refl _⟩
  · refine ⟨_, ?_, (register_nil _ _).symm⟩
    exact ⟨rfl, rfl, .refl _⟩

/-- A file that is entered has the next number, and the identifiers that were registered for it. -/
theorem enterFile_eq_ok {c c' : Census} {path : Path} {file : FileData} {e : Entity}
    (h : c.enterFile env path file = .ok (e, c')) :
    c'.nextId = c.nextId + 1 ∧
      c.index.registerAll c.nextId (readFile env c.session.library c.nextId path file).2 =
        some (e.identifiers, c'.index) ∧
      e = { (readFile env c.session.library c.nextId path file).1 with
        identifiers := e.identifiers } ∧
      RuleLibrary.SameRules env.patterns env.files c.session.library c'.session.library := by
  have hfresh := isFresh_readFile env c.session.library c.nextId path file
  obtain ⟨c₁, hadvances, heq⟩ := exists_enterFile_eq env c path file
  rw [heq, register, hadvances.index, hfresh.id_eq] at h
  split at h
  · rename_i keyed index hreg
    cases h
    rw [Entity.foldl_addIdentifier, hfresh.identifiers, List.nil_append]
    exact ⟨hadvances.nextId, hreg, rfl, hadvances.library⟩
  · cases h

/-- A file is refused only if some name that it declares has no key left. -/
theorem enterFile_eq_error {c : Census} {path : Path} {file : FileData} {error : Error}
    (h : c.enterFile env path file = .error error) :
    error = .keysExhausted ∧
      c.index.registerAll c.nextId (readFile env c.session.library c.nextId path file).2 =
        none := by
  have hfresh := isFresh_readFile env c.session.library c.nextId path file
  obtain ⟨c₁, hadvances, heq⟩ := exists_enterFile_eq env c path file
  rw [heq, register, hadvances.index, hfresh.id_eq] at h
  split at h
  · cases h
  · rename_i hreg
    cases h
    exact ⟨rfl, hreg⟩

/-! ## Runs along listings -/

/-- A census that goes through some listings in order: the branches that it makes of them, and the
census before and after. -/
inductive Takes (env : Environment) :
    Census → List Listing → List Branch → Census → Prop
  | nil {c : Census} : Takes env c [] [] c
  | file {c c₁ c₂ c' : Census} {path : Path} {file : FileData} {e : Entity}
      {listings : List Listing} {branches : List Branch} (look : Advances env c c₁ 0)
      (enter : c₁.enterFile env path file = .ok (e, c₂))
      (rest : Takes env c₂ listings branches c') :
      Takes env c (.file path file :: listings) (⟨e, []⟩ :: branches) c'
  | directory {c c₁ c₂ c' : Census} {path : Path} {entries : List Listing}
      {faults : List FileFault} {listings : List Listing} {children branches : List Branch}
      (look : Advances env c c₁ 0)
      (below : Takes env (c₁.enterDirectory path entries faults).2 entries children c₂)
      (rest : Takes env c₂ listings branches c') :
      Takes env c (.directory path entries faults :: listings)
        (.ofChildren (c₁.enterDirectory path entries faults).1 children :: branches) c'
  | directoryLink {c c' : Census} {path : Path} {listings : List Listing}
      {branches : List Branch} (rest : Takes env c listings branches c') :
      Takes env c (.directoryLink path :: listings) branches c'
  | unreadable {c c₁ c' : Census} {path : Path} {listings : List Listing}
      {branches : List Branch} (skip : Advances env c c₁ 0)
      (rest : Takes env c₁ listings branches c') :
      Takes env c (.unreadable path :: listings) branches c'

-- The recursion is that of the listing: a directory holds the listings of its entries.
mutual

theorem takes_enter {c c₁ c' : Census} {listing : Listing} {branch : Option Branch}
    (h : c.enter env listing = .ok (branch, c₁)) {listings : List Listing}
    {branches : List Branch} (rest : Takes env c₁ listings branches c') :
    Takes env c (listing :: listings) (branch.toList ++ branches) c' := by
  cases listing with
  | file path file =>
    rw [enter] at h
    obtain ⟨c₂, hlook, h⟩ := bind_eq_ok h
    obtain ⟨⟨e, c₃⟩, hfile, h⟩ := bind_eq_ok h
    cases h
    exact .file (advances_look hlook) hfile rest
  | directory path entries faults =>
    rw [enter] at h
    obtain ⟨c₂, hlook, h⟩ := bind_eq_ok h
    obtain ⟨⟨children, c₃⟩, hchildren, h⟩ := bind_eq_ok h
    cases h
    exact .directory (advances_look hlook) (takes_enterAll hchildren) rest
  | directoryLink path =>
    rw [enter] at h
    cases h
    exact .directoryLink rest
  | unreadable path =>
    rw [enter] at h
    obtain ⟨c₂, hlook, h⟩ := bind_eq_ok h
    cases h
    exact .unreadable ((advances_look hlook).trans (advances_note c₂ _)) rest

theorem takes_enterAll {c c' : Census} {listings : List Listing} {branches : List Branch}
    (h : c.enterAll env listings = .ok (branches, c')) : Takes env c listings branches c' := by
  cases listings with
  | nil =>
    rw [enterAll] at h
    cases h
    exact .nil
  | cons listing listings =>
    rw [enterAll] at h
    obtain ⟨⟨branch, c₁⟩, hfirst, h⟩ := bind_eq_ok h
    obtain ⟨⟨others, c₂⟩, hothers, h⟩ := bind_eq_ok h
    cases h
    exact takes_enter hfirst (takes_enterAll hothers)

end

/-- The library gives the same rules after a run as before it. -/
theorem Takes.sameRules {c c' : Census} {listings : List Listing} {branches : List Branch}
    (h : Takes env c listings branches c') :
    RuleLibrary.SameRules env.patterns env.files c.session.library c'.session.library := by
  induction h with
  | nil => exact .refl _
  | file look enter rest ih =>
    exact look.library.trans ((enterFile_eq_ok enter).2.2.2.trans ih)
  | directory look below rest ihbelow ihrest => exact look.library.trans (ihbelow.trans ihrest)
  | directoryLink rest ih => exact ih
  | unreadable skip rest ih => exact skip.library.trans ih

end Census

end Survey

end SourceAtlas
