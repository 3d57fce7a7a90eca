import SourceAtlas.Proofs.Entity.Registration
import SourceAtlas.Proofs.Survey.Steps

/-!
# Several workers

The entries of a directory may be taken by several workers at once. All of them take numbers from
one counter and register identifiers in one index. Each of these events happens at once, and between
two events of one worker there may be any events of the others.

`Works` says which events the work on some listings consists of, in every order in which they may
come, and what is made of the answers. `Happens` says what the events do to the counter and the
index. The census is the case of one worker, who takes the entries in order
(`Takes.exists_works`). It is refused only if its identifiers cannot all be registered
(`exhausts_of_enter`).
-/

namespace SourceAtlas

/-! ## Interleaving -/

/-- A list that is made of two others, each of them in its own order. -/
inductive Interleaves {α : Type} : List α → List α → List α → Prop
  | nil : Interleaves [] [] []
  | left {a b c : List α} (x : α) (h : Interleaves a b c) : Interleaves (x :: a) b (x :: c)
  | right {a b c : List α} (x : α) (h : Interleaves a b c) : Interleaves a (x :: b) (x :: c)

namespace Interleaves

variable {α β : Type} {a b c : List α}

theorem append (a b : List α) : Interleaves a b (a ++ b) := by
  induction a with
  | cons x a ih => exact .left x ih
  | nil =>
    induction b with
    | nil => exact .nil
    | cons x b ih => exact .right x ih

theorem append_right (h : Interleaves a b c) (d : List α) : Interleaves a (b ++ d) (c ++ d) := by
  induction h with
  | nil => exact append [] d
  | left x _ ih => exact .left x ih
  | right x _ ih => exact .right x ih

theorem mem_iff (h : Interleaves a b c) {x : α} : x ∈ c ↔ x ∈ a ∨ x ∈ b := by
  induction h with
  | nil => simp
  | left y _ ih => rw [List.mem_cons, List.mem_cons, ih, or_assoc]
  | right y _ ih => rw [List.mem_cons, List.mem_cons, ih, or_left_comm]

theorem filterMap (h : Interleaves a b c) (f : α → Option β) :
    Interleaves (a.filterMap f) (b.filterMap f) (c.filterMap f) := by
  induction h with
  | nil => exact .nil
  | left x _ ih =>
    rw [List.filterMap_cons, List.filterMap_cons]
    split
    · exact ih
    · exact .left _ ih
  | right x _ ih =>
    rw [List.filterMap_cons, List.filterMap_cons]
    split
    · exact ih
    · exact .right _ ih

theorem filter (h : Interleaves a b c) (p : α → Bool) :
    Interleaves (a.filter p) (b.filter p) (c.filter p) := by
  rw [← List.filterMap_eq_filter]
  exact h.filterMap _

theorem map (h : Interleaves a b c) (f : α → β) : Interleaves (a.map f) (b.map f) (c.map f) := by
  rw [← List.filterMap_eq_map]
  exact h.filterMap _

theorem eq_left (h : Interleaves a [] c) : c = a := by
  generalize hb : ([] : List α) = b at h
  induction h with
  | nil => rfl
  | left x _ ih => rw [ih hb]
  | right x _ _ => cases hb

theorem eq_right (h : Interleaves [] b c) : c = b := by
  generalize ha : ([] : List α) = a at h
  induction h with
  | nil => rfl
  | left x _ _ => cases ha
  | right x _ ih => rw [ih ha]

end Interleaves

namespace Survey

/-! ## Events -/

/-- An identifier that was registered for an owner, as it was given and as it was returned. -/
structure Registration where
  owner : EntityId
  given : Identifier
  keyed : Identifier

def Registration.call (r : Registration) : EntityId × Identifier := (r.owner, r.given)

/-- What a worker does that others see. -/
inductive Event where
  /-- A number is taken from the counter. -/
  | number (id : EntityId)
  | register (registration : Registration)

def Event.registration? : Event → Option Registration
  | number _ => none
  | register registration => some registration

def registrations (events : List Event) : List Registration :=
  events.filterMap Event.registration?

@[simp] theorem registrations_number (id : EntityId) (events : List Event) :
    registrations (.number id :: events) = registrations events := rfl

@[simp] theorem registrations_register (r : Registration) (events : List Event) :
    registrations (.register r :: events) = r :: registrations events := rfl

@[simp] theorem registrations_append (events others : List Event) :
    registrations (events ++ others) = registrations events ++ registrations others :=
  List.filterMap_append

/-- Events one after the other, with the counter and the index before and after. -/
inductive Happens : Nat → IdentifierIndex → List Event → Nat → IdentifierIndex → Prop
  | nil {n : Nat} {index : IdentifierIndex} : Happens n index [] n index
  | number {n n' : Nat} {index index' : IdentifierIndex} {events : List Event}
      (rest : Happens (n + 1) index events n' index') :
      Happens n index (.number n :: events) n' index'
  | register {n n' : Nat} {index index₁ index' : IdentifierIndex} {events : List Event}
      {r : Registration} (answer : index.register r.owner r.given = some (r.keyed, index₁))
      (rest : Happens n index₁ events n' index') :
      Happens n index (.register r :: events) n' index'

namespace Happens

variable {n n' : Nat} {index index' : IdentifierIndex} {events : List Event}

theorem append {n₁ : Nat} {index₁ : IdentifierIndex} {others : List Event}
    (h : Happens n index events n₁ index₁) (h' : Happens n₁ index₁ others n' index') :
    Happens n index (events ++ others) n' index' := by
  induction h with
  | nil => exact h'
  | number _ ih => exact .number (ih h')
  | register answer _ ih => exact .register answer (ih h')

theorem registerEach_eq (h : Happens n index events n' index') :
    index.registerEach ((registrations events).map Registration.call) =
      some ((registrations events).map Registration.keyed, index') := by
  induction h with
  | nil => rfl
  | number _ ih => exact ih
  | register answer _ ih =>
    rw [registrations_register, List.map_cons, Registration.call, IdentifierIndex.registerEach,
      answer]
    simp only [Option.bind_eq_bind, Option.bind_some, ih]
    rfl

/-- After all has happened, the index lists what was returned, and knows the owner of that and of
nothing else. -/
theorem index_eq (h : Happens 0 .empty events n' index') :
    index'.all = (registrations events).map Registration.keyed ∧
      (∀ r ∈ registrations events, index'.owner? r.keyed = some r.owner) ∧
      ∀ i ∉ index'.all, index'.owner? i = none := by
  have hrun := IdentifierIndex.isKeyed_empty.registers h.registerEach_eq
  have hall : index'.all = (registrations events).map Registration.keyed := hrun.order
  refine ⟨hall, ?_, ?_⟩
  · have hcalls := hrun.calls
    rw [List.forall₂_map_left_iff, List.forall₂_map_right_iff, List.forall₂_same] at hcalls
    intro r hr
    exact (hcalls r hr).2
  · intro i hi
    exact hrun.others i (hall ▸ hi)

end Happens

/-! ## Work on listings -/

/-- The events of one file that has a number: what it declares is registered in order. -/
def fileEvents (id : EntityId) (found keyed : List Identifier) : List Event :=
  .number id :: (found.zip keyed).map fun answer => .register ⟨id, answer.1, answer.2⟩

/-- The events of the work on some listings, in an order in which they may come, and the branches
that are made of the answers. A directory has its number before its entries are taken. -/
inductive Works (env : Environment) (library : RuleLibrary) :
    List Listing → List Event → List Branch → Prop
  | nil : Works env library [] [] []
  | file {path : Path} {file : FileData} {listings : List Listing} {others events : List Event}
      {branches : List Branch} (id : EntityId) (keyed : List Identifier)
      (length_eq : keyed.length = (Census.readFile env library id path file).2.length)
      (rest : Works env library listings others branches)
      (order : Interleaves
        (fileEvents id (Census.readFile env library id path file).2 keyed) others events) :
      Works env library (.file path file :: listings) events
        (⟨{ (Census.readFile env library id path file).1 with identifiers := keyed }, []⟩ ::
          branches)
  | directory {path : Path} {entries : List Listing} {faults : List FileFault}
      {listings : List Listing} {inner others events : List Event}
      {children branches : List Branch} (id : EntityId)
      (below : Works env library entries inner children)
      (rest : Works env library listings others branches)
      (order : Interleaves (.number id :: inner) others events) :
      Works env library (.directory path entries faults :: listings) events
        (.ofChildren (Entity.directory id path) children :: branches)
  | directoryLink {path : Path} {listings : List Listing} {events : List Event}
      {branches : List Branch} (rest : Works env library listings events branches) :
      Works env library (.directoryLink path :: listings) events branches
  | unreadable {path : Path} {listings : List Listing} {events : List Event}
      {branches : List Branch} (rest : Works env library listings events branches) :
      Works env library (.unreadable path :: listings) events branches

/-- What was returned to an owner. -/
def answers (id : EntityId) (events : List Event) : List Identifier :=
  ((registrations events).filter (·.owner == id)).map Registration.keyed

theorem answers_interleave {a b c : List Event} (h : Interleaves a b c) (id : EntityId) :
    Interleaves (answers id a) (answers id b) (answers id c) :=
  ((h.filterMap Event.registration?).filter _).map _

theorem registrations_fileEvents (id : EntityId) (found keyed : List Identifier) :
    registrations (fileEvents id found keyed) =
      (found.zip keyed).map fun answer => ⟨id, answer.1, answer.2⟩ := by
  rw [fileEvents, registrations_number, registrations, List.filterMap_map,
    ← List.filterMap_eq_map]
  rfl

theorem map_keyed_fileEvents {id : EntityId} {found keyed : List Identifier}
    (h : keyed.length = found.length) :
    (registrations (fileEvents id found keyed)).map Registration.keyed = keyed := by
  rw [registrations_fileEvents, List.map_map]
  exact List.map_snd_zip (Nat.le_of_eq h)

theorem map_call_fileEvents {id : EntityId} {found keyed : List Identifier}
    (h : keyed.length = found.length) :
    (registrations (fileEvents id found keyed)).map Registration.call = found.map (id, ·) := by
  have hfound : (found.zip keyed).map Prod.fst = found := List.map_fst_zip (Nat.le_of_eq h.symm)
  rw [registrations_fileEvents, List.map_map]
  conv_rhs => rw [← hfound, List.map_map]
  rfl

theorem owner_of_mem_fileEvents {id : EntityId} {found keyed : List Identifier} {r : Registration}
    (h : r ∈ registrations (fileEvents id found keyed)) : r.owner = id := by
  rw [registrations_fileEvents] at h
  obtain ⟨answer, -, rfl⟩ := List.mem_map.1 h
  rfl

theorem answers_fileEvents {id : EntityId} {found keyed : List Identifier}
    (h : keyed.length = found.length) : answers id (fileEvents id found keyed) = keyed := by
  rw [answers, List.filter_eq_self.2, map_keyed_fileEvents h]
  intro r hr
  exact beq_iff_eq.2 (owner_of_mem_fileEvents hr)

theorem answers_eq_nil {id : EntityId} {events : List Event}
    (h : ∀ r ∈ registrations events, r.owner ≠ id) : answers id events = [] := by
  rw [answers, List.filter_eq_nil_iff.2, List.map_nil]
  intro r hr
  rw [beq_iff_eq]
  exact h r hr

namespace Works

variable {env : Environment} {library : RuleLibrary} {listings : List Listing}
  {events : List Event} {branches : List Branch}

/-- Identifiers are registered for code files only. -/
theorem exists_owner (h : Works env library listings events branches) {r : Registration}
    (hr : r ∈ registrations events) :
    ∃ e ∈ branches.flatMap Branch.entities, e.id = r.owner ∧ e.isCode := by
  induction h with
  | nil => cases hr
  | @file path file _ _ _ branches id keyed length_eq rest order ih =>
    rw [List.flatMap_cons]
    rcases (order.filterMap _).mem_iff.1 hr with hr | hr
    · have hfound : (Census.readFile env library id path file).2 ≠ [] := by
        intro hnone
        rw [← registrations, hnone, registrations_fileEvents] at hr
        cases hr
      refine ⟨_, List.mem_append_left _ List.mem_cons_self, ?_, Census.isCode_readFile hfound⟩
      rw [owner_of_mem_fileEvents hr]
      exact (Census.isFresh_readFile env library id path file).id_eq
    · obtain ⟨e, he, howner⟩ := ih hr
      exact ⟨e, List.mem_append_right _ he, howner⟩
  | directory id below rest order ihbelow ihrest =>
    rw [List.flatMap_cons]
    rcases (order.filterMap _).mem_iff.1 hr with hr | hr
    · obtain ⟨e, he, howner⟩ := ihbelow hr
      exact ⟨e, List.mem_append_left _ (List.mem_cons_of_mem _ he), howner⟩
    · obtain ⟨e, he, howner⟩ := ihrest hr
      exact ⟨e, List.mem_append_right _ he, howner⟩
  | directoryLink rest ih => exact ih hr
  | unreadable rest ih => exact ih hr

theorem answers_eq_nil_of_not_mem (h : Works env library listings events branches) {id : EntityId}
    (hid : id ∉ (branches.flatMap Branch.entities).map Entity.id) : answers id events = [] := by
  apply answers_eq_nil
  rintro r hr rfl
  obtain ⟨e, he, howner, -⟩ := h.exists_owner hr
  exact hid (List.mem_map.2 ⟨e, he, howner⟩)

/-- If numbers are not given out twice, an entity has the identifiers that were returned to it. -/
theorem identifiers_eq (h : Works env library listings events branches)
    (hnodup : ((branches.flatMap Branch.entities).map Entity.id).Nodup) {e : Entity}
    (he : e ∈ branches.flatMap Branch.entities) : e.identifiers = answers e.id events := by
  induction h with
  | nil => cases he
  | @file path file _ others events branches id keyed length_eq rest order ih =>
    have hid := (Census.isFresh_readFile env library id path file).id_eq
    rw [List.flatMap_cons, Branch.entities, List.singleton_append] at hnodup he
    obtain ⟨hnew, hnodup⟩ := List.nodup_cons.1 hnodup
    rw [hid] at hnew
    have horder := answers_interleave order e.id
    rcases List.mem_cons.1 he with rfl | he
    · rw [hid, answers_fileEvents length_eq, rest.answers_eq_nil_of_not_mem hnew] at horder
      rw [hid]
      exact horder.eq_left.symm
    · have hnone : answers e.id
          (fileEvents id (Census.readFile env library id path file).2 keyed) = [] := by
        apply answers_eq_nil
        intro r hr howner
        rw [owner_of_mem_fileEvents hr] at howner
        exact hnew (howner ▸ List.mem_map_of_mem he)
      rw [hnone] at horder
      rw [horder.eq_right]
      exact ih hnodup he
  | @directory path entries faults _ inner others events children branches id below rest order
      ihbelow ihrest =>
    rw [List.flatMap_cons, Branch.entities, List.cons_append] at hnodup he
    obtain ⟨hnew, hnodup⟩ := List.nodup_cons.1 hnodup
    rw [List.map_append] at hnew hnodup
    obtain ⟨hnodupBelow, hnodupRest, hdisjoint⟩ := List.nodup_append.1 hnodup
    have horder : Interleaves (answers e.id inner) (answers e.id others) (answers e.id events) :=
      answers_interleave order e.id
    rcases List.mem_cons.1 he with rfl | he
    · rw [List.mem_append, not_or] at hnew
      rw [below.answers_eq_nil_of_not_mem hnew.1, rest.answers_eq_nil_of_not_mem hnew.2] at horder
      exact horder.eq_left.symm
    · rcases List.mem_append.1 he with he | he
      · have hother : e.id ∉ (branches.flatMap Branch.entities).map Entity.id := fun hmem =>
          hdisjoint _ (List.mem_map_of_mem he) _ hmem rfl
        rw [rest.answers_eq_nil_of_not_mem hother] at horder
        rw [horder.eq_left]
        exact ihbelow hnodupBelow he
      · have hother : e.id ∉ (children.flatMap Branch.entities).map Entity.id := fun hmem =>
          hdisjoint _ hmem _ (List.mem_map_of_mem he) rfl
        rw [below.answers_eq_nil_of_not_mem hother] at horder
        rw [horder.eq_right]
        exact ihrest hnodupRest he
  | directoryLink rest ih => exact ih hnodup he
  | unreadable rest ih => exact ih hnodup he

theorem append {more : List Listing} {others : List Event} {branches' : List Branch}
    (h : Works env library listings events branches)
    (h' : Works env library more others branches') :
    Works env library (listings ++ more) (events ++ others) (branches ++ branches') := by
  induction h with
  | nil => exact h'
  | file id keyed length_eq rest order ih =>
    exact .file id keyed length_eq ih (order.append_right _)
  | directory id below rest order _ ih => exact .directory id below ih (order.append_right _)
  | directoryLink rest ih => exact .directoryLink ih
  | unreadable rest ih => exact .unreadable ih

end Works

-- The recursion is that of the listing: a directory holds the listings of its entries.
mutual

theorem exists_works_singleton (env : Environment) (library : RuleLibrary) (listing : Listing) :
    ∃ events branches, Works env library [listing] events branches := by
  cases listing with
  | file path file => exact ⟨_, _, .file 0 _ rfl .nil (.append _ _)⟩
  | directory path entries faults =>
    obtain ⟨inner, children, hbelow⟩ := exists_works env library entries
    exact ⟨_, _, .directory 0 hbelow .nil (.append _ _)⟩
  | directoryLink path => exact ⟨_, _, .directoryLink .nil⟩
  | unreadable path => exact ⟨_, _, .unreadable .nil⟩

/-- There is some way to do the work on any listings. -/
theorem exists_works (env : Environment) (library : RuleLibrary) (listings : List Listing) :
    ∃ events branches, Works env library listings events branches := by
  cases listings with
  | nil => exact ⟨_, _, .nil⟩
  | cons listing listings =>
    obtain ⟨events, branches, hfirst⟩ := exists_works_singleton env library listing
    obtain ⟨others, more, hrest⟩ := exists_works env library listings
    exact ⟨_, _, hfirst.append hrest⟩

end

/-! ## One worker -/

theorem happens_registerAll {n : Nat} {id : EntityId} {index index' : IdentifierIndex}
    {found keyed : List Identifier} (h : index.registerAll id found = some (keyed, index')) :
    keyed.length = found.length ∧ Happens n index
      ((found.zip keyed).map fun answer => .register ⟨id, answer.1, answer.2⟩) n index' := by
  induction found generalizing index keyed with
  | nil =>
    cases h
    exact ⟨rfl, .nil⟩
  | cons i found ih =>
    rw [IdentifierIndex.registerAll] at h
    obtain ⟨⟨first, index₁⟩, hfirst, h⟩ := Option.bind_eq_some_iff.1 h
    obtain ⟨⟨others, index₂⟩, hothers, heq⟩ := Option.bind_eq_some_iff.1 h
    cases heq
    obtain ⟨hlength, hrest⟩ := ih hothers
    exact ⟨congrArg (· + 1) hlength, .register hfirst hrest⟩

namespace Census

variable {env : Environment} {library : RuleLibrary} {c c' : Census}

/-- A census is the work of one worker. Identifiers are returned in the order of the entities. -/
theorem Takes.exists_works {listings : List Listing} {branches : List Branch}
    (h : Takes env c listings branches c')
    (hlibrary : RuleLibrary.SameRules env.patterns env.files library c.session.library) :
    ∃ events, Works env library listings events branches ∧
      Happens c.nextId c.index events c'.nextId c'.index ∧
      (registrations events).map Registration.keyed =
        (branches.flatMap Branch.entities).flatMap Entity.identifiers := by
  induction h with
  | nil => exact ⟨[], .nil, .nil, rfl⟩
  | @file c c₁ c₂ c' path file e listings branches look enter rest ih =>
    have hlook := hlibrary.trans look.library
    obtain ⟨hnext, hreg, heq, hafter⟩ := enterFile_eq_ok enter
    obtain ⟨others, hworks, hhappens, hkeyed⟩ := ih (hlook.trans hafter)
    rw [readFile_congr hlook] at hreg heq
    obtain ⟨hlength, hfile⟩ := happens_registerAll hreg
    refine ⟨fileEvents c₁.nextId (readFile env library c₁.nextId path file).2 e.identifiers ++
      others, ?_, ?_, ?_⟩
    · rw [heq]
      exact .file c₁.nextId e.identifiers hlength hworks (.append _ _)
    · rw [← look.nextId_eq, ← look.index]
      exact .number (hfile.append (hnext ▸ hhappens))
    · rw [registrations_append, List.map_append, map_keyed_fileEvents hlength, hkeyed]
      rfl
  | @directory c c₁ c₂ c' path entries faults listings children branches look below rest ihbelow
      ihrest =>
    have hlook := hlibrary.trans look.library
    obtain ⟨inner, hbelow, hinner, hkeyedInner⟩ := ihbelow hlook
    obtain ⟨others, hworks, hothers, hkeyedOthers⟩ := ihrest (hlook.trans below.sameRules)
    refine ⟨.number c₁.nextId :: inner ++ others, ?_, ?_, ?_⟩
    · exact .directory c₁.nextId hbelow hworks (.append _ _)
    · rw [← look.nextId_eq, ← look.index]
      exact .number (hinner.append hothers)
    · rw [List.cons_append, registrations_number, registrations_append, List.map_append,
        hkeyedInner, hkeyedOthers, List.flatMap_cons, List.flatMap_append]
      rfl
  | directoryLink rest ih =>
    obtain ⟨events, hworks, hrest⟩ := ih hlibrary
    exact ⟨events, .directoryLink hworks, hrest⟩
  | unreadable skip rest ih =>
    obtain ⟨events, hworks, hrest⟩ := ih (hlibrary.trans skip.library)
    rw [skip.nextId_eq, skip.index] at hrest
    exact ⟨events, .unreadable hworks, hrest⟩

/-! ## Refused work -/

/-- There is a way to do the work on some listings that needs more keys than an index has left. -/
def Exhausts (env : Environment) (library : RuleLibrary) (index : IdentifierIndex)
    (listings : List Listing) : Prop :=
  ∃ events branches, Works env library listings events branches ∧
    index.registerEach ((registrations events).map Registration.call) = none

/-- An index that is empty at first lacks keys only if some name is declared as often as there are
keys. -/
theorem Exhausts.exists_name {listings : List Listing} (h : Exhausts env library .empty listings) :
    ∃ events branches name, Works env library listings events branches ∧
      UInt32.size ≤ ((registrations events).filter (·.given.name == name)).length := by
  obtain ⟨events, branches, hworks, hnone⟩ := h
  by_contra hfew
  have hroom : ∀ name, (IdentifierIndex.empty.byName name).length +
      (((registrations events).map Registration.call).filter (·.2.name == name)).length <
        UInt32.size := by
    intro name
    rw [show (IdentifierIndex.empty.byName name).length = 0 from rfl, Nat.zero_add,
      List.filter_map, List.length_map]
    exact Nat.lt_of_not_le fun hmany => hfew ⟨events, branches, name, hworks, hmany⟩
  obtain ⟨returned, index, hsome⟩ := IdentifierIndex.isKeyed_empty.exists_registerEach hroom
  rw [hnone] at hsome
  cases hsome

theorem Exhausts.append {index : IdentifierIndex} {listings : List Listing}
    (h : Exhausts env library index listings) (more : List Listing) :
    Exhausts env library index (listings ++ more) := by
  obtain ⟨events, branches, hworks, hnone⟩ := h
  obtain ⟨others, branches', hothers⟩ := Survey.exists_works env library more
  refine ⟨_, _, hworks.append hothers, ?_⟩
  rw [registrations_append, List.map_append, IdentifierIndex.registerEach_append, hnone,
    Option.bind_none]

theorem Takes.exhausts {listings more : List Listing} {branches : List Branch}
    (h : Takes env c listings branches c')
    (hlibrary : RuleLibrary.SameRules env.patterns env.files library c.session.library)
    (hmore : Exhausts env library c'.index more) :
    Exhausts env library c.index (listings ++ more) := by
  obtain ⟨events, hworks, hhappens, -⟩ := h.exists_works hlibrary
  obtain ⟨others, branches', hothers, hnone⟩ := hmore
  refine ⟨_, _, hworks.append hothers, ?_⟩
  rw [registrations_append, List.map_append, IdentifierIndex.registerEach_append,
    hhappens.registerEach_eq, Option.bind_some, hnone, Option.map_none]

theorem exhausts_file {path : Path} {file : FileData}
    (h : c.index.registerAll c.nextId (readFile env library c.nextId path file).2 = none) :
    Exhausts env library c.index [.file path file] := by
  refine ⟨_, _, .file c.nextId _ rfl .nil (.append _ _), ?_⟩
  rw [List.append_nil, map_call_fileEvents rfl, ← IdentifierIndex.registerAll_eq, h]

theorem Exhausts.directory {index : IdentifierIndex} {entries : List Listing}
    (h : Exhausts env library index entries) (path : Path) (faults : List FileFault) :
    Exhausts env library index [.directory path entries faults] := by
  obtain ⟨events, branches, hworks, hnone⟩ := h
  refine ⟨_, _, .directory 0 hworks .nil (.append _ _), ?_⟩
  rw [List.append_nil, registrations_number]
  exact hnone

-- Again along the listing. Whatever went through before the refusal is work that has happened.
mutual

theorem exhausts_of_enter (hstop : ∀ look, env.stop look = false) {c : Census}
    (hlibrary : RuleLibrary.SameRules env.patterns env.files library c.session.library)
    {listing : Listing} {error : Error} (h : c.enter env listing = .error error) :
    error = .keysExhausted ∧ Exhausts env library c.index [listing] := by
  cases listing with
  | file path file =>
    rw [enter] at h
    obtain ⟨c₁, hlook, h⟩ := look_bind_eq_error hstop h
    rcases bind_eq_error h with h | ⟨result, -, h⟩
    · obtain ⟨herror, hnone⟩ := enterFile_eq_error h
      rw [readFile_congr (hlibrary.trans hlook.library)] at hnone
      rw [← hlook.index]
      exact ⟨herror, exhausts_file hnone⟩
    · cases h
  | directory path entries faults =>
    rw [enter] at h
    obtain ⟨c₁, hlook, h⟩ := look_bind_eq_error hstop h
    rcases bind_eq_error h with h | ⟨result, -, h⟩
    · have hinside : RuleLibrary.SameRules env.patterns env.files library
          (c₁.enterDirectory path entries faults).2.session.library :=
        hlibrary.trans hlook.library
      obtain ⟨herror, hnone⟩ := exhausts_of_enterAll hstop hinside h
      rw [← hlook.index]
      exact ⟨herror, hnone.directory path faults⟩
    · cases h
  | directoryLink path =>
    rw [enter] at h
    cases h
  | unreadable path =>
    rw [enter] at h
    obtain ⟨c₁, -, h⟩ := look_bind_eq_error hstop h
    cases h

/-- A census that nobody stops is refused only if some name has no key left. -/
theorem exhausts_of_enterAll (hstop : ∀ look, env.stop look = false) {c : Census}
    (hlibrary : RuleLibrary.SameRules env.patterns env.files library c.session.library)
    {listings : List Listing} {error : Error} (h : c.enterAll env listings = .error error) :
    error = .keysExhausted ∧ Exhausts env library c.index listings := by
  cases listings with
  | nil =>
    rw [enterAll] at h
    cases h
  | cons listing listings =>
    rw [enterAll] at h
    rcases bind_eq_error h with h | ⟨⟨branch, c₁⟩, hfirst, h⟩
    · obtain ⟨herror, hnone⟩ := exhausts_of_enter hstop hlibrary h
      exact ⟨herror, hnone.append listings⟩
    · have htakes := takes_enter hfirst .nil
      rcases bind_eq_error h with h | ⟨result, -, h⟩
      · obtain ⟨herror, hnone⟩ :=
          exhausts_of_enterAll hstop (hlibrary.trans htakes.sameRules) h
        exact ⟨herror, htakes.exhausts hlibrary hnone⟩
      · cases h

end

end Census

end Survey

end SourceAtlas
