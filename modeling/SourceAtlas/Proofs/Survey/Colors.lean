import SourceAtlas.Proofs.Color
import SourceAtlas.Proofs.FileType.Lookup
import SourceAtlas.Proofs.Survey.Picture

/-!
# Colors in surveys

If the colors of all file types are colors, so are those of all scanned entities: a file has that of
its type or the standard color, and a directory the average of those of its children, which are
colors for the same reason. No child of a directory is passed over.
-/

namespace SourceAtlas

theorem Entity.parse?_defaultColor : ∃ color, Color.parse? defaultColor = some color :=
  ⟨⟨255, 255, 255⟩, by decide⟩

/-- The colors of the entities under some numbers. -/
def EntityTree.colorsOf (tree : EntityTree) (ids : List EntityId) : List Text :=
  (ids.filterMap tree.get?).map Entity.color

/-- Every entity has a color. Each channel of that of a directory is the average of those of all its
children, rounded down, and their order does not matter. Directories without children are white. -/
structure EntityTree.HasAverageColors (tree : EntityTree) : Prop where
  parses : ∀ id e, tree.get? id = some e → ∃ color, Color.parse? e.color = some color
  average : ∀ id e, tree.get? id = some e → e.isDirectory → e.children ≠ [] →
    ∃ (color : Color) (known : List Color), Color.parse? e.color = some color ∧
      e.children.map (fun child => (tree.get? child).bind (Color.parse? ·.color)) =
        known.map some ∧
      ∀ channel ∈ [Color.red, Color.green, Color.blue],
        (channel color).toNat = (known.map fun c => (channel c).toNat).sum / known.length
  order : ∀ id e, tree.get? id = some e → e.isDirectory → e.children ≠ [] →
    ∀ shuffled, shuffled.Perm e.children → Color.blend (tree.colorsOf shuffled) = some e.color
  empty : ∀ id e, tree.get? id = some e → e.isDirectory → e.children = [] →
    e.color = "#FFFFFF".toList

namespace Survey

/-- The color of a file is one, and that of a directory is made of those of its children. -/
structure Painted (e : Entity) (children : List Entity) : Prop where
  parses : ∃ color, Color.parse? e.color = some color
  blends : e.isDirectory →
    e.color = (Color.blend (children.map Entity.color)).getD Entity.defaultColor

variable {env : Environment} {types : List (Text × FileType)} {library : RuleLibrary}

/-! ## Files -/

theorem parse?_color_readFile (htable : (FileTypes.ofTypes types).1 = .ok env.fileTypes)
    (id : EntityId) (path : Path) (file : FileData) :
    ∃ color, Color.parse? (Census.readFile env library id path file).1.color = some color := by
  have hentity : ∃ color,
      Color.parse? (Census.fileEntity env id path file).color = some color := by
    rw [Census.fileEntity, Census.classify]
    split
    · rename_i info hinfo
      exact FileTypes.exists_color_of_lookup? htable hinfo
    · exact Entity.parse?_defaultColor
  obtain ⟨vars, hvars⟩ := Census.exists_readFile_eq env library id path file
  rw [hvars]
  exact hentity

theorem painted_ofChildren (id : EntityId) (path : Path) (children : List Branch) :
    Painted (Branch.ofChildren (Entity.directory id path) children).entity
      (children.map Branch.entity) := by
  have hcolor : (Branch.ofChildren (Entity.directory id path) children).entity.color =
      (Color.blend ((children.map Branch.entity).map Entity.color)).getD Entity.defaultColor := by
    rw [List.map_map]
    rfl
  refine ⟨?_, fun _ => hcolor⟩
  -- A blend is a color whatever the children have, so that no induction is needed here.
  rw [hcolor]
  exact Color.exists_parse?_blend Entity.parse?_defaultColor _

/-- What workers make of listings is painted at every level. -/
theorem Works.grove_painted (htable : (FileTypes.ofTypes types).1 = .ok env.fileTypes)
    {listings : List Listing} {events : List Event} {branches : List Branch}
    (h : Works env library listings events branches) :
    Grove Painted (branches.map Branch.entity) (branches.flatMap Branch.entities) := by
  induction h with
  | nil => exact .nil
  | @file path file listings others events branches id keyed length_eq rest order ih =>
    have hchildren : (Census.readFile env library id path file).1.children =
        [].map Entity.id := (Census.isFresh_readFile env library id path file).children
    refine .cons hchildren ⟨?_, fun hdirectory => ?_⟩ .nil ih
    · exact parse?_color_readFile htable id path file
    · rw [Census.isDirectory_readFile] at hdirectory
      cases hdirectory
  | @directory path entries faults listings inner others events children branches id below rest
      order ihbelow ihrest =>
    refine .cons ?_ (painted_ofChildren id path children) ihbelow ihrest
    rw [List.map_map]
    rfl
  | directoryLink rest ih => exact ih
  | unreadable rest ih => exact ih

/-! ## Trees -/

section

variable {tree : EntityTree} {root : EntityId} {top : Entity} {entities : List Entity}

/-- The entities of a tree are painted as they were before they became one. -/
theorem exists_painted (htree : EntityTree.ofEntities? root entities = some tree)
    (hgrove : Grove Painted [top] entities) {id : EntityId} {e : Entity}
    (hget : tree.get? id = some e) :
    ∃ children, Painted e children ∧ e.children.map tree.get? = children.map some ∧
      ∀ child ∈ children, ∃ color, Color.parse? child.color = some color := by
  have hplaces := EntityTree.places_ofEntities? htree
  have hcolor {d : Entity} (hd : d ∈ entities) : (tree.placed d).color = d.color := by
    obtain ⟨parent, hget⟩ := EntityTree.exists_get?_ofEntities? htree hd
    rw [Option.some.inj ((hplaces.get?_placed hd).symm.trans hget)]
  obtain ⟨e, he, rfl, parent, rfl⟩ := EntityTree.exists_mem_of_get?_ofEntities? htree hget
  obtain ⟨children, hmem, hchildren, hpainted⟩ := hgrove.exists_children he
  have hcolors : (children.map tree.placed).map Entity.color = children.map Entity.color := by
    rw [List.map_map]
    exact List.map_congr_left fun child hchild => hcolor (hmem child hchild)
  refine ⟨children.map tree.placed, ⟨hpainted.parses, hcolors ▸ hpainted.blends⟩, ?_, ?_⟩
  · rw [hchildren, List.map_map, List.map_map]
    exact List.map_congr_left fun child hchild => hplaces.get?_placed (hmem child hchild)
  · intro placed hplaced
    obtain ⟨child, hchild, rfl⟩ := List.mem_map.1 hplaced
    obtain ⟨_, -, -, hpainted⟩ := hgrove.exists_children (hmem child hchild)
    rw [hcolor (hmem child hchild)]
    exact hpainted.parses

/-- The color of a directory with children is the blend of their colors, which all count. -/
theorem Painted.exists_blend_eq {e : Entity} {children : List Entity} (h : Painted e children)
    (hdirectory : e.isDirectory) (hne : children ≠ [])
    (hparses : ∀ child ∈ children, ∃ color, Color.parse? child.color = some color) :
    ∃ known : List Color, (children.map Entity.color).map Color.parse? = known.map some ∧
      Color.blend (children.map Entity.color) = some e.color ∧
      Color.parse? e.color = some (Color.mean known) := by
  obtain ⟨known, hknown, hblend⟩ :=
    Color.exists_blend_eq (List.forall_mem_map.2 hparses) (hne ∘ List.map_eq_nil_iff.1)
  have hcolor : e.color = Color.print (Color.mean known) := by
    rw [h.blends hdirectory, hblend, Option.getD_some]
  exact ⟨known, hknown, hcolor ▸ hblend, by rw [hcolor, Color.parse?_print]⟩

theorem hasAverageColors (htree : EntityTree.ofEntities? root entities = some tree)
    (hgrove : Grove Painted [top] entities) : tree.HasAverageColors := by
  refine ⟨fun id e hget => ?_, fun id e hget hdirectory hne => ?_,
    fun id e hget hdirectory hne shuffled hperm => ?_, fun id e hget hdirectory hnone => ?_⟩
  all_goals
    obtain ⟨children, hpainted, hchildren, hparses⟩ := exists_painted htree hgrove hget
    have hnil : children = [] ↔ e.children = [] := by
      rw [← List.map_eq_nil_iff, ← hchildren, List.map_eq_nil_iff]
  · exact hpainted.parses
  · obtain ⟨known, hknown, -, hcolor⟩ :=
      hpainted.exists_blend_eq hdirectory (hne ∘ hnil.1) hparses
    refine ⟨Color.mean known, known, hcolor, ?_, Color.toNat_channel_mean known⟩
    calc
      e.children.map (fun child => (tree.get? child).bind (Color.parse? ·.color)) =
          (e.children.map tree.get?).map (·.bind (Color.parse? ·.color)) := by
        rw [List.map_map]
        rfl
      _ = (children.map Entity.color).map Color.parse? := by
        rw [hchildren, List.map_map, List.map_map]
        rfl
      _ = known.map some := hknown
  · obtain ⟨known, -, hblend, -⟩ :=
      hpainted.exists_blend_eq hdirectory (hne ∘ hnil.1) hparses
    calc
      Color.blend (tree.colorsOf shuffled) = Color.blend (tree.colorsOf e.children) :=
        Color.blend_perm ((hperm.filterMap tree.get?).map Entity.color)
      _ = Color.blend (children.map Entity.color) := by
        rw [EntityTree.colorsOf, filterMap_eq_of_map_eq hchildren]
      _ = some e.color := hblend
  · rw [hpainted.blends hdirectory, hnil.2 hnone]
    rfl

end

/-- With a table that was accepted, the colors of a scanned tree are exact averages at every level,
however many workers have made it. -/
theorem scanned_colors_average (htable : (FileTypes.ofTypes types).1 = .ok env.fileTypes)
    (options : SurveyOptions) (root : Path) (s : Session) :
    (∀ found, scan env options root s = .ok found →
      ∃ listing, rootListing env options root = .ok listing ∧
        ScansTo env s.library listing found.tree found.index) ∧
    ∀ library listing tree index, ScansTo env library listing tree index →
      tree.HasAverageColors := by
  refine ⟨fun found hscan => ?_, fun library listing tree index hscans => ?_⟩
  · obtain ⟨listing, hroot, hscans, -⟩ := scansTo_scan hscan
    exact ⟨listing, hroot, hscans⟩
  · obtain ⟨events, branch, count, hworks, -, htree⟩ := hscans
    have hgrove := hworks.grove_painted htable
    rw [List.flatMap_singleton] at hgrove
    exact hasAverageColors htree hgrove

namespace Shaded

/-- Two types whose colors are written in either case. -/
def table : List (Text × FileType) :=
  [(['X'], ⟨['X'], [['x']], "#0a2020".toList, true⟩),
    (['Y'], ⟨['Y'], [['y']], "#FF0001".toList, false⟩)]

def project : Environment :=
  ⟨fun _ => .ok fun _ => none, ⟨.directory
      [("a.x".toList, .file [120]),
        (['d'], .directory [("b.x".toList, .file [120]), ("c.y".toList, .file [])]),
        (['e'], .directory [])], ['/']⟩,
    ⟨table, [(['x'], ['X']), (['y'], ['Y'])]⟩, unstopped⟩

def session : Session := Session.start ⟨['/'], []⟩ (.ofCapacity 1)

end Shaded

section

open Shaded

/-- A file, a directory with files of two types, and an empty directory. -/
theorem scanned_colors_average_nested :
    (FileTypes.ofTypes table).1 = .ok project.fileTypes ∧
    ∃ found, scan project ⟨fun _ => false, false⟩ ['/'] session = .ok found ∧
      found.tree.HasAverageColors ∧
      found.tree.entities.map Entity.color =
        ["#846565".toList, "#0a2020".toList, "#841010".toList, "#0a2020".toList,
          "#FF0001".toList, "#FFFFFF".toList] := by
  have htable : (FileTypes.ofTypes table).1 = .ok project.fileTypes := rfl
  have hcolors : (scan project ⟨fun _ => false, false⟩ ['/'] session).toOption.map
      (fun found => found.tree.entities.map Entity.color) =
        some ["#846565".toList, "#0a2020".toList, "#841010".toList, "#0a2020".toList,
          "#FF0001".toList, "#FFFFFF".toList] := by
    set_option maxRecDepth 2000 in cbv
  obtain ⟨hscans, haverage⟩ :=
    scanned_colors_average htable ⟨fun _ => false, false⟩ ['/'] session
  refine ⟨htable, ?_⟩
  cases hscan : scan project ⟨fun _ => false, false⟩ ['/'] session with
  | error error => simp [hscan, Except.toOption] at hcolors
  | ok found =>
    rw [hscan] at hcolors
    obtain ⟨listing, -, htree⟩ := hscans found hscan
    exact ⟨found, rfl, haverage _ _ _ _ htree, Option.some.inj hcolors⟩

end

end Survey

end SourceAtlas
