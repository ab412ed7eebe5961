import ServedMedia.Proofs.Climbing
import ServedMedia.Proofs.InPlace

/-!
# Which options a directory has

A name is looked for in a directory and in all that its path lies in.  What is found is
the file in the longest of them that has one, and nothing is found only if none has one:

    found = some path ↔ ∃ nearest, IsNearest … nearest directory ∧ path is in `nearest`
    found = none ↔ no ancestor of `directory` has the file              (findConfigFile?_run)

The options are those of this file alone.  If they cannot be read, the search does not
go on and there are none:

    loadConfig logger none directory = found.elim (.ok .empty) (the options at …)
                                                                      (loadConfig_nearest)
-/

namespace ServedMedia

open ServedMedia.Path

namespace FileSystem

/-- Only a file counts, and no directory or device of that name. -/
theorem isFile_iff (fs : FileSystem) (directory : Place) (path : List Char) :
    fs.isFile directory path = true ↔ ∃ place content,
      fs.locate directory path = .ok place ∧ fs.get? place = some (.file content) := by
  unfold isFile
  cases fs.locate directory path with
  | error reason => simp
  | ok place =>
    cases hnode : fs.get? place with
    | none => simp [hnode]
    | some node => cases node <;> simp [hnode]

end FileSystem

namespace Command

/-! ## Algorithm -/

/-- The path of a file in a directory. -/
def fileIn (directory : List Char) (name : String) : String :=
  String.ofList (join directory name.toList)

/-- A directory holds a file of this name. -/
def HasFile (world : World) (name : String) (directory : List Char) : Prop :=
  ∃ place content, world.files.locate world.directory (join directory name.toList) = .ok place ∧
    world.files.get? place = some (.file content)

/-- The longest of the directories that a path lies in, itself included, with a certain property. -/
structure IsNearest (P : List Char → Prop) (directory path : List Char) : Prop where
  ancestor : IsAncestor directory path
  property : P directory
  longest : ∀ other, IsAncestor other path → P other → other.length ≤ directory.length

/-- What a search from a path comes to. -/
structure FindsNearest (world : World) (name path : String) (found : Option String) : Prop where
  eq_some_iff : ∀ file, found = some file ↔
    ∃ directory, IsNearest (HasFile world name) directory path.toList ∧ file = fileIn directory name
  eq_none_iff : found = none ↔
    ∀ directory, IsAncestor directory path.toList → ¬ HasFile world name directory

/-- The options in a file, or why there are none. -/
def configAt (world : World) (path : String) : Except ConfigError Config :=
  match world.files.readText world.directory path.toList with
  | .error reason => .error (.unreadable path reason)
  | .ok text =>
    match Config.ofToml? text with
    | none => .error .malformed
    | some (config, _) => .ok config

/-! ## The nearest -/

/-- In a list that gets shorter, the first with some property is the longest. -/
theorem find?_eq_some_iff_longest {items : List (List Char)}
    (h : items.Pairwise fun inner outer => outer.length < inner.length)
    (p : List Char → Bool) (item : List Char) :
    items.find? p = some item ↔ item ∈ items ∧ p item = true ∧
      ∀ other ∈ items, p other = true → other.length ≤ item.length := by
  induction items with
  | nil => simp
  | cons first items ih =>
    obtain ⟨hshorter, hrest⟩ := List.pairwise_cons.1 h
    cases hfirst : p first with
    | true =>
      rw [List.find?_cons_of_pos hfirst]
      constructor
      · rintro ⟨⟩
        refine ⟨List.mem_cons_self, hfirst, fun other hmem _ => ?_⟩
        rcases List.mem_cons.1 hmem with rfl | hmem
        · exact Nat.le_refl _
        · exact Nat.le_of_lt (hshorter other hmem)
      · rintro ⟨hmem, -, hlongest⟩
        rcases List.mem_cons.1 hmem with rfl | hmem
        · rfl
        · have hle := hlongest first List.mem_cons_self hfirst
          exact absurd (hshorter item hmem) (Nat.not_lt_of_le hle)
    | false =>
      rw [List.find?_cons_of_neg (by simp [hfirst]), ih hrest]
      simp only [List.mem_cons]
      constructor
      · rintro ⟨hmem, hitem, hlongest⟩
        refine ⟨.inr hmem, hitem, ?_⟩
        rintro other (rfl | hother) hp
        · rw [hfirst] at hp
          cases hp
        · exact hlongest other hother hp
      · rintro ⟨rfl | hmem, hitem, hlongest⟩
        · rw [hfirst] at hitem
          cases hitem
        · exact ⟨hmem, hitem, fun other hother => hlongest other (.inr hother)⟩

theorem find?_ancestors {P : List Char → Prop} {p : List Char → Bool}
    (hp : ∀ directory, p directory = true ↔ P directory) (path directory : List Char) :
    (ancestors path).find? p = some directory ↔ IsNearest P directory path := by
  rw [find?_eq_some_iff_longest (pairwise_ancestors path)]
  simp only [mem_ancestors_iff, hp]
  exact ⟨fun ⟨hmem, hitem, hlongest⟩ => ⟨hmem, hitem, hlongest⟩,
    fun h => ⟨h.ancestor, h.property, h.longest⟩⟩

/-! ## Searching -/

theorem firstFile?_run (paths : List String) (world : World) :
    (firstFile? paths : Session _).run world =
      (paths.find? fun path => world.files.isFile world.directory path.toList, world) := by
  induction paths with
  | nil => rfl
  | cons path paths ih =>
    have htest : (Effects.isFile path : Session _).run world =
        (world.files.isFile world.directory path.toList, world) := rfl
    rw [firstFile?, run_bind, htest, List.find?_cons]
    dsimp only
    cases world.files.isFile world.directory path.toList with
    | true => rfl
    | false => exact ih

theorem findConfigFile?_run (name path : String) (world : World) :
    ∃ found, (findConfigFile? name path : Session _).run world = (found, world) ∧
      FindsNearest world name path found := by
  let holds := fun directory : List Char =>
    world.files.isFile world.directory (fileIn directory name).toList
  have hholds : ∀ directory, holds directory = true ↔ HasFile world name directory := by
    intro directory
    rw [FileSystem.isFile_iff, fileIn, String.toList_ofList]
    rfl
  refine ⟨((ancestors path.toList).find? holds).map fun directory => fileIn directory name, ?_,
    ?_, ?_⟩
  · rw [findConfigFile?, firstFile?_run, candidates, List.find?_map]
    rfl
  · intro file
    rw [Option.map_eq_some_iff]
    simp only [find?_ancestors hholds, eq_comm (a := file)]
  · rw [Option.map_eq_none_iff, List.find?_eq_none]
    simp only [mem_ancestors_iff, hholds]

/-- Below a directory of this name the file of a directory further out is found. -/
example : ((findConfigFile? configFileName "/site/posts/./" : Session _).run
    ⟨⟨[(["site".toList, "posts".toList, "media-imports.toml".toList], .directory),
      (["site".toList, "posts".toList], .directory), (["site".toList], .directory),
      (["site".toList, "media-imports.toml".toList], .file .empty)]⟩, [], .empty, "", []⟩).1 =
    some "/site/media-imports.toml" := by
  decide +kernel

/-! ## Options -/

/-- Reading options changes nothing, but it may warn. -/
theorem readConfig_run (logger : Logger) (path : String) (world : World) : ∃ lines,
    (readConfig logger path : Session _).run world = (configAt world path, world.logged lines) := by
  have hread : (Effects.readText path : Session _).run world =
      (world.files.readText world.directory path.toList, world) := rfl
  unfold configAt
  rw [readConfig, run_bind, hread]
  cases world.files.readText world.directory path.toList with
  | error reason => exact ⟨[], by rw [World.logged_nil]; rfl⟩
  | ok text =>
    dsimp only
    cases Config.ofToml? text with
    | none => exact ⟨[], by rw [World.logged_nil]; rfl⟩
    | some result =>
      obtain ⟨config, unknown⟩ := result
      dsimp only
      split
      · exact ⟨[], by rw [World.logged_nil]; rfl⟩
      · exact (onlyLogs_say logger _ _).run_pure _ world

/-! ## Top theorems -/

theorem loadConfig_nearest (logger : Logger) (path : String) (world : World) :
    (∀ name, ∃ found, (findConfigFile? name path : Session _).run world = (found, world) ∧
      FindsNearest world name path found) ∧
    ∃ found lines, FindsNearest world configFileName path found ∧
      (loadConfig logger none path : Session _).run world =
        (found.elim (.ok .empty) (configAt world), world.logged lines) := by
  refine ⟨fun name => findConfigFile?_run name path world, ?_⟩
  obtain ⟨found, hfind, hnearest⟩ := findConfigFile?_run configFileName path world
  refine ⟨found, ?_⟩
  rw [loadConfig, run_bind, hfind]
  cases found with
  | none => exact ⟨[], hnearest, by rw [World.logged_nil]; rfl⟩
  | some file =>
    obtain ⟨lines, hdetail⟩ := onlyLogs_detail logger "config" ("using " ++ file) world
    obtain ⟨more, hread⟩ := readConfig_run logger file (world.logged lines)
    refine ⟨lines ++ more, hnearest, ?_⟩
    dsimp only
    rw [run_bind, hdetail, hread, World.logged_logged]
    rfl

end Command

end ServedMedia
