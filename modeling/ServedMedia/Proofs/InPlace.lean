import Mathlib.Algebra.GroupWithZero.Nat
import ServedMedia.Command.Run
import ServedMedia.Proofs.Writing

/-!
# Documents in their own places

Documents that are replaced in their own places do not touch each other, if their paths
lead to different places.  What becomes of each one is told by the files at the start:

    newText? config pretty files directory path = some text       the file holds the text
    newText? config pretty files directory path = none            the file stays

So the order does not matter, and neither do documents that cannot be read: they are
counted at the end, and the others are replaced all the same       (runDocuments_inPlace).
-/

namespace ServedMedia

/-- The world with more lines in its log. -/
def World.logged (world : World) (lines : List String) : World :=
  { world with lines := world.lines ++ lines }

theorem World.logged_nil (world : World) : world.logged [] = world := by
  rw [logged, List.append_nil]

theorem World.logged_logged (world : World) (lines more : List String) :
    (world.logged lines).logged more = world.logged (lines ++ more) := by
  rw [logged, logged, logged, List.append_assoc]

namespace Command

/-! ## Algorithm -/

/-- The tree of the document in a file, or why there is none. -/
def documentAt (files : FileSystem) (directory : Place) (path : String) : Except Failure Json :=
  match files.readText directory path.toList with
  | .error reason => .error (.unreadable (.file path) reason)
  | .ok text =>
    match Json.parse? text with
    | none => .error (.malformed (.file path))
    | some tree => .ok tree

/-- A tree as the text of a document. -/
def textOf (pretty : Bool) (tree : Json) : String :=
  (if pretty then tree.indented else tree.compact) ++ "\n"

/-- How many imports are replaced in the document at a path. -/
def countAt (config : Config) (files : FileSystem) (directory : Place) (path : String) :
    Except Failure Nat :=
  (documentAt files directory path).map fun tree =>
    (config.replaceImports tree).2.replacements.length

/-- The text that comes in the place of a document, if any of its imports is replaced. -/
def newText? (config : Config) (pretty : Bool) (files : FileSystem) (directory : Place)
    (path : String) : Option String :=
  (documentAt files directory path).toOption.bind fun tree =>
    if (config.replaceImports tree).2.isUnchanged then none
    else some (textOf pretty (config.replaceImports tree).1)

/-- The files once the document at a path is replaced. -/
def filesAfter (config : Config) (pretty : Bool) (files : FileSystem) (directory : Place)
    (path : String) : FileSystem :=
  match newText? config pretty files directory path, files.locate directory path.toList with
  | some text, .ok place => files.put place (.file text.toUTF8)
  | _, _ => files

/-- No two of the paths lead to one place. -/
def LeadApart (files : FileSystem) (directory : Place) (paths : List String) : Prop :=
  paths.Pairwise fun first second => ∀ place,
    files.locate directory first.toList = .ok place →
      files.locate directory second.toList ≠ .ok place

theorem apart_iff (first second : Except FileError Place) :
    (first.toOption.all fun place => second.toOption != some place) = true ↔
      ∀ place, first = .ok place → second ≠ .ok place := by
  cases first with
  | error reason => simp [Except.toOption]
  | ok place => cases second <;> simp [Except.toOption]

instance (files : FileSystem) (directory : Place) (paths : List String) :
    Decidable (LeadApart files directory paths) :=
  decidable_of_iff (paths.Pairwise fun first second =>
      ((files.locate directory first.toList).toOption.all fun place =>
        (files.locate directory second.toList).toOption != some place) = true)
    (List.Pairwise.iff fun _ _ => apart_iff _ _)

/-- Each document that has imports to replace is replaced as a whole, and all else stays. -/
structure ReplacedIn (config : Config) (pretty : Bool) (directory : Place) (paths : List String)
    (before after : FileSystem) : Prop where
  replaced : ∀ path ∈ paths, ∀ place text, before.locate directory path.toList = .ok place →
    newText? config pretty before directory path = some text →
      after.get? place = some (.file text.toUTF8)
  kept : ∀ path ∈ paths, ∀ place, before.locate directory path.toList = .ok place →
    newText? config pretty before directory path = none →
      after.get? place = before.get? place
  others : ∀ place, (∀ path ∈ paths, before.locate directory path.toList ≠ .ok place) →
    after.get? place = before.get? place

/-- The counts of the documents that could be replaced. -/
def successes (outcomes : List (Except Failure Nat)) : List Nat :=
  outcomes.filterMap Except.toOption

/-- What is said at the end about the documents that could be replaced. -/
def summary (logger : Logger) (counts : List Nat) : String :=
  logger.heading "rewrite" ++ " " ++
    (plural counts.sum "import" ++ " in " ++ plural counts.length "document")

/-! ## Sessions -/

theorem run_pure {α : Type} (value : α) (world : World) :
    (pure value : Session α).run world = (value, world) := rfl

theorem run_bind {α β : Type} (act : Session α) (next : α → Session β) (world : World) :
    (act >>= next).run world = (next (act.run world).1).run (act.run world).2 := rfl

/-- The log is all that changes. -/
def OnlyLogs (act : Session Unit) : Prop :=
  ∀ world, ∃ lines, act.run world = ((), world.logged lines)

theorem onlyLogs_pure : OnlyLogs (pure ()) := fun world =>
  ⟨[], by rw [run_pure, World.logged_nil]⟩

theorem onlyLogs_say (logger : Logger) (topic message : String) :
    OnlyLogs (logger.say topic message) := fun _ => ⟨[_], rfl⟩

theorem onlyLogs_detail (logger : Logger) (topic message : String) :
    OnlyLogs (logger.detail topic message) := by
  unfold Logger.detail
  split
  · exact onlyLogs_say logger topic message
  · exact onlyLogs_pure

theorem OnlyLogs.bind {first second : Session Unit} (hfirst : OnlyLogs first)
    (hsecond : OnlyLogs second) : OnlyLogs (first >>= fun _ => second) := by
  intro world
  obtain ⟨lines, hlines⟩ := hfirst world
  obtain ⟨more, hmore⟩ := hsecond (world.logged lines)
  exact ⟨lines ++ more, by rw [run_bind, hlines, hmore, World.logged_logged]⟩

theorem onlyLogs_forEach {α : Type} {act : α → Session Unit} (h : ∀ item, OnlyLogs (act item))
    (items : List α) : OnlyLogs (forEach act items) := by
  induction items with
  | nil => exact onlyLogs_pure
  | cons item items ih => exact (h item).bind ih

theorem onlyLogs_diagnostics (logger : Logger) (source : String)
    (diagnostics : List Diagnostic) : OnlyLogs (logger.diagnostics source diagnostics) :=
  onlyLogs_forEach (fun _ => onlyLogs_say logger _ _) diagnostics

/-- What comes before the result may write to the log. -/
theorem OnlyLogs.run_pure {act : Session Unit} (h : OnlyLogs act) {α : Type} (value : α)
    (world : World) : ∃ lines, (act >>= fun _ => pure value : Session α).run world =
      (value, world.logged lines) := by
  obtain ⟨lines, hlines⟩ := h world
  exact ⟨lines, by rw [run_bind, hlines, Command.run_pure]⟩

/-! ## One document -/

theorem exists_file_of_documentAt {files : FileSystem} {directory : Place} {path : String}
    {tree : Json} (h : documentAt files directory path = .ok tree) :
    ∃ place old, files.locate directory path.toList = .ok place ∧
      files.get? place = some (.file old) := by
  unfold documentAt at h
  cases htext : files.readText directory path.toList with
  | error reason => simp [htext] at h
  | ok text =>
    apply FileSystem.exists_file_of_readText htext
    rintro rfl
    have hempty : Json.parse? "" = none := rfl
    simp [htext, hempty] at h

theorem writeText_of_file {world : World} {path : String} {place : Place} {old : ByteArray}
    (hlocate : world.files.locate world.directory path.toList = .ok place)
    (hfile : world.files.get? place = some (.file old)) (text : String) (lines : List String) :
    (Effects.writeText path text : Session _).run (world.logged lines) =
      (.ok (), World.logged { world with
        files := world.files.put place (.file text.toUTF8) } lines) := by
  have hwrite := FileSystem.writeText_of_file hlocate hfile text
  have hget : (get : Session World).run (world.logged lines) =
      (world.logged lines, world.logged lines) := rfl
  have hfiles : (world.logged lines).files.writeText (world.logged lines).directory path.toList
      text = .ok (world.files.put place (.file text.toUTF8)) := hwrite
  simp only [Effects.writeText]
  rw [run_bind, hget, hfiles]
  rfl

theorem documentAt_of_file {files : FileSystem} {directory place : Place} {path text : String}
    {tree : Json} (hlocate : files.locate directory path.toList = .ok place)
    (hfile : files.get? place = some (.file text.toUTF8)) (hparse : Json.parse? text = some tree) :
    documentAt files directory path = .ok tree := by
  rw [documentAt, FileSystem.readText_of_file hlocate hfile]
  simp only [hparse]

section
variable (logger : Logger) (config : Config) (pretty : Bool)

theorem replaceDocument_run (path : String) (world : World) : ∃ lines,
    (replaceDocument logger config pretty (.file path) : Session _).run world =
      ((documentAt world.files world.directory path).map fun tree =>
          (textOf pretty (config.replaceImports tree).1, (config.replaceImports tree).2),
        world.logged lines) := by
  have hinput : ((Input.file path).read : Session _).run world =
      (world.files.readText world.directory path.toList, world) := rfl
  unfold documentAt
  rw [replaceDocument, run_bind, hinput]
  cases world.files.readText world.directory path.toList with
  | error reason => exact ⟨[], by rw [World.logged_nil]; rfl⟩
  | ok text =>
    dsimp only
    cases Json.parse? text with
    | none => exact ⟨[], by rw [World.logged_nil]; rfl⟩
    | some tree =>
      have hevents := onlyLogs_forEach (fun (event : Event) =>
        onlyLogs_detail logger "rewrite" event.message) (config.replaceImports tree).2.events
      exact (hevents.bind (onlyLogs_diagnostics logger (Input.file path).name
        (config.replaceImports tree).2.diagnostics)).run_pure _ world

theorem replaceInPlace_run (path : String) (world : World) : ∃ lines,
    (replaceInPlace logger config pretty path : Session _).run world =
      (countAt config world.files world.directory path,
        World.logged { world with
          files := filesAfter config pretty world.files world.directory path } lines) := by
  obtain ⟨lines, hdocument⟩ := replaceDocument_run logger config pretty path world
  unfold countAt filesAfter newText?
  rw [replaceInPlace, run_bind, hdocument]
  cases htree : documentAt world.files world.directory path with
  | error failure => exact ⟨lines, rfl⟩
  | ok tree =>
    cases hunchanged : (config.replaceImports tree).2.isUnchanged with
    | true =>
      have hcount : (config.replaceImports tree).2.replacements.length = 0 :=
        List.length_eq_zero_iff.2 (List.isEmpty_iff.1 hunchanged)
      obtain ⟨more, hmore⟩ := (onlyLogs_detail logger "rewrite" (path ++ ": unchanged")).run_pure
        (.ok 0 : Except Failure Nat) (world.logged lines)
      refine ⟨lines ++ more, ?_⟩
      rw [World.logged_logged] at hmore
      simpa [Except.map, Except.toOption, hunchanged, hcount] using hmore
    | false =>
      obtain ⟨place, old, hlocate, hfile⟩ := exists_file_of_documentAt htree
      have hwrite := writeText_of_file hlocate hfile
        (textOf pretty (config.replaceImports tree).1) lines
      refine ⟨lines, ?_⟩
      simp only [Except.map, Except.toOption, Option.bind_some, hunchanged, Bool.false_eq_true,
        if_false, hlocate]
      rw [run_bind, hwrite]
      rfl

end

/-! ## Files -/

section
variable {files : FileSystem} {directory : Place}

/-- Only a file has a text that takes its place. -/
theorem exists_file_of_newText? {config : Config} {pretty : Bool} {path text : String}
    (h : newText? config pretty files directory path = some text) :
    ∃ place old, files.locate directory path.toList = .ok place ∧
      files.get? place = some (.file old) := by
  unfold newText? at h
  cases htree : documentAt files directory path with
  | error failure => simp [htree, Except.toOption] at h
  | ok tree => exact exists_file_of_documentAt htree

section
variable (config : Config) (pretty : Bool) (path : String)

theorem filesAfter_of_none (h : newText? config pretty files directory path = none) :
    filesAfter config pretty files directory path = files := by
  rw [filesAfter, h]

theorem filesAfter_of_some {text : String} {place : Place}
    (h : newText? config pretty files directory path = some text)
    (hlocate : files.locate directory path.toList = .ok place) :
    filesAfter config pretty files directory path = files.put place (.file text.toUTF8) := by
  rw [filesAfter, h, hlocate]

theorem sameShape_filesAfter :
    FileSystem.SameShape (filesAfter config pretty files directory path) files := by
  cases htext : newText? config pretty files directory path with
  | none =>
    rw [filesAfter_of_none config pretty path htext]
    exact fun _ => rfl
  | some text =>
    obtain ⟨place, old, hlocate, hfile⟩ := exists_file_of_newText? htext
    rw [filesAfter_of_some config pretty path htext hlocate]
    exact FileSystem.sameShape_put hfile _

theorem locate_filesAfter (other : String) :
    (filesAfter config pretty files directory path).locate directory other.toList =
      files.locate directory other.toList :=
  FileSystem.locate_congr (sameShape_filesAfter config pretty path) _ _

theorem get?_filesAfter_of_ne {other : Place}
    (h : files.locate directory path.toList ≠ .ok other) :
    (filesAfter config pretty files directory path).get? other = files.get? other := by
  cases htext : newText? config pretty files directory path with
  | none => rw [filesAfter_of_none config pretty path htext]
  | some text =>
    obtain ⟨place, old, hlocate, -⟩ := exists_file_of_newText? htext
    rw [filesAfter_of_some config pretty path htext hlocate]
    apply FileSystem.get?_put_of_ne
    rintro rfl
    exact h hlocate

theorem get?_filesAfter_self {text : String} {place : Place}
    (h : newText? config pretty files directory path = some text)
    (hlocate : files.locate directory path.toList = .ok place) :
    (filesAfter config pretty files directory path).get? place = some (.file text.toUTF8) := by
  obtain ⟨place', old, hlocate', hfile⟩ := exists_file_of_newText? h
  obtain rfl : place = place' := Except.ok.inj (hlocate.symm.trans hlocate')
  rw [filesAfter_of_some config pretty path h hlocate]
  apply FileSystem.get?_put_self
  rintro rfl
  simp [FileSystem.get?] at hfile

end

/-- Only what stands at the end of its path matters to a document. -/
theorem documentAt_congr {after : FileSystem} {path : String}
    (hshape : FileSystem.SameShape after files)
    (hsame : ∀ place, files.locate directory path.toList = .ok place →
      after.get? place = files.get? place) :
    documentAt after directory path = documentAt files directory path := by
  unfold documentAt
  rw [FileSystem.readText_congr hshape hsame]

theorem leadApart_congr {after : FileSystem} {paths : List String}
    (hshape : FileSystem.SameShape after files) :
    LeadApart after directory paths ↔ LeadApart files directory paths := by
  unfold LeadApart
  simp only [FileSystem.locate_congr hshape]

theorem LeadApart.of_perm {paths others : List String} (h : LeadApart files directory paths)
    (hperm : paths.Perm others) : LeadApart files directory others :=
  hperm.pairwise h fun hapart place hsecond hfirst => hapart place hfirst hsecond

/-! ## All documents -/

section
variable {config : Config} {pretty : Bool} {path : String} {paths : List String}
  (hapart : LeadApart files directory (path :: paths))
include hapart

/-- The other documents are what they were once the first one is replaced. -/
theorem documentAt_filesAfter : ∀ other ∈ paths,
    documentAt (filesAfter config pretty files directory path) directory other =
      documentAt files directory other := by
  intro other hother
  apply documentAt_congr (sameShape_filesAfter config pretty path)
  intro place hplace
  apply get?_filesAfter_of_ne
  exact fun hlocate => (List.pairwise_cons.1 hapart).1 other hother place hlocate hplace

theorem newText?_filesAfter {other : String} (hother : other ∈ paths) :
    newText? config pretty (filesAfter config pretty files directory path) directory other =
      newText? config pretty files directory other := by
  rw [newText?, newText?, documentAt_filesAfter hapart other hother]

theorem map_countAt_filesAfter :
    paths.map (countAt config (filesAfter config pretty files directory path) directory) =
      paths.map (countAt config files directory) := by
  apply List.map_congr_left
  intro other hother
  rw [countAt, countAt, documentAt_filesAfter hapart other hother]

theorem replacedIn_cons {after : FileSystem}
    (h : ReplacedIn config pretty directory paths
      (filesAfter config pretty files directory path) after) :
    ReplacedIn config pretty directory (path :: paths) files after := by
  have hlocate : ∀ other : String,
      (filesAfter config pretty files directory path).locate directory other.toList =
        files.locate directory other.toList := locate_filesAfter config pretty path
  -- No later document is at the place of the first one.
  have hfirst : ∀ place, files.locate directory path.toList = .ok place →
      after.get? place = (filesAfter config pretty files directory path).get? place := by
    intro place hplace
    apply h.others
    intro other hother
    rw [hlocate]
    exact (List.pairwise_cons.1 hapart).1 other hother place hplace
  refine ⟨?_, ?_, ?_⟩
  · intro other hother place text hplace hnew
    rcases List.mem_cons.1 hother with rfl | hother
    · rw [hfirst place hplace, get?_filesAfter_self config pretty other hnew hplace]
    · exact h.replaced other hother place text ((hlocate other).trans hplace)
        ((newText?_filesAfter hapart hother).trans hnew)
  · intro other hother place hplace hnone
    rcases List.mem_cons.1 hother with rfl | hother
    · rw [hfirst place hplace, filesAfter_of_none config pretty other hnone]
    · rw [h.kept other hother place ((hlocate other).trans hplace)
        ((newText?_filesAfter hapart hother).trans hnone)]
      apply get?_filesAfter_of_ne
      exact fun hpath => (List.pairwise_cons.1 hapart).1 other hother place hpath hplace
  · intro place hnone
    have hothers : ∀ other ∈ paths,
        (filesAfter config pretty files directory path).locate directory other.toList ≠
          .ok place := by
      intro other hother
      rw [hlocate]
      exact hnone other (List.mem_cons_of_mem _ hother)
    rw [h.others place hothers]
    exact get?_filesAfter_of_ne config pretty path (hnone path List.mem_cons_self)

end

end

theorem replaceEach_run (logger : Logger) (config : Config) (pretty : Bool) {paths : List String}
    {world : World} (hapart : LeadApart world.files world.directory paths) : ∃ files lines,
    (replaceEach logger config pretty paths : Session _).run world =
        (paths.map (countAt config world.files world.directory),
          World.logged { world with files } lines) ∧
      ReplacedIn config pretty world.directory paths world.files files := by
  induction paths generalizing world with
  | nil =>
    refine ⟨world.files, [], ?_, by simp, by simp, fun _ _ => rfl⟩
    rw [World.logged_nil]
    rfl
  | cons path paths ih =>
    obtain ⟨lines, hfirst⟩ := replaceInPlace_run logger config pretty path world
    have hshape : FileSystem.SameShape
        (filesAfter config pretty world.files world.directory path) world.files :=
      sameShape_filesAfter config pretty path
    obtain ⟨files, more, hrest, hreplaced⟩ := @ih (World.logged { world with
      files := filesAfter config pretty world.files world.directory path } lines)
      ((leadApart_congr hshape).2 (List.pairwise_cons.1 hapart).2)
    refine ⟨files, lines ++ more, ?_, replacedIn_cons hapart hreplaced⟩
    have hcounts : paths.map (countAt config
        (filesAfter config pretty world.files world.directory path) world.directory) =
          paths.map (countAt config world.files world.directory) :=
      map_countAt_filesAfter hapart
    rw [replaceEach, run_bind, hfirst, run_bind, hrest, run_pure, List.map_cons, ← hcounts]
    rw [← World.logged_logged]
    rfl

/-! ## Outcomes -/

theorem successes_error (failure : Failure) (outcomes : List (Except Failure Nat)) :
    successes (.error failure :: outcomes) = successes outcomes :=
  List.filterMap_cons_none rfl

theorem successes_ok (count : Nat) (outcomes : List (Except Failure Nat)) :
    successes (.ok count :: outcomes) = count :: successes outcomes :=
  List.filterMap_cons_some rfl

theorem total_eq_sum (outcomes : List (Except Failure Nat)) :
    total outcomes = (successes outcomes).sum := by
  unfold total
  rw [← Nat.zero_add (successes outcomes).sum]
  generalize 0 = sum
  induction outcomes generalizing sum with
  | nil => rfl
  | cons outcome outcomes ih =>
    rw [List.foldl_cons, ih]
    cases outcome with
    | error failure => rw [successes_error]
    | ok count => rw [successes_ok, List.sum_cons, Nat.add_assoc]

/-- Each document was replaced, or it is among the failures. -/
theorem length_successes_add (outcomes : List (Except Failure Nat)) :
    (successes outcomes).length + (failures outcomes).length = outcomes.length := by
  unfold failures
  induction outcomes with
  | nil => rfl
  | cons outcome outcomes ih =>
    rw [List.length_cons, ← ih]
    cases outcome with
    | error failure => simp [successes_error, Nat.add_assoc]
    | ok count => simp [successes_ok, Nat.add_right_comm]

/-- The sums that are said at the end are those of the documents that could be replaced. -/
theorem summary_successes (logger : Logger) {outcomes : List (Except Failure Nat)} {count : Nat}
    (hcount : outcomes.length = count) :
    summary logger (successes outcomes) = logger.heading "rewrite" ++ " " ++
      (plural (total outcomes) "import" ++ " in " ++
        plural (count - (failures outcomes).length) "document") := by
  rw [summary, total_eq_sum, ← hcount, ← length_successes_add, Nat.add_sub_cancel_right]

theorem failures_map_countAt_eq_nil_iff (config : Config) (files : FileSystem)
    (directory : Place) (paths : List String) :
    failures (paths.map (countAt config files directory)) = [] ↔
      ∀ path ∈ paths, ∃ tree, documentAt files directory path = .ok tree := by
  unfold failures
  rw [List.filterMap_eq_nil_iff, List.forall_mem_map]
  refine forall₂_congr fun path _ => ?_
  unfold countAt
  cases documentAt files directory path <;> simp [Except.map]

/-- The order of the outcomes does not show in the sums. -/
theorem summary_of_perm (logger : Logger) {outcomes others : List (Except Failure Nat)}
    (h : outcomes.Perm others) :
    summary logger (successes outcomes) = summary logger (successes others) := by
  have hcounts : (successes outcomes).Perm (successes others) := h.filterMap _
  rw [summary, summary, hcounts.sum_nat, hcounts.length_eq]

theorem ReplacedIn.of_perm {config : Config} {pretty : Bool} {directory : Place}
    {paths others : List String} {before after : FileSystem}
    (h : ReplacedIn config pretty directory paths before after) (hperm : paths.Perm others) :
    ReplacedIn config pretty directory others before after :=
  ⟨fun path hpath => h.replaced path (hperm.mem_iff.2 hpath),
    fun path hpath => h.kept path (hperm.mem_iff.2 hpath),
    fun place hnone => h.others place fun path hpath => hnone path (hperm.mem_iff.1 hpath)⟩

theorem replaceAll_run (logger : Logger) (config : Config) (pretty : Bool) {paths : List String}
    {world : World} (hapart : LeadApart world.files world.directory paths) :
    ∃ result files lines,
      (replaceAll logger config pretty paths : Session _).run world =
          (result, World.logged { world with files } lines) ∧
        ReplacedIn config pretty world.directory paths world.files files ∧
        (result = .ok () ↔
          ∀ path ∈ paths, ∃ tree, documentAt world.files world.directory path = .ok tree) ∧
        lines.getLast? = some (summary logger
          (successes (paths.map (countAt config world.files world.directory)))) := by
  obtain ⟨files, lines, hrun, hreplaced⟩ := replaceEach_run logger config pretty hapart
  have hfailed := failures_map_countAt_eq_nil_iff config world.files world.directory paths
  have hlength : (paths.map (countAt config world.files world.directory)).length = paths.length :=
    List.length_map _
  generalize paths.map (countAt config world.files world.directory) = outcomes at *
  obtain ⟨more, herrors⟩ := onlyLogs_forEach
    (fun (failure : Failure) => onlyLogs_say logger "error" failure.details) (failures outcomes)
    (World.logged { world with files } lines)
  refine ⟨if (failures outcomes).isEmpty then .ok ()
      else .error (.documents (failures outcomes).length),
    files, lines ++ more ++ [summary logger (successes outcomes)], ?_, hreplaced, ?_,
    List.getLast?_concat⟩
  · rw [summary_successes logger hlength, ← World.logged_logged, ← World.logged_logged]
    unfold replaceAll
    rw [run_bind, hrun]
    dsimp only
    rw [run_bind, herrors]
    dsimp only
    rw [run_bind]
    cases (failures outcomes).isEmpty <;> rfl
  · rw [← hfailed, ← List.isEmpty_iff]
    cases (failures outcomes).isEmpty <;> simp

/-! ## Inputs -/

theorem mem_ofPaths_iff (paths : List String) :
    .standard ∈ Input.ofPaths paths ↔ paths = [] ∨ ∃ path ∈ paths, isDash path = true := by
  unfold Input.ofPaths Input.ofPath
  cases paths with
  | nil => simp
  | cons path paths => simp

theorem filePaths?_eq_none_iff (inputs : List Input) :
    filePaths? inputs = none ↔ .standard ∈ inputs := by
  induction inputs with
  | nil => simp [filePaths?]
  | cons input inputs ih => cases input <;> simp [filePaths?, ih]

/-- Paths of which none stands for the standard input are taken as they are. -/
theorem filePaths?_ofPaths {paths : List String} (h : .standard ∉ Input.ofPaths paths) :
    filePaths? (Input.ofPaths paths) = some paths := by
  rw [mem_ofPaths_iff, not_or] at h
  obtain ⟨hne, hfile⟩ := h
  have hmap : ∀ paths : List String, (∀ path ∈ paths, isDash path = false) →
      filePaths? (paths.map Input.ofPath) = some paths := by
    intro paths hall
    induction paths with
    | nil => rfl
    | cons path paths ih =>
      obtain ⟨hpath, hrest⟩ := List.forall_mem_cons.1 hall
      simp [Input.ofPath, hpath, filePaths?, ih hrest]
  rw [Input.ofPaths, if_neg (by simpa using hne)]
  exact hmap paths fun path hpath => by simpa using fun hdash => hfile ⟨path, hpath, hdash⟩

/-- What cannot be done in place, or not anywhere else. -/
def Refused (task : DocumentTask) : Prop :=
  (task.write = true ∧ .standard ∈ Input.ofPaths task.inputs) ∨
    (task.write = false ∧ 1 < task.inputs.length)

theorem runDocuments_of_refused (logger : Logger) (config : Config) {task : DocumentTask}
    (h : Refused task) (world : World) : ∃ failure,
      (runDocuments logger config task : Session _).run world = (.error failure, world) := by
  unfold runDocuments
  rcases h with ⟨hwrite, hstandard⟩ | ⟨hwrite, hseveral⟩
  · refine ⟨.inPlaceOfStandard, ?_⟩
    simp only [hwrite, if_true, (filePaths?_eq_none_iff _).2 hstandard]
    rfl
  · refine ⟨.severalInputs, ?_⟩
    obtain ⟨first, second, rest, hinputs⟩ : ∃ first second rest,
        task.inputs = first :: second :: rest := by
      match htask : task.inputs with
      | [] | [_] => simp [htask] at hseveral
      | first :: second :: rest => exact ⟨first, second, rest, rfl⟩
    simp only [hwrite, hinputs, Input.ofPaths]
    rfl

/-! ## Top theorems -/

theorem runDocuments_inPlace (logger : Logger) (config : Config) (task : DocumentTask)
    (world : World) :
    (Refused task → ∃ failure,
      (runDocuments logger config task : Session _).run world = (.error failure, world)) ∧
    (task.write = true → .standard ∉ Input.ofPaths task.inputs →
      LeadApart world.files world.directory task.inputs →
        ∀ order, order.Perm task.inputs → ∃ result files lines,
          (runDocuments logger config { task with inputs := order } : Session _).run world =
              (result, World.logged { world with files } lines) ∧
            ReplacedIn config task.pretty world.directory task.inputs world.files files ∧
            (result = .ok () ↔ ∀ path ∈ task.inputs, ∃ tree,
              documentAt world.files world.directory path = .ok tree) ∧
            lines.getLast? = some (summary logger
              (successes (task.inputs.map (countAt config world.files world.directory))))) := by
  refine ⟨fun h => runDocuments_of_refused logger config h world, ?_⟩
  intro hwrite hstandard hapart order horder
  have hfiles : .standard ∉ Input.ofPaths order := by
    rw [mem_ofPaths_iff] at hstandard ⊢
    rintro (rfl | ⟨path, hpath, hdash⟩)
    · exact hstandard (.inl horder.nil_eq.symm)
    · exact hstandard (.inr ⟨path, horder.mem_iff.1 hpath, hdash⟩)
  obtain ⟨result, files, lines, hrun, hreplaced, hresult, hlast⟩ :=
    replaceAll_run logger config task.pretty (hapart.of_perm horder.symm)
  refine ⟨result, files, lines, ?_, ?_, ?_, ?_⟩
  · unfold runDocuments
    simp only [hwrite, if_true, filePaths?_ofPaths hfiles]
    exact hrun
  · exact hreplaced.of_perm horder
  · rw [hresult]
    exact forall_congr' fun path => imp_congr horder.mem_iff Iff.rfl
  · rw [hlast, summary_of_perm logger (horder.map _)]

/-- `import photo from "./p.png"` -/
def photoPage : Json :=
  .object [("body", .array [.object [("type", .string "ImportDeclaration"),
    ("specifiers", .array [.object [("local", .object [("name", .string "photo")])]]),
    ("source", .object [("value", .string "./p.png")])]])]

theorem parse?_photoPage : Json.parse? photoPage.compact = some photoPage := by
  rw [Json.parse?, Json.compact, String.toList_ofList]
  rfl

/-- A document with an import, a broken one, and one that has nothing to replace. -/
def postsWorld : World :=
  ⟨⟨[(["posts".toList], .directory),
      (["posts".toList, "a.json".toList], .file photoPage.compact.toUTF8),
      (["posts".toList, "b.json".toList], .file "[".toUTF8),
      (["c.json".toList], .file "[]".toUTF8)]⟩,
    ["posts".toList], .empty, "", []⟩

/-- The broken document comes first, and the others are replaced all the same. -/
theorem runDocuments_inPlace_posts :
    LeadApart postsWorld.files postsWorld.directory ["../c.json", "a.json", "b.json"] ∧
    ∃ result files lines,
      (runDocuments ⟨false, false⟩ .empty ⟨["b.json", "a.json", "../c.json"], none, true, false⟩ :
          Session _).run postsWorld =
        (result, World.logged { postsWorld with files } lines) ∧
      files.get? ["posts".toList, "a.json".toList] =
        some (.file (textOf false (Config.empty.replaceImports photoPage).1).toUTF8) ∧
      files.get? ["posts".toList, "b.json".toList] = some (.file "[".toUTF8) ∧
      files.get? ["c.json".toList] = some (.file "[]".toUTF8) ∧
      result ≠ .ok () ∧ lines.getLast? = some "[rewrite] 1 import in 2 documents" := by
  have hapart : LeadApart postsWorld.files postsWorld.directory
      ["../c.json", "a.json", "b.json"] := by
    decide +kernel
  have hphotoPlace : postsWorld.files.locate postsWorld.directory "a.json".toList =
      .ok ["posts".toList, "a.json".toList] := by
    rfl
  have hbrokenPlace : postsWorld.files.locate postsWorld.directory "b.json".toList =
      .ok ["posts".toList, "b.json".toList] := by
    rfl
  have hplainPlace : postsWorld.files.locate postsWorld.directory "../c.json".toList =
      .ok ["c.json".toList] := by
    rfl
  have hphoto : documentAt postsWorld.files postsWorld.directory "a.json" = .ok photoPage :=
    documentAt_of_file hphotoPlace rfl parse?_photoPage
  have hbroken : documentAt postsWorld.files postsWorld.directory "b.json" =
      .error (.malformed (.file "b.json")) := rfl
  have hplain : documentAt postsWorld.files postsWorld.directory "../c.json" = .ok (.array []) :=
    documentAt_of_file hplainPlace rfl rfl
  have hchanged : (Config.empty.replaceImports photoPage).2.isUnchanged = false := by
    decide +kernel
  obtain ⟨result, files, lines, hrun, hreplaced, hresult, hlast⟩ :=
    (runDocuments_inPlace ⟨false, false⟩ .empty
      ⟨["../c.json", "a.json", "b.json"], none, true, false⟩ postsWorld).2 rfl (by decide) hapart
      ["b.json", "a.json", "../c.json"] (by decide)
  refine ⟨hapart, result, files, lines, hrun, ?_, ?_, ?_, ?_, ?_⟩
  · refine hreplaced.replaced "a.json" (by decide) _ _ hphotoPlace ?_
    rw [newText?, hphoto]
    simp [Except.toOption, hchanged]
  · rw [hreplaced.kept "b.json" (by decide) _ hbrokenPlace (by rw [newText?, hbroken]; rfl)]
    rfl
  · rw [hreplaced.kept "../c.json" (by decide) _ hplainPlace (by rw [newText?, hplain]; rfl)]
    rfl
  · rw [ne_eq, hresult]
    intro hall
    obtain ⟨tree, htree⟩ := hall "b.json" (by decide)
    cases hbroken.symm.trans htree
  · rw [hlast, List.map_cons, List.map_cons, List.map_cons, List.map_nil, countAt, countAt,
      countAt, hphoto, hbroken, hplain]
    decide +kernel

end Command

end ServedMedia
