import ServiceBindings.Proofs.Artifact.Collector
import ServiceBindings.Proofs.Artifact.Containment
import ServiceBindings.Proofs.Generation.Paths

/-!
# Artifacts are replaced as a whole

A file is written beside its place and moved there when it is complete.  No generated path is
the temporary path of another one, so wherever the export of generated code stops, what is at
the place of an artifact is either what was there before or the whole artifact.  The one exception
is a place through which the base itself leads, and out of which it leads again by `..`: there
the creation of the base makes a directory.
-/

namespace ServiceBindings.Artifact

open Disk (Action Deepens Grows Location Program isAbsolute joinPath steps)

/-! ## Paths of generated code -/

/-- No generated path is a temporary path. -/
theorem path_ne_temporaryPath_of_run {generators : List Generator} {files : List Schema.File}
    {selection : List String} {code : GeneratedCode}
    (generated : Generation.run generators files selection = .ok code) {file : GeneratedFile}
    (member : file ∈ code) (path : String) : file.path ≠ temporaryPath path := by
  intro isTemporary
  rcases Generation.run_eq_ok_iff.mp generated with ⟨_, selected, _, rfl⟩
  rcases List.mem_flatMap.mp member with ⟨schema, _, ofSchema⟩
  rcases List.mem_flatMap.mp ofSchema with ⟨generator, _, ofGenerator⟩
  rcases List.mem_flatMap.mp ofGenerator with ⟨service, _, ofService⟩
  have inPaths := List.mem_map_of_mem (f := (·.path)) ofService
  rw [Generator.map_path_filesOf] at inPaths
  have ending := Generator.suffix_of_mem_pathsOf inPaths
  rw [isTemporary, temporaryPath, String.toList_append] at ending
  have bothEnd := List.suffix_or_suffix_of_suffix ending (List.suffix_append _ _)
  revert bothEnd
  cases generator.kind <;> decide

/-! ## One action after the creation of the base -/

variable {tree : Tree} {base path content : String} {root location : Location}
  {before after : Disk}

section Actions

variable (isBase : IsBase before base root) {fault? : Option Disk.Fault}

include isBase

theorem find?_place_of_createDirectories {directory : String}
    (member : directory ∈ tree.directories) (noDirectory : path ∉ tree.directories)
    (ends : (Action.createDirectories (joinPath base directory)).MayEnd before after fault?) :
    after.find? (place root path) = before.find? (place root path) := by
  have valid := Tree.isPath_of_mem_directories member
  have deepens := ends.deepens (isBase.hasStart_joinPath valid)
  by_contra differs
  rcases isBase.exists_place_of_deepens valid deepens differs with
    ⟨_, _, front, isPrefix, isPlace⟩
  cases place_inj.mp isPlace
  exact noDirectory (Tree.mem_directories_of_prefix member isPrefix)

theorem find?_place_of_write {other : String} {octets : List UInt8}
    (valid : isPath other = true) (notTemporary : path ≠ temporaryPath other)
    (ends : (Action.write (joinPath base (temporaryPath other)) octets).MayEnd before after
      fault?) :
    after.find? (place root path) = before.find? (place root path) := by
  have temporaryValid := isPath_temporaryPath valid
  rcases ends.write_cases with rfl | ⟨content, isWritten⟩
  · rfl
  · rcases Disk.write_eq_ok_iff.mp isWritten with ⟨written, names, _, free, rfl⟩
    cases isBase.eq_place_of_names temporaryValid names
    rw [names.find?_put (isBase.hasStart_joinPath temporaryValid) free, if_neg]
    intro same
    exact notTemporary (place_inj.mp same)

theorem find?_place_of_rename {other : String} {octets : List UInt8}
    (valid : isPath other = true) (notTemporary : path ≠ temporaryPath other)
    (isWritten : before.find? (place root (temporaryPath other)) = some (.file octets))
    (ends : (Action.rename (joinPath base (temporaryPath other)) (joinPath base other)).MayEnd
      before after fault?) :
    after.find? (place root path) = before.find? (place root path) ∨
      path = other ∧ after.find? (place root path) = some (.file octets) := by
  rcases ends.rename_cases with rfl | isMoved
  · exact .inl rfl
  · rcases Disk.rename_eq_ok_iff.mp isMoved with
      ⟨_, _, moved, namesOrigin, namesPlace, stored, free, rfl⟩
    cases isBase.eq_place_of_names (isPath_temporaryPath valid) namesOrigin
    cases isBase.eq_place_of_names valid namesPlace
    rw [stored, Option.some.injEq, Disk.Entry.file.injEq] at isWritten
    rw [Disk.find?_rename (isBase.hasStart_joinPath valid) namesOrigin namesPlace stored free]
    by_cases isOther : path = other
    · rw [if_pos (by rw [isOther]), isWritten]
      exact .inr ⟨isOther, rfl⟩
    · rw [if_neg fun same => isOther (place_inj.mp same),
        if_neg fun same => notTemporary (place_inj.mp same)]
      exact .inl rfl

/-- Wherever the writing of a file stops, only the place of that file may have changed among all
places that are no temporary ones, and then the whole file is there. -/
theorem find?_place_of_fileActions {other : String} {failure? : Option Disk.Failure}
    (valid : isPath other = true) (notTemporary : path ≠ temporaryPath other)
    (ends : (Program.performAll (fileActions (joinPath base other) content)).MayEnd before
      failure? after) :
    after.find? (place root path) = before.find? (place root path) ∨
      path = other ∧
        after.find? (place root path) = some (.file (Text.Utf8.encode content)) := by
  rw [fileActions, temporaryPath_joinPath base valid] at ends
  cases ends with
  | @change _ written _ _ _ fault? _ first rest =>
      have unchanged := find?_place_of_write isBase valid notTemporary first
      cases fault? with
      | some fault =>
          cases rest
          exact .inl unchanged
      | none =>
          -- The file is complete before it is moved.
          have temporaryValid := isPath_temporaryPath valid
          have isWritten := Disk.outcome_eq_none_iff.mp first.perform_eq_of_none
          rcases Disk.write_eq_ok_iff.mp isWritten with ⟨_, names, _, free, rfl⟩
          cases isBase.eq_place_of_names temporaryValid names
          have stored := names.find?_put (isBase.hasStart_joinPath temporaryValid) free
            (.file (Text.Utf8.encode content))
          have writtenBase := isBase.of_grows first.grows
          rw [← unchanged]
          cases rest with
          | @change _ moved _ _ _ fault? _ second done =>
              have isLast : moved = after := by
                cases fault? <;> cases done <;> rfl
              exact isLast ▸ find?_place_of_rename writtenBase valid notTemporary
                (by rw [stored, if_pos rfl]) second

end Actions

/-! ## All actions -/

/-- What the actions after the creation of the base keep: the base leads to the same root, and at
the place of an artifact is what was there before, or the whole artifact. -/
structure OldOrNew (base : String) (root : Location) (path content : String)
    (before after : Disk) : Prop where
  isBase : IsBase after base root
  oldOrNew : after.find? (place root path) = before.find? (place root path) ∨
    after.find? (place root path) = some (.file (Text.Utf8.encode content))

namespace OldOrNew

variable {start : Disk} (held : OldOrNew base root path content start before)

include held

theorem of_same (grows : Grows before after)
    (same : after.find? (place root path) = before.find? (place root path)) :
    OldOrNew base root path content start after := by
  refine ⟨held.isBase.of_grows grows, ?_⟩
  rw [same]
  exact held.oldOrNew

theorem of_createDirectories {directory : String} (member : directory ∈ tree.directories)
    (noDirectory : path ∉ tree.directories) {fault? : Option Disk.Fault}
    (ends : (Action.createDirectories (joinPath base directory)).MayEnd before after fault?) :
    OldOrNew base root path content start after :=
  held.of_same ends.grows
    (find?_place_of_createDirectories held.isBase member noDirectory ends)

theorem of_fileActions {entry : String × String} (member : entry ∈ tree.contents.entries)
    (isArtifact : (path, content) ∈ tree.contents.entries)
    (notTemporary : path ≠ temporaryPath entry.1) {failure? : Option Disk.Failure}
    (ends : (Program.performAll (fileActions (joinPath base entry.1) entry.2)).MayEnd before
      failure? after) :
    OldOrNew base root path content start after := by
  rcases find?_place_of_fileActions held.isBase (tree.isPath entry member) notTemporary ends with
    same | ⟨isPath, stored⟩
  · exact held.of_same ends.grows same
  · have sameContent : entry.2 = content := by
      have isEntry := (tree.contents.find?_eq_some_iff_mem _ _).mpr member
      rw [← isPath, (tree.contents.find?_eq_some_iff_mem _ _).mpr isArtifact] at isEntry
      exact (Option.some.inj isEntry).symm
    exact ⟨held.isBase.of_grows ends.grows, .inr (sameContent ▸ stored)⟩

end OldOrNew

/-- Wherever an export stops after the creation of its base, what is at the place of an artifact
is what was there before, or the whole artifact. -/
theorem oldOrNew_of_mayEnd (isBase : IsBase before base root)
    (noDirectory : path ∉ tree.directories)
    (notTemporary : ∀ other ∈ tree.paths, path ≠ temporaryPath other)
    (isArtifact : (path, content) ∈ tree.contents.entries) {failure? : Option Disk.Failure}
    (ends : (Program.performAll (directoryActions base tree.directories ++
      filesActions base tree.contents.entries)).MayEnd before failure? after) :
    OldOrNew base root path content before after := by
  have afterDirectories : ∀ {failure? : Option Disk.Failure} {middle : Disk},
      (Program.performAll (directoryActions base tree.directories)).MayEnd before failure?
        middle → OldOrNew base root path content before middle := by
    intro failure? middle ended
    refine ended.preserves ?_ ⟨isBase, .inl rfl⟩
    intro action member _ _ _ held actionEnds
    rcases List.mem_map.mp member with ⟨directory, directoryMember, rfl⟩
    exact held.of_createDirectories directoryMember noDirectory actionEnds
  rcases ends.of_performAll_append with stopped | ⟨middle, inDirectories, inFiles⟩
  · exact afterDirectories stopped
  · refine inFiles.preserves_flatMap ?_ (afterDirectories inDirectories)
    intro entry member _ _ _ held fileEnds
    exact held.of_fileActions member isArtifact
      (notTemporary entry.1 (List.mem_map_of_mem member)) fileEnds

/-! ## The base -/

/-- What an export to a base may leave at a location where an artifact belongs: what was there
before, or the whole content, or a directory that the base leads through. -/
inductive ReplacesOrKeeps (base content : String) (before after : Disk) (location : Location) :
    Prop where
  | keeps (same : after.find? location = before.find? location)
  | replaces (stored : after.find? location = some (.file (Text.Utf8.encode content)))
  /-- Nothing was there, and the base leads there and away from there by `..`. -/
  | passage (returns : ".." ∈ steps base) {front : List String} (isFront : front <+: steps base)
      (leads : after.follow (after.start (isAbsolute base)) front = .ok location)
      (absent : before.find? location = none)
      (isDirectory : after.find? location = some .directory)

/-- A base that has no `..` is no exception. -/
theorem ReplacesOrKeeps.old_or_new (outcome : ReplacesOrKeeps base content before after location)
    (noReturn : ".." ∉ steps base) :
    after.find? location = before.find? location ∨
      after.find? location = some (.file (Text.Utf8.encode content)) := by
  cases outcome with
  | keeps same => exact .inl same
  | replaces stored => exact .inr stored
  | passage returns => exact absurd returns noReturn

/-- If the path of an artifact below a base leads anywhere, the base leads somewhere, and the path
leads to the place of the artifact. -/
theorem exists_isBase_of_leadsTo {disk : Disk} (hasStart : disk.HasStart (isAbsolute base))
    (valid : isPath path = true) (leads : disk.LeadsTo (joinPath base path) location) :
    ∃ root, IsBase disk base root ∧ location = place root path := by
  rcases leads with ⟨target, located, rfl⟩
  rcases exists_segments_eq path with ⟨front, last, isCut⟩
  have noDots : Disk.isDots last = false := isDots_of_mem_segments valid (by simp [isCut])
  rw [Disk.locate_of_accepts (Disk.accepts_of_locate located), isAbsolute_joinPath base valid,
    steps_joinPath base valid, isCut, ← List.append_assoc, Disk.target_concat _ _ noDots,
    bind_eq_ok_iff] at located
  rcases located with ⟨directory, followed, isTarget⟩
  rcases Disk.follow_append_eq_ok_iff.mp followed with ⟨root, toBase, inside⟩
  have isBase : IsBase disk base root := ⟨hasStart, toBase⟩
  refine ⟨root, isBase, ?_⟩
  have frontNoDots : ∀ component ∈ front, Disk.isDots component = false :=
    fun component member => isDots_of_mem_segments valid (isCut ▸ List.mem_append_left _ member)
  rcases (Disk.follow_eq_ok_iff frontNoDots isBase.isDirectory).mp inside with ⟨rfl, _⟩
  split at isTarget
  · cases isTarget
    rw [place, isCut, ← List.append_assoc]
    rfl
  · cases isTarget

/-- A base that leads through a place below itself leads away from there by `..`. -/
theorem return_mem_steps (isBase : IsBase after base root) {front : List String}
    (isFront : front <+: steps base)
    (leads : after.follow (after.start (isAbsolute base)) front = .ok (place root path)) :
    ".." ∈ steps base := by
  rcases isFront with ⟨rest, isSteps⟩
  by_contra noReturn
  have leadsToBase := isBase.leads
  rw [← isSteps, Disk.follow_append_eq_ok_iff] at leadsToBase
  rcases leadsToBase with ⟨middle, toMiddle, toBase⟩
  rw [leads] at toMiddle
  cases toMiddle
  have restNoReturn : ".." ∉ rest :=
    fun inRest => noReturn (isSteps ▸ List.mem_append_right _ inRest)
  have tooLong := (Disk.isPrefix_of_follow restNoReturn toBase).length_le
  have someSegment := List.length_pos_iff.mpr (Text.segments_ne_nil '/' path)
  rw [place, List.length_append] at tooLong
  omega

/-- Where the creation of the base made something, the base is an exception. -/
theorem ReplacesOrKeeps.of_deepens {based : Disk} (isBase : IsBase after base root)
    (deepens : Deepens (isAbsolute base) (steps base) before based) (grows : Grows based after)
    (same : after.find? (place root path) = based.find? (place root path)) :
    ReplacesOrKeeps base content before after (place root path) := by
  by_cases unchanged : based.find? (place root path) = before.find? (place root path)
  · exact .keeps (same.trans unchanged)
  · rcases deepens.made _ unchanged with ⟨absent, isDirectory, front, isFront, leads⟩
    have stillLeads := grows.follow leads
    rw [← grows.start] at stillLeads
    exact .passage (return_mem_steps isBase isFront stillLeads) isFront stillLeads absent
      (grows.directories _ isDirectory)

theorem replacesOrKeeps_of_mayEnd (hasStart : before.HasStart (isAbsolute base))
    (noDirectory : path ∉ tree.directories)
    (notTemporary : ∀ other ∈ tree.paths, path ≠ temporaryPath other)
    (member : (path, content) ∈ tree.contents.entries) {failure? : Option Disk.Failure}
    (ends : (Program.performAll (tree.exportActions base)).MayEnd before failure? after)
    (leads : after.LeadsTo (joinPath base path) location) :
    ReplacesOrKeeps base content before after location := by
  rcases exists_isBase_of_leadsTo (ends.grows.hasStart hasStart) (tree.isPath _ member) leads with
    ⟨root, isBase, rfl⟩
  rcases exists_based_of_mayEnd hasStart ends with
    ⟨based, deepens, rfl | ⟨basedRoot, basedBase, rest⟩⟩
  · exact .of_deepens isBase deepens (.refl _) rfl
  · have sameRoot : basedRoot = root := by
      have stillLeads := (basedBase.of_grows rest.grows).leads
      rw [isBase.leads] at stillLeads
      exact (Except.ok.inj stillLeads).symm
    subst sameRoot
    rcases (oldOrNew_of_mayEnd basedBase noDirectory notTemporary member rest).oldOrNew with
      same | stored
    · exact .of_deepens isBase deepens rest.grows same
    · exact .replaces stored

/-- Wherever the export of generated code stops, the path of an artifact below the base leads where
it led before, and at the location to which it leads is what was there before, or the whole
artifact, unless the base leads through that location.  There are only regular files and
directories on the disk: through a link, the writing of another artifact could change what is at
that location. -/
theorem exportTo_replaces_or_keeps {generators : List Generator} {files : List Schema.File}
    {selection : List String} {code : GeneratedCode}
    (generated : Generation.run generators files selection = .ok code)
    (built : (Collector.empty.addCode code).build = .ok tree)
    (noDirectory : ∀ path ∈ tree.paths, path ∉ tree.directories) (home? : Option String)
    (noTilde : base.toList.head? ≠ some '~') (hasStart : before.HasStart (isAbsolute base))
    {result : Except ArtifactError Unit}
    (ends : (tree.exportTo home? base).MayEnd before result after)
    (member : (path, content) ∈ tree.contents.entries) :
    (∀ location, before.LeadsTo (joinPath base path) location →
      after.LeadsTo (joinPath base path) location) ∧
    ∀ location, after.LeadsTo (joinPath base path) location →
      ReplacesOrKeeps base content before after location := by
  have grows := ends.grows
  refine ⟨fun location leads => grows.leadsTo leads, ?_⟩
  intro location leads
  rcases exists_mayEnd_of_exportTo noTilde ends with ⟨failure?, performed⟩
  have notTemporary : ∀ other ∈ tree.paths, path ≠ temporaryPath other := by
    intro other _
    have inCode := (Collector.perm_entries_of_build_empty built).mem_iff.mp member
    rcases List.mem_map.mp inCode with ⟨file, fileMember, isEntry⟩
    cases isEntry
    exact path_ne_temporaryPath_of_run generated fileMember other
  exact replacesOrKeeps_of_mayEnd hasStart (noDirectory path (List.mem_map_of_mem member))
    notTemporary member performed leads

/-! ## One service -/

/-- A schema file with a service `X` that has no methods. -/
def fileOfX : Schema.File := ⟨"x.proto", none, .default, [], [], [⟨"X", []⟩]⟩

/-- The binding of that service. -/
def bindingOfX : GeneratedFile := Python.bindingFile "x.proto" ⟨"X", []⟩ none

/-- The tree of that binding. -/
def Tree.ofX : Tree := Tree.empty.put ⟨"x_service.py", by decide⟩ bindingOfX.content

theorem run_binding :
    Generation.run [⟨.binding, none⟩] [fileOfX] ["x.proto"] = .ok [bindingOfX] :=
  Generation.run_eq_ok_iff.mpr ⟨rfl, [fileOfX], rfl, rfl⟩

theorem build_binding : (Collector.empty.addCode [bindingOfX]).build = .ok Tree.ofX := rfl

theorem noDirectory_ofX : ∀ path ∈ Tree.ofX.paths, path ∉ Tree.ofX.directories := by
  decide

/-- A disk with an older binding in a directory `out`. -/
def diskWithOlder : Disk := ⟨[], none, [("out", .directory [("x_service.py", .file [1])])]⟩

/-- That disk after the writing of the new binding has stopped halfway. -/
def diskWithOlderAndPart : Disk :=
  ⟨[], none, [("out", .directory
    [("x_service.py", .file [1]), ("x_service.py.tmp", .file [])])]⟩

theorem exportTo_replaces_or_keeps_halfway :
    ∃ result,
      (Tree.ofX.exportTo none "out").MayEnd diskWithOlder result diskWithOlderAndPart ∧
        ReplacesOrKeeps "out" bindingOfX.content diskWithOlder diskWithOlderAndPart
          ["out", "x_service.py"] := by
  have hasStart : diskWithOlder.HasStart (isAbsolute "out") := rfl
  have halfWritten : diskWithOlder.write "out/x_service.py.tmp" [] = .ok diskWithOlderAndPart :=
    rfl
  have ends : (Tree.ofX.exportTo none "out").MayEnd diskWithOlder
      (.error (.disk "out/x_service.py.tmp" (.other "No space left on device (os error 28)")))
      diskWithOlderAndPart :=
    .change (.performed _) (.change
      (.writtenInPart "out/x_service.py.tmp" (Text.Utf8.encode bindingOfX.content) halfWritten _)
      (.done _ _))
  have leads : diskWithOlderAndPart.LeadsTo (joinPath "out" "x_service.py")
      ["out", "x_service.py"] := ⟨⟨["out"], some "x_service.py"⟩, rfl, rfl⟩
  exact ⟨_, ends, (exportTo_replaces_or_keeps run_binding build_binding
    noDirectory_ofX none (by decide) hasStart ends (List.mem_singleton.mpr rfl)).2 _
    leads⟩

/-- A base that leads through the place of an artifact is an exception indeed: its creation makes
a directory there. -/
theorem not_exportTo_always_old_or_new :
    ¬∀ (generators : List Generator) (files : List Schema.File) (selection : List String)
      (code : GeneratedCode) (tree : Tree) (home? : Option String) (base : String)
      (before after : Disk) (result : Except ArtifactError Unit) (path content : String)
      (location : Location),
      Generation.run generators files selection = .ok code →
      (Collector.empty.addCode code).build = .ok tree →
      (∀ path ∈ tree.paths, path ∉ tree.directories) →
      base.toList.head? ≠ some '~' → before.HasStart (isAbsolute base) →
      (tree.exportTo home? base).MayEnd before result after →
      (path, content) ∈ tree.contents.entries →
      after.LeadsTo (joinPath base path) location →
      after.find? location = before.find? location ∨
        after.find? location = some (.file (Text.Utf8.encode content)) := by
  intro always
  have outcome := always _ _ _ _ Tree.ofX none "out/x_service.py/.." ⟨[], none, []⟩ _ _
    "x_service.py" bindingOfX.content ["out", "x_service.py"] run_binding build_binding
    noDirectory_ofX (by decide) rfl (Program.mayEnd_run _ _)
    (List.mem_singleton.mpr rfl) ⟨⟨["out"], some "x_service.py"⟩, rfl, rfl⟩
  have isDirectory : ((Tree.ofX.exportTo none "out/x_service.py/..").run ⟨[], none, []⟩).2.find?
      ["out", "x_service.py"] = some .directory := rfl
  have absent : (⟨[], none, []⟩ : Disk).find? ["out", "x_service.py"] = none := rfl
  rw [isDirectory, absent] at outcome
  rcases outcome with isAbsent | isFile
  · cases isAbsent
  · cases isFile

end ServiceBindings.Artifact
