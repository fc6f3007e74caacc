import ServiceBindings.Proofs.Scan

/-!
# Where scans write

A scan reads its output directory twice.  It creates the directory that the text names as it
stands, and then exports to the directory that the text names when `~` stands for the home
directory.  The files of a successful scan are at the second place, which is the first one
unless the text starts with such a `~`.
-/

namespace ServiceBindings.Scan

open Artifact (expandHome)
open Disk (isAbsolute joinPath steps)

/-- Whether a text names the home directory or something in it by `~`. -/
def StandsForHome (text : String) : Prop :=
  text.toList = ['~'] ∨ ['~', '/'] <+: text.toList

theorem expandHome_of_not_standsForHome (home? : Option String) {text : String}
    (isPlain : ¬StandsForHome text) : expandHome home? text = .ok text :=
  Artifact.expandHome_of_plain home? (fun isHome => isPlain (.inl isHome))
    fun isBelow => isPlain (.inr isBelow)

variable {home? : Option String} {source output : String} {options : Options}
  {disk after : Disk} {summary : Summary}

/-- A scan that succeeds has written the code for what it collected. -/
theorem exists_writeCode_of_generate
    (succeeds : (generate home? source output options).run disk = (.ok summary, after)) :
    ∃ code, (writeCode home? output code).run disk = (.ok summary.artifacts, after) ∧
      summary.output = output := by
  cases collected : ((collect source).run disk).1 with
  | error failure =>
      have isFailure : (collect source).run disk = (.error failure, disk) :=
        Prod.ext collected rfl
      rw [generate, Disk.Program.run_andThen, isFailure] at succeeds
      cases succeeds
  | ok collection =>
      cases generated : generateCode collection options with
      | error error =>
          rw [run_generate collected, generated] at succeeds
          cases succeeds
      | ok generatedCode =>
          rcases generatedCode with ⟨code, schemaFileCount⟩
          rcases (run_generate_eq_ok_iff collected generated).mp succeeds with
            ⟨tree, written, rfl⟩
          exact ⟨code, written, rfl⟩

/-- After a successful scan its output directory, as the text stands, is there; every file of the
summary can be read below the directory that the text stands for, which is the output directory
itself unless the text starts with `~` for the home directory. -/
theorem generate_writes_to_expanded_output (hasStart : disk.HasStart false)
    (succeeds : (generate home? source output options).run disk = (.ok summary, after)) :
    summary.output = output ∧ (steps output ≠ [] → after.isDirectory output = true) ∧
      ∃ expanded, expandHome home? output = .ok expanded ∧
        (¬StandsForHome output → expanded = output) ∧
        ∀ entry ∈ summary.artifacts.contents.entries,
          after.read (joinPath expanded entry.1) = .ok (Text.Utf8.encode entry.2) := by
  have starts : ∀ absolute, disk.HasStart absolute := by
    intro absolute
    cases absolute with
    | true => exact disk.hasStart_true
    | false => exact hasStart
  rcases exists_writeCode_of_generate succeeds with ⟨code, written, isOutput⟩
  rcases exists_export_of_writeCode written with ⟨created, isCreated, _, exported⟩
  rcases Artifact.run_exportTo_eq_ok_iff_exists.mp exported with
    ⟨expanded, isExpanded, performed⟩
  refine ⟨isOutput, ?_, expanded, isExpanded, ?_, ?_⟩
  · intro hasSteps
    have isDirectory :=
      Disk.isDirectory_of_createDirectories (starts _) hasSteps (by rw [isCreated])
    rw [isCreated] at isDirectory
    exact performed.grows.isDirectory isDirectory
  · intro isPlain
    rw [expandHome_of_not_standsForHome home? isPlain] at isExpanded
    exact (Except.ok.inj isExpanded).symm
  · intro entry member
    have createdStart := (Disk.grows_of_createDirectories isCreated).hasStart
      (starts (isAbsolute expanded))
    exact Artifact.read_of_performs createdStart performed member

/-- A scan of one service to a directory in the home directory, which is not below the working
directory, succeeds, and what it wrote is not where the text leads as it stands. -/
theorem exists_scan_to_home : ∃ summary after,
    (generate (some "/home/user") "in" "~/out" (Options.ofArguments registrationsOnly)).run
        diskWithService = (.ok summary, after) ∧
      summary.output = "~/out" ∧ "META-INF/services/A.SService" ∈ summary.artifacts.paths ∧
        (after.read (joinPath "~/out" "META-INF/services/A.SService")).isOk = false := by
  have succeeds :
      ((writeCode (some "/home/user") "~/out" registrationsOfService).run
        diskWithService).1.isOk = true := by
    decide +kernel
  have isMissing :
      (((writeCode (some "/home/user") "~/out" registrationsOfService).run
        diskWithService).2.read (joinPath "~/out" "META-INF/services/A.SService")).isOk =
          false := by
    decide +kernel
  rcases exists_scan_of_isOk succeeds with ⟨tree, built, scanned⟩
  have member : "META-INF/services/A.SService" ∈ tree.paths := by
    rw [Artifact.Collector.paths_of_build built, List.mem_mergeSort]
    decide
  exact ⟨_, _, scanned, rfl, member, isMissing⟩

theorem generate_writes_to_expanded_output_home : ∃ summary after,
    (generate (some "/home/user") "in" "~/out" (Options.ofArguments registrationsOnly)).run
        diskWithService = (.ok summary, after) ∧
      ∃ expanded, expandHome (some "/home/user") "~/out" = .ok expanded ∧
        ∀ entry ∈ summary.artifacts.contents.entries,
          after.read (joinPath expanded entry.1) = .ok (Text.Utf8.encode entry.2) := by
  rcases exists_scan_to_home with ⟨summary, after, succeeds, _⟩
  have hasStart : diskWithService.HasStart false := rfl
  rcases (generate_writes_to_expanded_output hasStart succeeds).2.2 with
    ⟨expanded, isExpanded, _, isReadable⟩
  exact ⟨summary, after, succeeds, expanded, isExpanded, isReadable⟩

/-- A scan does not always write to its output directory as the text stands, even if the home
directory is an absolute path. -/
theorem not_generate_writes_to_output :
    ¬∀ (home source output : String) (options : Options) (disk after : Disk) (summary : Summary),
      isAbsolute home = true → disk.HasStart false →
      (generate (some home) source output options).run disk = (.ok summary, after) →
      ∀ path ∈ summary.artifacts.paths,
        ∃ octets, after.read (joinPath summary.output path) = .ok octets := by
  intro writes
  rcases exists_scan_to_home with ⟨summary, after, succeeds, isOutput, member, isMissing⟩
  have absolute : isAbsolute "/home/user" = true := by decide
  have hasStart : diskWithService.HasStart false := rfl
  rcases writes _ _ _ _ _ _ _ absolute hasStart succeeds _ member with ⟨octets, isRead⟩
  rw [isOutput] at isRead
  rw [isRead] at isMissing
  cases isMissing

end ServiceBindings.Scan
