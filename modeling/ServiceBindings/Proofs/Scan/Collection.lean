import Mathlib
import ServiceBindings.Proofs.Descriptor.Ingestion
import ServiceBindings.Proofs.Disk.Walk
import ServiceBindings.Proofs.Generation.Outcome
import ServiceBindings.Scan

/-!
# What a scan collects

A scan collects the descriptors of all sets that it comes upon and keeps the first one of each name.
The schema files made of them have different names, so that none of them is refused as a repeated
one.
-/

namespace ServiceBindings.Scan

open Disk (joinPath)

/-! ## The first descriptor of each name -/

/-- The descriptors without those whose name an earlier one has.  A descriptor without a name counts
as one with an empty name. -/
def firstOfEachName (descriptors : List Descriptor.File) : List Descriptor.File :=
  (descriptors.zipIdx.filter fun entry =>
    entry.1.nameOrEmpty ∉ (descriptors.take entry.2).map (·.nameOrEmpty)).map (·.1)

theorem firstOfEachName_append_singleton (earlier : List Descriptor.File)
    (descriptor : Descriptor.File) :
    firstOfEachName (earlier ++ [descriptor]) =
      if descriptor.nameOrEmpty ∈ earlier.map (·.nameOrEmpty) then firstOfEachName earlier
      else firstOfEachName earlier ++ [descriptor] := by
  have sameBefore : (earlier.zipIdx.filter fun entry =>
        entry.1.nameOrEmpty ∉ ((earlier ++ [descriptor]).take entry.2).map (·.nameOrEmpty)) =
      earlier.zipIdx.filter fun entry =>
        entry.1.nameOrEmpty ∉ (earlier.take entry.2).map (·.nameOrEmpty) := by
    apply List.filter_congr
    intro entry member
    have inFront : entry.2 ≤ earlier.length := Nat.le_of_lt (List.snd_lt_of_mem_zipIdx member)
    rw [List.take_append_of_le_length inFront]
  rw [firstOfEachName, List.zipIdx_append, List.filter_append, List.map_append, sameBefore,
    ← firstOfEachName]
  by_cases repeated : descriptor.nameOrEmpty ∈ earlier.map (·.nameOrEmpty)
  · simp [repeated]
  · simp [repeated]

theorem mem_names_firstOfEachName_iff {descriptors : List Descriptor.File} {name : String} :
    name ∈ (firstOfEachName descriptors).map (·.nameOrEmpty) ↔
      name ∈ descriptors.map (·.nameOrEmpty) := by
  induction descriptors using List.reverseRecOn with
  | nil => rfl
  | append_singleton earlier descriptor ih =>
      rw [firstOfEachName_append_singleton, List.map_append, List.mem_append]
      split
      · rename_i repeated
        rw [ih, List.map_singleton, List.mem_singleton]
        constructor
        · exact .inl
        · intro given
          rcases given with inEarlier | isLast
          · exact inEarlier
          · rw [isLast]
            exact repeated
      · rw [List.map_append, List.mem_append, ih]

theorem nodup_names_firstOfEachName (descriptors : List Descriptor.File) :
    ((firstOfEachName descriptors).map (·.nameOrEmpty)).Nodup := by
  induction descriptors using List.reverseRecOn with
  | nil => exact .nil
  | append_singleton earlier descriptor ih =>
      rw [firstOfEachName_append_singleton]
      split
      · exact ih
      · rename_i new
        rw [← mem_names_firstOfEachName_iff] at new
        rw [List.map_append, List.map_singleton, List.nodup_append', List.disjoint_singleton]
        exact ⟨ih, List.nodup_singleton _, new⟩

/-- Descriptors that are added one by one are kept as the first ones of their names. -/
theorem foldl_add_eq_firstOfEachName (descriptors : List Descriptor.File) :
    descriptors.foldl Collection.add [] = firstOfEachName descriptors := by
  induction descriptors using List.reverseRecOn with
  | nil => rfl
  | append_singleton earlier descriptor ih =>
      rw [List.foldl_append, ih, List.foldl_cons, List.foldl_nil, Collection.add,
        firstOfEachName_append_singleton]
      have sameNames : (firstOfEachName earlier).any
            (·.nameOrEmpty == descriptor.nameOrEmpty) = true ↔
          descriptor.nameOrEmpty ∈ earlier.map (·.nameOrEmpty) := by
        rw [← mem_names_firstOfEachName_iff, List.any_eq_true, List.mem_map]
        simp only [beq_iff_eq]
      simp only [sameNames]

/-! ## Collections -/

theorem addVisit_eq_ok {source path : String} {octets : List UInt8} {set : List Descriptor.File}
    (isSet : Descriptor.decodeSet octets = .ok set) (collection : Collection) :
    Collection.addVisit source collection (.ok ⟨path, .ok octets⟩) =
      .ok (collection.addSet set) := by
  have isSource : Descriptor.decodeSource path octets = .ok set := by
    rw [Descriptor.decodeSource.eq_def, isSet]
    rfl
  rw [Collection.addVisit, Collection.addFile]
  simp only [isSource]
  rfl

/-- The descriptors of files that are all sets are added set after set. -/
theorem foldlM_addVisit {files : List (Disk.Location × List UInt8)}
    {sets : List (List Descriptor.File)}
    (areSets : List.Forall₂ (fun file set => Descriptor.decodeSet file.2 = .ok set) files sets)
    (source : String) (path : Disk.Location → String) (collection : Collection) :
    (files.map fun file => .ok ⟨path file.1, .ok file.2⟩).foldlM (Collection.addVisit source)
        collection =
      .ok ⟨sets.flatten.foldl Collection.add collection.descriptors,
        collection.setCount + files.length⟩ := by
  induction areSets generalizing collection with
  | nil => rfl
  | cons isSet _ ih =>
      rw [List.map_cons, List.foldlM_cons, bind_eq_ok_iff]
      refine ⟨_, addVisit_eq_ok isSet collection, ?_⟩
      rw [ih, Collection.addSet, List.flatten_cons, List.foldl_append, List.length_cons,
        Nat.add_right_comm, Nat.add_assoc]

/-! ## Schema files of a collection -/

/-- Schema files of descriptors with different names pass the checks of a run. -/
theorem areAccepted_of_toSchemas {descriptors : List Descriptor.File}
    (distinct : (descriptors.map (·.nameOrEmpty)).Nodup) {schemas : List Schema.File}
    (ingested : Descriptor.toSchemas descriptors = .ok schemas) :
    Generation.AreAccepted schemas := by
  constructor
  · intro schema member
    obtain ⟨descriptor, _, converted⟩ := exists_of_mem_mapM ingested member
    exact Descriptor.File.validate_of_toSchema converted
  · rw [Descriptor.names_of_toSchemas ingested]
    exact distinct

variable {disk : Disk} {source : String}

/-- If all files at or below a source are sets, a scan keeps the first descriptor of each name in the
order of its walk, and counts the files.  No run over the schema files of these descriptors refuses
one of them, so that only a selected name that none of them has can stop it.

The only condition on what is below the source, apart from the sets, is the limit of the disk on the
length of paths: the walk can reach everything there.  A disk without such a limit always meets it, by
`Disk.admitsBelow_of_unlimited`. -/
theorem collect_keeps_first_of_each_name {location : Disk.Location} {entry : Disk.Entry}
    (found : disk.lookUp source = .ok (location, entry))
    (admitted : disk.AdmitsBelow source location)
    (decodes : ∀ below octets, disk.find? (location ++ below) = some (.file octets) →
      ∃ set, Descriptor.decodeSet octets = .ok set) :
    ∃ files sets, disk.AreFilesBelow location files ∧
      List.Forall₂ (fun file set => Descriptor.decodeSet file.2 = .ok set) files sets ∧
      (collect source).run disk = (.ok ⟨firstOfEachName sets.flatten, files.length⟩, disk) ∧
      ∀ schemas, Descriptor.toSchemas (firstOfEachName sets.flatten) = .ok schemas →
        ∀ (options : Options) (selection : List String),
          (∀ name reason, Generation.runOptions options schemas selection ≠
            .error (.malformedSchema name reason)) ∧
          ((∀ name ∈ selection, name ∈ schemas.map (·.name)) →
            ∃ code, Generation.runOptions options schemas selection = .ok code) := by
  obtain ⟨files, areFiles, isWalk⟩ := Disk.exists_walk_eq found admitted
  have allDecode : ∀ file ∈ files, ∃ set, Descriptor.decodeSet file.2 = .ok set :=
    fun file member => decodes file.1 file.2 ((areFiles.mem_iff file.1 file.2).mp member)
  obtain ⟨sets, decoded⟩ := exists_mapM_eq_ok_iff.mpr allDecode
  have areSets := mapM_eq_ok_iff_forall₂.mp decoded
  refine ⟨files, sets, areFiles, areSets, ?_, ?_⟩
  · have collected := foldlM_addVisit areSets source (·.foldl joinPath source) Collection.empty
    rw [Collection.empty, foldl_add_eq_firstOfEachName, Nat.zero_add] at collected
    rw [collect, Disk.Program.run, isWalk, Collection.ofVisits, Collection.empty, collected]
    rfl
  · intro schemas ingested options selection
    have accepted := areAccepted_of_toSchemas (nodup_names_firstOfEachName _) ingested
    exact ⟨fun name reason => Generation.run_ne_malformedSchema accepted _ selection name reason,
      fun areKnown => Generation.exists_run_of_areAccepted accepted areKnown _⟩

/-- A descriptor of a schema file that declares nothing. -/
def descriptorOf (name : String) (package? : Option String) : Descriptor.File :=
  ⟨some name, package?, none, [], [], []⟩

/-- A set that has `a.proto` twice, the second time in a package. -/
def repeatingSet : List UInt8 :=
  [10, 9, 10, 7, 97, 46, 112, 114, 111, 116, 111,
    10, 12, 10, 7, 97, 46, 112, 114, 111, 116, 111, 18, 1, 112]

/-- A set of `b.proto` and, in a package, `a.proto`. -/
def overlappingSet : List UInt8 :=
  [10, 9, 10, 7, 98, 46, 112, 114, 111, 116, 111,
    10, 12, 10, 7, 97, 46, 112, 114, 111, 116, 111, 18, 1, 112]

/-- A directory with these sets, in which the set that a walk comes upon first is in a directory of
its own. -/
def repeats : Disk.Node :=
  .directory [("b.pb", .file overlappingSet), ("a", .directory [("c.pb", .file repeatingSet)])]

/-- A disk with that directory. -/
def diskWithRepeats : Disk := ⟨[], none, [("in", repeats)]⟩

theorem areFilesBelow_diskWithRepeats : diskWithRepeats.AreFilesBelow ["in"]
    [(["a", "c.pb"], repeatingSet), (["b.pb"], overlappingSet)] := by
  have isDirectory : Disk.Node.at? ["in"] diskWithRepeats.root = some repeats := rfl
  exact Disk.areFilesBelow_of_at? isDirectory

theorem decodeSet_repeatingSet : Descriptor.decodeSet repeatingSet =
    .ok [descriptorOf "a.proto" none, descriptorOf "a.proto" (some "p")] := by
  cbv

theorem decodeSet_overlappingSet : Descriptor.decodeSet overlappingSet =
    .ok [descriptorOf "b.proto" none, descriptorOf "a.proto" (some "p")] := by
  cbv

theorem collect_keeps_first_of_each_name_repeats :
    (collect "in").run diskWithRepeats =
        (.ok ⟨[descriptorOf "a.proto" none, descriptorOf "b.proto" none], 2⟩, diskWithRepeats) ∧
      ∃ code, Generation.runOptions .default
        [⟨"a.proto", none, .default, [], [], []⟩, ⟨"b.proto", none, .default, [], [], []⟩]
        ["a.proto", "b.proto"] = .ok code := by
  have found : diskWithRepeats.lookUp "in" = .ok (["in"], .directory) := by decide +kernel
  have decodes : ∀ below octets, diskWithRepeats.find? (["in"] ++ below) = some (.file octets) →
      ∃ set, Descriptor.decodeSet octets = .ok set := by
    intro below octets isFile
    have listed := (areFilesBelow_diskWithRepeats.mem_iff below octets).mpr isFile
    rw [List.mem_pair, Prod.mk.injEq, Prod.mk.injEq] at listed
    rcases listed with ⟨_, rfl⟩ | ⟨_, rfl⟩
    · exact ⟨_, decodeSet_repeatingSet⟩
    · exact ⟨_, decodeSet_overlappingSet⟩
  obtain ⟨files, sets, areFiles, decoded, collected, succeeds⟩ :=
    collect_keeps_first_of_each_name found (Disk.admitsBelow_of_unlimited rfl) decodes
  cases areFiles.eq areFilesBelow_diskWithRepeats
  have areSets : List.Forall₂ (fun (file : Disk.Location × List UInt8) set =>
      Descriptor.decodeSet file.2 = .ok set)
      [(["a", "c.pb"], repeatingSet), (["b.pb"], overlappingSet)]
      [[descriptorOf "a.proto" none, descriptorOf "a.proto" (some "p")],
        [descriptorOf "b.proto" none, descriptorOf "a.proto" (some "p")]] :=
    .cons decodeSet_repeatingSet (.cons decodeSet_overlappingSet .nil)
  rw [← mapM_eq_ok_iff_forall₂] at decoded areSets
  cases decoded.symm.trans areSets
  exact ⟨collected, (succeeds _ rfl .default ["a.proto", "b.proto"]).2 (by simp)⟩

end ServiceBindings.Scan
