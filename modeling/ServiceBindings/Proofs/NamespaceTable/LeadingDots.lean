import ServiceBindings.Proofs.Descriptor.Ingestion
import ServiceBindings.Proofs.Json.Record
import ServiceBindings.Proofs.NamespaceTable.Resolution
import ServiceBindings.Schema.Json

/-!
# Leading dots of types

A look-up in a table depends on the dots in front of a type.  Types made from texts have none, and
so neither have those of descriptors; types that are read from stored schema files keep them.
-/

namespace ServiceBindings

open Json (Value)
open NamespaceTable (ofFiles)

/-! ## Types -/

namespace Schema.TypeName

/-- Whether there is no dot in front of a type. -/
def IsStripped (type : TypeName) : Prop :=
  type.fullName.toList.head? ≠ some '.'

theorem ofText_of_isStripped {type : TypeName} (stripped : type.IsStripped) :
    ofText type.fullName = type := by
  rw [ofText, Text.trimStart_eq_self stripped]

theorem isStripped_ofText (text : String) : (ofText text).IsStripped :=
  Text.head?_trimStart_ne '.' text

theorem isStripped_iff_exists_ofText {type : TypeName} :
    type.IsStripped ↔ ∃ text, type = ofText text := by
  constructor
  · intro stripped
    exact ⟨type.fullName, (ofText_of_isStripped stripped).symm⟩
  · intro given
    obtain ⟨text, rfl⟩ := given
    exact isStripped_ofText text

end Schema.TypeName

namespace NamespaceTable

open Schema (File FileOptions TypeName)

/-- A file with one message, declared by its full name and placed in the package `found`. -/
def fileDeclaring (fullName : String) : File where
  name := ""
  package := none
  options := { FileOptions.default with javaPackage := some "found", javaMultipleFiles := true }
  messages := [⟨fullName, []⟩]
  enums := []
  services := []

theorem spaceOf?_fileDeclaring (fullName query : String) :
    (ofFiles [fileDeclaring fullName]).spaceOf? query =
      if fullName = query then some "found" else none := by
  have declared : [fileDeclaring fullName].flatMap File.declarations = [⟨fullName, "found"⟩] := by
    simp [fileDeclaring, File.declarations, Schema.Message.declarations,
      Schema.Message.nestedDeclarations, File.qualify, File.packageOrEmpty, File.space]
  rw [ofFiles, declared, spaceOf?_ofDeclarations]
  by_cases isName : fullName = query <;> simp [isName]

/-- Look-ups of a type ignore dots in front of it only if there are none: otherwise the message
that it names without them is found with or without them, but not both. -/
theorem forall_resolve_ofText_iff {type : TypeName} :
    (∀ files, (ofFiles files).resolve type = (ofFiles files).resolve (.ofText type.fullName)) ↔
      type.IsStripped := by
  constructor
  · intro same
    have sameSpace := congrArg ClassName.space
      (same [fileDeclaring (TypeName.ofText type.fullName).fullName])
    simp only [resolve, spaceOf?_fileDeclaring, if_true, Option.getD_some] at sameSpace
    by_cases isSame : (TypeName.ofText type.fullName).fullName = type.fullName
    · rw [TypeName.IsStripped, ← isSame]
      exact TypeName.isStripped_ofText type.fullName
    · simp [isSame] at sameSpace
  · intro stripped files
    rw [TypeName.ofText_of_isStripped stripped]

end NamespaceTable

/-! ## Types of schema files -/

namespace Schema

/-- The types of a method, that of the request first. -/
def Method.types (method : Method) : List TypeName :=
  [method.inputType, method.outputType]

/-- The types of the methods of a service in order. -/
def Service.types (service : Service) : List TypeName :=
  service.methods.flatMap Method.types

/-- The types of the methods of a file in order. -/
def File.types (file : File) : List TypeName :=
  file.services.flatMap Service.types

/-- Whether look-ups of the types of a file, in the table of any files, find the same as those of
the types that their texts denote. -/
def File.IgnoresLeadingDots (file : File) : Prop :=
  ∀ type ∈ file.types, ∀ files,
    (ofFiles files).resolve type = (ofFiles files).resolve (.ofText type.fullName)

theorem File.ignoresLeadingDots_iff {file : File} :
    file.IgnoresLeadingDots ↔ ∀ type ∈ file.types, type.IsStripped := by
  simp only [IgnoresLeadingDots, NamespaceTable.forall_resolve_ofText_iff]

end Schema

/-! ## Types of descriptors -/

namespace Descriptor

/-- The types of a method as texts. -/
def Method.typeTexts (method : Method) : List String :=
  [method.inputType?.getD "", method.outputType?.getD ""]

/-- The types of a service as texts. -/
def Service.typeTexts (service : Service) : List String :=
  service.methods.flatMap Method.typeTexts

theorem Method.types_of_toSchema {file service : String} {method : Method} {schema : Schema.Method}
    (converted : method.toSchema file service = .ok schema) :
    schema.types = method.typeTexts.map Schema.TypeName.ofText := by
  rw [toSchema, bind_eq_ok_iff] at converted
  obtain ⟨name, isNamed, isSchema⟩ := converted
  cases isSchema
  rfl

theorem Service.types_of_toSchema {file : String} {service : Service} {schema : Schema.Service}
    (converted : service.toSchema file = .ok schema) :
    schema.types = service.typeTexts.map Schema.TypeName.ofText := by
  obtain ⟨name, isName, methods, methodsConverted, rfl⟩ := toSchema_eq_ok_iff.mp converted
  rw [Schema.Service.types, typeTexts, List.map_flatMap]
  exact flatMap_eq_flatMap_of_mapM Method.types_of_toSchema methodsConverted

/-- The types of a converted descriptor are those that its texts denote. -/
theorem File.types_of_toSchema {file : File} {schema : Schema.File}
    (converted : file.toSchema = .ok schema) :
    schema.types = (file.services.flatMap Service.typeTexts).map Schema.TypeName.ofText := by
  obtain ⟨_, _, _, _, _, _, services, servicesConverted, rfl, _⟩ := toSchema_eq_ok_iff.mp converted
  rw [Schema.File.types, List.map_flatMap]
  exact flatMap_eq_flatMap_of_mapM Service.types_of_toSchema servicesConverted

end Descriptor

/-! ## Types of stored files -/

namespace Schema

/-- The types of a stored method. -/
def Method.storedTypes (method : Value) : List Value :=
  (method.member? shape "input_type").toList ++ (method.member? shape "output_type").toList

/-- The types of a stored service. -/
def Service.storedTypes (service : Value) : List Value :=
  (service.itemsOf shape "methods").flatMap Method.storedTypes

/-- The types of a stored file. -/
def File.storedTypes (file : Value) : List Value :=
  (file.itemsOf shape "services").flatMap Service.storedTypes

/-- The stored form of a type, which is its text as it is. -/
def TypeName.toJson (type : TypeName) : Value :=
  .text type.fullName

theorem TypeName.ofJson_eq_ok_iff {value : Value} {type : TypeName} :
    ofJson value = .ok type ↔ value = type.toJson := by
  rw [ofJson, map_eq_ok_iff]
  simp only [Value.asText_eq_ok_iff]
  constructor
  · intro given
    obtain ⟨text, rfl, rfl⟩ := given
    rfl
  · intro isStored
    exact ⟨type.fullName, isStored, rfl⟩

theorem Method.storedTypes_of_ofJson {value : Value} {method : Method}
    (isRead : ofJson value = .ok method) :
    method.types.map TypeName.toJson = storedTypes value := by
  simp only [ofJson, bind_eq_ok_iff] at isRead
  obtain ⟨record, found, _, _, name, _, inputType, inputRead, outputType, outputRead, _, _, _, _,
    _, _, isMethod⟩ := isRead
  cases isMethod
  obtain ⟨input, isInput, inputOk⟩ :=
    (Json.Record.required_read?_eq_ok_iff found (by decide)).mp inputRead
  obtain ⟨output, isOutput, outputOk⟩ :=
    (Json.Record.required_read?_eq_ok_iff found (by decide)).mp outputRead
  rw [storedTypes, isInput, isOutput, TypeName.ofJson_eq_ok_iff.mp inputOk,
    TypeName.ofJson_eq_ok_iff.mp outputOk]
  rfl

theorem Service.storedTypes_of_ofJson {value : Value} {service : Service}
    (isRead : ofJson value = .ok service) :
    service.types.map TypeName.toJson = storedTypes value := by
  simp only [ofJson, bind_eq_ok_iff] at isRead
  obtain ⟨record, found, _, _, name, _, methods, methodsRead, _, _, isService⟩ := isRead
  cases isService
  rw [types, storedTypes, List.map_flatMap]
  exact flatMap_eq_flatMap_of_mapM Method.storedTypes_of_ofJson
    (Json.Record.mapM_itemsOf_of_required found (by decide) methodsRead)

/-- A file that is read has the types that are stored, with the dots in front of them. -/
theorem File.storedTypes_of_ofJson {value : Value} {file : File}
    (isRead : ofJson value = .ok file) :
    file.types.map TypeName.toJson = storedTypes value := by
  simp only [ofJson, bind_eq_ok_iff] at isRead
  obtain ⟨record, found, _, _, name, _, package, _, options, _, messages, _, enums, _, services,
    servicesRead, _, _, isFile⟩ := isRead
  cases isFile
  rw [types, storedTypes, List.map_flatMap]
  exact flatMap_eq_flatMap_of_mapM Service.storedTypes_of_ofJson
    (Json.Record.mapM_itemsOf_of_defaulted found (by decide) servicesRead)

/-! ## Look-ups by the origin of a file -/

/-- When look-ups of the types of a schema file ignore leading dots.

* They do exactly if no type of the file has a dot in front.
* They do if all types are made from texts, and if the file comes from a descriptor.
* If the file is read from its stored form they do exactly if no stored text of a type has a dot in
  front, since the texts are kept as they are. -/
theorem File.ignoresLeadingDots_by_origin (file : File) :
    (file.IgnoresLeadingDots ↔ ∀ type ∈ file.types, type.IsStripped) ∧
    ((∀ type ∈ file.types, ∃ text, type = .ofText text) → file.IgnoresLeadingDots) ∧
    (∀ descriptor : Descriptor.File, descriptor.toSchema = .ok file →
      file.IgnoresLeadingDots) ∧
    (∀ value : Value, ofJson value = .ok file →
      (file.IgnoresLeadingDots ↔
        ∀ text, Value.text text ∈ storedTypes value → text.toList.head? ≠ some '.')) := by
  have ofTexts : (∀ type ∈ file.types, ∃ text, type = .ofText text) →
      file.IgnoresLeadingDots := by
    intro fromTexts
    rw [ignoresLeadingDots_iff]
    intro type member
    exact TypeName.isStripped_iff_exists_ofText.mpr (fromTexts type member)
  refine ⟨ignoresLeadingDots_iff, ofTexts, ?_, ?_⟩
  · intro descriptor converted
    apply ofTexts
    intro type member
    rw [Descriptor.File.types_of_toSchema converted, List.mem_map] at member
    obtain ⟨text, _, rfl⟩ := member
    exact ⟨text, rfl⟩
  · intro value isRead
    rw [ignoresLeadingDots_iff, ← storedTypes_of_ofJson isRead]
    constructor
    · intro stripped text stored
      obtain ⟨type, member, isText⟩ := List.mem_map.mp stored
      cases isText
      exact stripped type member
    · intro noDots type member
      exact noDots type.fullName (List.mem_map_of_mem member)

/-- A file with a message `B` and one method, which returns it. -/
def File.returningB (input : TypeName) : File where
  name := "a.proto"
  package := none
  options := .default
  messages := [⟨"B", []⟩]
  enums := []
  services := [⟨"S", [⟨"M", input, ⟨"B"⟩, false, false⟩]⟩]

/-- The stored form of that file, with a text for the type of the request. -/
def File.storedReturningB (input : String) : Value :=
  .object
    [("messages", .array [.object [("name", .text "B")]]), ("name", .text "a.proto"),
      ("services", .array [.object
        [("methods", .array [.object
          [("client_streaming", .bool false), ("input_type", .text input), ("name", .text "M"),
            ("output_type", .text "B"), ("server_streaming", .bool false)]]),
          ("name", .text "S")]])]

theorem File.ignoresLeadingDots_by_origin_search :
    let search : File := Descriptor.File.schemaOfSearch
    ((∀ type ∈ search.types, ∃ text, type = .ofText text) ∧ search.IgnoresLeadingDots) ∧
    (Descriptor.File.ofSearch.toSchema = .ok search ∧ search.IgnoresLeadingDots) ∧
    (ofJson (storedReturningB "B") = .ok (returningB ⟨"B"⟩) ∧
      (returningB ⟨"B"⟩).IgnoresLeadingDots) := by
  intro search
  have fromTexts : ∀ type ∈ search.types, ∃ text, type = .ofText text := by
    intro type member
    have isOne : type ∈ [".Query", "..Result"].map TypeName.ofText := member
    obtain ⟨text, _, rfl⟩ := List.mem_map.mp isOne
    exact ⟨text, rfl⟩
  have converted : Descriptor.File.ofSearch.toSchema = .ok search := rfl
  have isRead : ofJson (storedReturningB "B") = .ok (returningB ⟨"B"⟩) := rfl
  have noDots : ∀ text, Value.text text ∈ storedTypes (storedReturningB "B") →
      text.toList.head? ≠ some '.' := by
    intro text stored
    have isOne : Value.text text ∈ ["B", "B"].map Value.text := stored
    have isName : text = "B" := by simpa using isOne
    rw [isName]
    decide
  obtain ⟨_, built, ingested, _⟩ := ignoresLeadingDots_by_origin search
  obtain ⟨_, _, _, read⟩ := ignoresLeadingDots_by_origin (returningB ⟨"B"⟩)
  exact ⟨⟨fromTexts, built fromTexts⟩, ⟨converted, ingested _ converted⟩, isRead,
    (read _ isRead).mpr noDots⟩

/-- A stored type with a dot in front is read, and the file is valid, but the message that the type
names is not found. -/
theorem File.stored_type_keeps_dot :
    ofJson (storedReturningB ".B") = .ok (returningB ⟨".B"⟩) ∧
      (returningB ⟨".B"⟩).validate = .ok () ∧
      (ofFiles [returningB ⟨".B"⟩]).resolve ⟨".B"⟩ = ⟨"", "B"⟩ ∧
      (ofFiles [returningB ⟨".B"⟩]).resolve (.ofText ".B") = ⟨"A", "B"⟩ ∧
      ¬(returningB ⟨".B"⟩).IgnoresLeadingDots := by
  have asWritten : (ofFiles [returningB ⟨".B"⟩]).resolve ⟨".B"⟩ = ⟨"", "B"⟩ := by decide
  have asDenoted : (ofFiles [returningB ⟨".B"⟩]).resolve (.ofText ".B") = ⟨"A", "B"⟩ := by decide
  refine ⟨rfl, rfl, asWritten, asDenoted, ?_⟩
  intro ignores
  have same := ignores ⟨".B"⟩ List.mem_cons_self [returningB ⟨".B"⟩]
  rw [asWritten, asDenoted] at same
  exact absurd same (by decide)

end Schema

end ServiceBindings
