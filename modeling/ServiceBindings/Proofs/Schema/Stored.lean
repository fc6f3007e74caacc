import ServiceBindings.Proofs.Json.Rearrangement
import ServiceBindings.Schema.Json

/-!
# Stored schema files

A schema file is read back from its stored form, whatever order the fields of the stored objects
are in.  Each part is read back because each of its members is; for messages this is an induction
on the tree of nested messages, in which a message without nested ones leaves out the list.
-/

namespace ServiceBindings.Schema

open Json (Reading Record RecordShape Value)
open Json.Record (check_eq_ok)
open Json.Value (Rearranges)

variable {arrange : Value → Value}

/-! ## Methods, services and options -/

theorem TypeName.ofJson_arranged (arranges : Rearranges arrange) (type : TypeName) :
    ofJson (arrange (.text type.fullName)) = .ok type := by
  rw [ofJson, arranges.asText_text]
  rfl

theorem Method.ofJson_arranged (arranges : Rearranges arrange) (method : Method) :
    ofJson (arrange method.toJson) = .ok method := by
  obtain ⟨record, isRecord, holds⟩ :=
    arranges.exists_record shape method.toJson rfl (show shape.members.Nodup by decide)
  have name := holds.read?_of_present "name" rfl (arranges.asText_text method.name)
  have inputType := holds.read?_of_present "input_type" rfl
    (TypeName.ofJson_arranged arranges method.inputType)
  have outputType := holds.read?_of_present "output_type" rfl
    (TypeName.ofJson_arranged arranges method.outputType)
  have clientStreaming := holds.read?_of_present "client_streaming" rfl
    (arranges.asSwitch_bool method.clientStreaming)
  have serverStreaming := holds.read?_of_present "server_streaming" rfl
    (arranges.asSwitch_bool method.serverStreaming)
  rw [ofJson, isRecord]
  simp [name, inputType, outputType, clientStreaming, serverStreaming, check_eq_ok, holds.checkEnd,
    Record.fault?, Record.required, bind, Except.bind, pure, Except.pure]

theorem Service.ofJson_arranged (arranges : Rearranges arrange) (service : Service) :
    ofJson (arrange service.toJson) = .ok service := by
  obtain ⟨record, isRecord, holds⟩ :=
    arranges.exists_record shape service.toJson rfl (show shape.members.Nodup by decide)
  have name := holds.read?_of_present "name" rfl (arranges.asText_text service.name)
  have methods := holds.read?_of_present "methods" rfl
    (arranges.asList_array fun method (_ : method ∈ service.methods) =>
      Method.ofJson_arranged arranges method)
  rw [ofJson, isRecord]
  simp [name, methods, check_eq_ok, holds.checkEnd, Record.fault?, Record.required, bind,
    Except.bind, pure, Except.pure]

theorem FileOptions.ofJson_arranged (arranges : Rearranges arrange) (options : FileOptions) :
    ofJson (arrange options.toJson) = .ok options := by
  obtain ⟨record, isRecord, holds⟩ :=
    arranges.exists_record shape options.toJson rfl (show shape.members.Nodup by decide)
  have javaPackage := holds.read?_of_present "java_package" rfl
    (arranges.asOptionalText_ofText? options.javaPackage)
  have javaMultipleFiles := holds.read?_of_present "java_multiple_files" rfl
    (arranges.asSwitch_bool options.javaMultipleFiles)
  have javaOuterClass := holds.read?_of_present "java_outer_classname" rfl
    (arranges.asOptionalText_ofText? options.javaOuterClass)
  rw [ofJson, isRecord]
  simp [javaPackage, javaMultipleFiles, javaOuterClass, check_eq_ok, holds.checkEnd,
    Record.fault?, Record.required, Record.optional, bind, Except.bind, pure, Except.pure]

/-! ## Messages -/

namespace Message

theorem nestedOfFields_eq (fields : List (String × Value)) :
    nestedOfFields fields = (Dictionary.findIn? "nested" fields).map listOfJson := by
  induction fields with
  | nil => rfl
  | cons field rest ih =>
      obtain ⟨key, value⟩ := field
      rw [nestedOfFields, ih, Dictionary.findIn?]
      by_cases isNested : key = "nested"
      · rw [if_pos isNested, if_pos isNested.symm, Option.map_some]
      · rw [if_neg isNested, if_neg (Ne.symm isNested)]

/-- A message is read from an object like the other records. -/
theorem ofJson_of_record {value : Value} {record : Record}
    (isRecord : Record.ofValue shape value = .ok record) (isObject : record.itemCount = none) :
    ofJson value = ofMembers record (record.read? "name" Value.asText)
      (record.read? "nested" listOfJson) := by
  cases value with
  | object fields =>
      cases isRecord
      rw [ofJson, nestedOfFields_eq, Record.read?, Record.read?]
  | array items =>
      cases isRecord
      cases isObject
  | _ => cases isRecord

theorem listOfJson_array (items : List Value) :
    listOfJson (.array items) = items.mapM ofJson := by
  rw [listOfJson]
  induction items with
  | nil => rfl
  | cons item rest ih =>
      rw [itemsOfJson, List.mapM_cons, ih]
      cases ofJson item with
      | error error => rfl
      | ok message => cases rest.mapM ofJson <;> rfl

mutual

theorem ofJson_arranged (arranges : Rearranges arrange) :
    (message : Message) → ofJson (arrange message.toJson) = .ok message
  | ⟨name, []⟩ => by
    obtain ⟨record, isRecord, holds⟩ :=
      arranges.exists_record shape (toJson ⟨name, []⟩) rfl (show ["name"].Nodup by decide)
    have nameRead := holds.read?_of_present "name" rfl (arranges.asText_text name)
    -- Without nested messages the list is left out, and its default is read.
    have noNested := holds.read?_of_absent "nested" listOfJson rfl
    rw [ofJson_of_record isRecord holds.itemCount]
    simp [nameRead, noNested, ofMembers, check_eq_ok, holds.checkEnd, Record.fault?,
      Record.required, Record.defaulted, bind, Except.bind, pure, Except.pure]
  | ⟨name, inner :: others⟩ => by
    obtain ⟨record, isRecord, holds⟩ := arranges.exists_record shape
      (toJson ⟨name, inner :: others⟩) rfl (show shape.members.Nodup by decide)
    have nameRead := holds.read?_of_present "name" rfl (arranges.asText_text name)
    have nestedRead := holds.read?_of_present "nested" rfl
      (listOfJson_arranged arranges (inner :: others))
    rw [ofJson_of_record isRecord holds.itemCount]
    simp [nameRead, nestedRead, ofMembers, check_eq_ok, holds.checkEnd, Record.fault?,
      Record.required, Record.defaulted, bind, Except.bind, pure, Except.pure]

theorem listOfJson_arranged (arranges : Rearranges arrange) :
    (messages : List Message) →
      listOfJson (arrange (.array (listToJson messages))) = .ok messages
  | [] => by
    rw [arranges.array]
    rfl
  | message :: rest => by
    have first := ofJson_arranged arranges message
    have others := listOfJson_arranged arranges rest
    rw [arranges.array, listOfJson_array] at others
    rw [arranges.array, listOfJson_array, listToJson, List.map_cons, List.mapM_cons, first, others]
    rfl

end

end Message

/-! ## Files -/

namespace File

theorem ofJson_arranged (arranges : Rearranges arrange) (file : File) :
    ofJson (arrange file.toJson) = .ok file := by
  obtain ⟨record, isRecord, holds⟩ :=
    arranges.exists_record shape file.toJson rfl (show shape.members.Nodup by decide)
  have name := holds.read?_of_present "name" rfl (arranges.asText_text file.name)
  have package := holds.read?_of_present "package" rfl
    (arranges.asOptionalText_ofText? file.package)
  have options := holds.read?_of_present "options" rfl
    (FileOptions.ofJson_arranged arranges file.options)
  have messages := holds.read?_of_present "messages" rfl
    (Message.listOfJson_arranged arranges file.messages)
  have enums := holds.read?_of_present "enums" rfl
    (arranges.asList_array fun name (_ : name ∈ file.enums) => arranges.asText_text name)
  have services := holds.read?_of_present "services" rfl
    (arranges.asList_array fun service (_ : service ∈ file.services) =>
      Service.ofJson_arranged arranges service)
  rw [ofJson, isRecord]
  simp [name, package, options, messages, enums, services, check_eq_ok, holds.checkEnd,
    Record.fault?, Record.required, Record.optional, Record.defaulted, bind, Except.bind, pure,
    Except.pure]

/-- Every schema file is read back from the value that it is stored as, with the fields of the
value in the order of their declaration and with all of them in ascending order. -/
theorem stored_form_reads_back (file : File) :
    ofJson file.toJson = .ok file ∧ ofJson file.toJson.sorted = .ok file := by
  constructor
  · exact ofJson_arranged Value.rearranges_id file
  · exact ofJson_arranged Value.rearranges_sorted file

end File

end ServiceBindings.Schema
