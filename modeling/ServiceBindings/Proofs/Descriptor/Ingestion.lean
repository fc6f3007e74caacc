import ServiceBindings.Proofs.Descriptor
import ServiceBindings.Proofs.Path
import ServiceBindings.Proofs.Schema.Validation

/-!
# Which descriptors become schema files

A descriptor becomes a schema file exactly if everything in it is named, its services by distinct
names, and its methods have types.  The schema file has the same declarations in the same nesting
and order; only leading dots of types and empty optional texts are left out.
-/

namespace ServiceBindings.Descriptor

open Schema (TypeName)

/-! ## Texts -/

/-- Whether a text is there and not empty. -/
def IsGiven (text? : Option String) : Prop :=
  ∃ text, text? = some text ∧ text ≠ ""

/-- Whether an optional text is kept as it is, except that an empty one becomes absent. -/
structure IsKept (text? kept? : Option String) : Prop where
  absent : kept? = none ↔ text? = none ∨ text? = some ""
  same : ∀ text, kept? = some text → text? = some text

theorem isKept_present? (text? : Option String) : IsKept text? (present? text?) := by
  refine ⟨?_, fun text isPresent => (present?_eq_some_iff.mp isPresent).1⟩
  cases text? with
  | none => simp [present?]
  | some text => simp [present?, Text.nonempty?]

theorem exists_named_iff {file reason : String} {name? : Option String} :
    (∃ name, named file reason name? = .ok name) ↔ IsGiven name? := by
  simp only [named_eq_ok_iff, IsGiven]

theorem getD_false_eq_true_iff (flag? : Option Bool) :
    flag?.getD false = true ↔ flag? = some true := by
  cases flag? <;> simp

/-! ## Types -/

/-- Whether a text names a type: not all of it is dots. -/
def NamesType (text? : Option String) : Prop :=
  ∃ c ∈ (text?.getD "").toList, c ≠ '.'

/-- Whether a type is what follows the leading dots of a text. -/
structure RefersTo (text? : Option String) (type : TypeName) : Prop where
  text : ∃ dots, text?.getD "" = String.ofList (List.replicate dots '.') ++ type.fullName
  first : type.fullName.toList.head? ≠ some '.'

theorem exists_dots_ofText (text : String) : ∃ dots,
    text = String.ofList (List.replicate dots '.') ++ (TypeName.ofText text).fullName := by
  have areDots : text.toList.takeWhile (· == '.') =
      List.replicate (text.toList.takeWhile (· == '.')).length '.' :=
    List.eq_replicate_length.mpr fun c member => by simpa using List.mem_takeWhile_imp member
  refine ⟨(text.toList.takeWhile (· == '.')).length, ?_⟩
  rw [← areDots, TypeName.ofText, Text.trimStart, ← String.ofList_append,
    List.takeWhile_append_dropWhile, String.ofList_toList]

theorem refersTo_ofText (text? : Option String) :
    RefersTo text? (.ofText (text?.getD "")) :=
  ⟨exists_dots_ofText _, Text.head?_trimStart_ne '.' _⟩

theorem isEmpty_ofText_eq_false_iff {text? : Option String} :
    (TypeName.ofText (text?.getD "")).isEmpty = false ↔ NamesType text? := by
  simp [TypeName.ofText, TypeName.isEmpty, Text.trimStart, NamesType]

/-! ## Messages -/

namespace Message

/-- Whether a message is one of the given ones or nested in one of them, at any depth. -/
inductive IsIn (message : Message) : List Message → Prop where
  | top {messages : List Message} : message ∈ messages → IsIn message messages
  | nested {messages : List Message} {outer : Message} :
      outer ∈ messages → IsIn message outer.nested → IsIn message messages

/-- Whether a schema message has the name of a message and, nested in the same way and order,
messages with the names of those nested in it. -/
inductive Describes : Message → Schema.Message → Prop where
  | intro {name : String} {nested : List Message} {inner : List Schema.Message} :
      List.Forall₂ Describes nested inner → Describes ⟨some name, nested⟩ ⟨name, inner⟩

theorem not_isIn_nil (message : Message) : ¬message.IsIn [] := by
  intro isIn
  cases isIn with
  | top member => cases member
  | nested member _ => cases member

theorem isIn_cons_iff {message first : Message} {rest : List Message} :
    message.IsIn (first :: rest) ↔
      message = first ∨ message.IsIn first.nested ∨ message.IsIn rest := by
  constructor
  · intro isIn
    cases isIn with
    | top member =>
        cases List.mem_cons.mp member with
        | inl isFirst => exact .inl isFirst
        | inr inRest => exact .inr (.inr (.top inRest))
    | nested member inner =>
        cases List.mem_cons.mp member with
        | inl isFirst => exact .inr (.inl (isFirst ▸ inner))
        | inr inRest => exact .inr (.inr (.nested inRest inner))
  · intro given
    obtain rfl | inFirst | inRest := given
    · exact .top List.mem_cons_self
    · exact .nested List.mem_cons_self inFirst
    · cases inRest with
      | top member => exact .top (List.mem_cons_of_mem _ member)
      | nested member inner => exact .nested (List.mem_cons_of_mem _ member) inner

section Conversion

variable {file : String}

theorem toSchema_eq_ok_iff {name? : Option String} {nested : List Message}
    {schema : Schema.Message} :
    toSchema file ⟨name?, nested⟩ = .ok schema ↔
      ∃ name, (name? = some name ∧ name ≠ "") ∧
        ∃ inner, listToSchema file nested = .ok inner ∧ schema = ⟨name, inner⟩ := by
  rw [toSchema]
  simp only [← @named_eq_ok_iff file "message without a name"]
  cases isNamed : named file "message without a name" name? with
  | error error => simp
  | ok name => simp [map_eq_ok_iff]

theorem listToSchema_cons_eq_ok_iff {message : Message} {rest : List Message}
    {schemas : List Schema.Message} :
    listToSchema file (message :: rest) = .ok schemas ↔
      ∃ first others, message.toSchema file = .ok first ∧
        listToSchema file rest = .ok others ∧ schemas = first :: others := by
  rw [listToSchema]
  cases message.toSchema file with
  | error error => simp
  | ok first => simp [map_eq_ok_iff]

mutual

theorem exists_toSchema_iff : (message : Message) →
    ((∃ schema, message.toSchema file = .ok schema) ↔
      IsGiven message.name? ∧ ∀ other : Message, other.IsIn message.nested → IsGiven other.name?)
  | ⟨name?, nested⟩ => by
    rw [← exists_listToSchema_iff nested]
    simp only [toSchema_eq_ok_iff]
    constructor
    · intro given
      obtain ⟨_, name, isName, inner, converted, _⟩ := given
      exact ⟨⟨name, isName⟩, inner, converted⟩
    · intro given
      obtain ⟨⟨name, isName⟩, inner, converted⟩ := given
      exact ⟨_, name, isName, inner, converted, rfl⟩

/-- Messages can be converted if they and all messages nested in them have names. -/
theorem exists_listToSchema_iff : (messages : List Message) →
    ((∃ schemas, listToSchema file messages = .ok schemas) ↔
      ∀ other : Message, other.IsIn messages → IsGiven other.name?)
  | [] => by simp [listToSchema, not_isIn_nil]
  | message :: rest => by
    have first := exists_toSchema_iff message
    have others := exists_listToSchema_iff rest
    simp only [isIn_cons_iff, or_imp, forall_and, forall_eq]
    rw [← and_assoc, ← first, ← others]
    simp only [listToSchema_cons_eq_ok_iff]
    constructor
    · intro given
      obtain ⟨_, schema, schemas, converted, othersConverted, _⟩ := given
      exact ⟨⟨schema, converted⟩, schemas, othersConverted⟩
    · intro given
      obtain ⟨⟨schema, converted⟩, schemas, othersConverted⟩ := given
      exact ⟨_, schema, schemas, converted, othersConverted, rfl⟩

end

mutual

theorem describes_of_toSchema : (message : Message) → {schema : Schema.Message} →
    message.toSchema file = .ok schema → message.Describes schema ∧ schema.isNamed = true
  | ⟨name?, nested⟩, schema, converted => by
    obtain ⟨name, ⟨rfl, nonempty⟩, inner, innerConverted, rfl⟩ := toSchema_eq_ok_iff.mp converted
    obtain ⟨describes, areNamed⟩ := describes_of_listToSchema nested innerConverted
    refine ⟨.intro describes, ?_⟩
    simp [Schema.Message.isNamed, nonempty, areNamed]

/-- Converted messages are described by the messages that they come from. -/
theorem describes_of_listToSchema : (messages : List Message) → {schemas : List Schema.Message} →
    listToSchema file messages = .ok schemas →
      List.Forall₂ Describes messages schemas ∧ Schema.Message.areNamed schemas = true
  | [], schemas, converted => by
    cases converted
    exact ⟨.nil, rfl⟩
  | message :: rest, schemas, converted => by
    obtain ⟨first, others, firstConverted, othersConverted, rfl⟩ :=
      listToSchema_cons_eq_ok_iff.mp converted
    obtain ⟨firstDescribes, firstNamed⟩ := describes_of_toSchema message firstConverted
    obtain ⟨othersDescribe, othersNamed⟩ := describes_of_listToSchema rest othersConverted
    refine ⟨.cons firstDescribes othersDescribe, ?_⟩
    simp [Schema.Message.areNamed, firstNamed, othersNamed]

end

end Conversion

end Message

/-! ## Methods and services -/

namespace Method

/-- Whether a method has a name and both of its types. -/
structure IsComplete (method : Method) : Prop where
  named : IsGiven method.name?
  input : NamesType method.inputType?
  output : NamesType method.outputType?

/-- Whether a schema method is the one of a descriptor.  A side that is not said to be a stream is
none. -/
structure Describes (method : Method) (schema : Schema.Method) : Prop where
  name : method.name? = some schema.name
  input : RefersTo method.inputType? schema.inputType
  output : RefersTo method.outputType? schema.outputType
  clientStreaming : schema.clientStreaming = true ↔ method.clientStreaming? = some true
  serverStreaming : schema.serverStreaming = true ↔ method.serverStreaming? = some true

variable {file service : String} {method : Method} {schema : Schema.Method}

theorem exists_toSchema_iff :
    (∃ schema, method.toSchema file service = .ok schema) ↔ IsGiven method.name? := by
  rw [← @exists_named_iff file ("method without a name in service " ++ service), toSchema]
  cases named file ("method without a name in service " ++ service) method.name? with
  | error error => simp [bind, Except.bind]
  | ok name => simp [bind, Except.bind, pure, Except.pure]

theorem describes_of_toSchema (converted : method.toSchema file service = .ok schema) :
    method.Describes schema := by
  rw [toSchema, bind_eq_ok_iff] at converted
  obtain ⟨name, isNamed, isSchema⟩ := converted
  cases isSchema
  exact ⟨(named_eq_ok_iff.mp isNamed).1, refersTo_ofText _, refersTo_ofText _,
    getD_false_eq_true_iff _, getD_false_eq_true_iff _⟩

theorem defect?_eq_none_iff (converted : method.toSchema file service = .ok schema) :
    schema.defect? service = none ↔
      NamesType method.inputType? ∧ NamesType method.outputType? := by
  rw [toSchema, bind_eq_ok_iff] at converted
  obtain ⟨name, isNamed, isSchema⟩ := converted
  cases isSchema
  have nonempty := (named_eq_ok_iff.mp isNamed).2
  rw [← isEmpty_ofText_eq_false_iff, ← isEmpty_ofText_eq_false_iff]
  simp [Schema.Method.defect?, nonempty]

end Method

namespace Service

/-- Whether a schema service is the one of a descriptor. -/
structure Describes (service : Service) (schema : Schema.Service) : Prop where
  name : service.name? = some schema.name
  methods : List.Forall₂ Method.Describes service.methods schema.methods

variable {file : String} {service : Service} {schema : Schema.Service}

theorem exists_toSchema_iff : (∃ schema, service.toSchema file = .ok schema) ↔
    IsGiven service.name? ∧ ∀ method ∈ service.methods, IsGiven method.name? := by
  have methodsNamed (name : String) :
      (∃ methods, service.methods.mapM (Method.toSchema file name) = .ok methods) ↔
        ∀ method ∈ service.methods, IsGiven method.name? := by
    simp only [exists_mapM_eq_ok_iff, Method.exists_toSchema_iff]
  simp only [toSchema_eq_ok_iff]
  constructor
  · intro given
    obtain ⟨_, name, isName, methods, converted, _⟩ := given
    exact ⟨⟨name, isName⟩, (methodsNamed name).mp ⟨methods, converted⟩⟩
  · intro given
    obtain ⟨⟨name, isName⟩, areNamed⟩ := given
    obtain ⟨methods, converted⟩ := (methodsNamed name).mpr areNamed
    exact ⟨_, name, isName, methods, converted, rfl⟩

theorem describes_of_toSchema (converted : service.toSchema file = .ok schema) :
    service.Describes schema := by
  obtain ⟨name, isName, methods, methodsConverted, rfl⟩ := toSchema_eq_ok_iff.mp converted
  exact ⟨isName.1, (mapM_eq_ok_iff_forall₂.mp methodsConverted).imp
    fun _ _ => Method.describes_of_toSchema⟩

/-- A converted service has no defect of its own if its methods have types. -/
theorem defect?_eq_none_iff (converted : service.toSchema file = .ok schema) :
    schema.defect? [] = none ↔ ∀ method ∈ service.methods,
      NamesType method.inputType? ∧ NamesType method.outputType? := by
  obtain ⟨name, isName, methods, methodsConverted, rfl⟩ := toSchema_eq_ok_iff.mp converted
  have sameDefects : (∀ method ∈ service.methods,
      NamesType method.inputType? ∧ NamesType method.outputType?) ↔
        ∀ method ∈ methods, method.defect? name = none :=
    forall_mem_iff_of_forall₂ (mapM_eq_ok_iff_forall₂.mp methodsConverted)
      fun _ _ methodConverted => (Method.defect?_eq_none_iff methodConverted).symm
  rw [Schema.Service.defect?_eq_none_iff, sameDefects]
  simp [isName.2]

end Service

/-! ## Files -/

/-- Whether schema options are those of a descriptor, if it has any. -/
structure FileOptions.Describe (options? : Option FileOptions) (schema : Schema.FileOptions) :
    Prop where
  javaPackage : IsKept (options?.bind (·.javaPackage?)) schema.javaPackage
  javaMultipleFiles : schema.javaMultipleFiles = true ↔
    options?.bind (·.javaMultipleFiles?) = some true
  javaOuterClass : IsKept (options?.bind (·.javaOuterClass?)) schema.javaOuterClass

theorem FileOptions.describe_toSchema (options? : Option FileOptions) :
    Describe options? ((options?.map toSchema).getD .default) := by
  cases options? with
  | none => exact ⟨isKept_present? none, by simp [Schema.FileOptions.default], isKept_present? none⟩
  | some options => exact ⟨isKept_present? _, getD_false_eq_true_iff _, isKept_present? _⟩

namespace File

/-- Whether everything in a descriptor is named, services by distinct names, and all methods have
their types. -/
structure IsWellFormed (file : File) : Prop where
  named : IsGiven file.name?
  messages : ∀ message : Message, message.IsIn file.messages → IsGiven message.name?
  enums : ∀ enum ∈ file.enums, IsGiven enum.name?
  services : ∀ service ∈ file.services, IsGiven service.name?
  distinct : (file.services.map (·.name?)).Nodup
  methods : ∀ service ∈ file.services, ∀ method ∈ service.methods, method.IsComplete

/-- Whether a schema file has the declarations and the options of a descriptor. -/
structure Describes (file : File) (schema : Schema.File) : Prop where
  name : file.name? = some schema.name
  package : IsKept file.package? schema.package
  options : FileOptions.Describe file.options? schema.options
  messages : List.Forall₂ Message.Describes file.messages schema.messages
  enums : file.enums.map (·.name?) = schema.enums.map some
  services : List.Forall₂ Service.Describes file.services schema.services

variable {file : File} {schema : Schema.File}

/-- What is left for validation to find in converted declarations: services of one name, and methods
without types. -/
theorem validate_eq_ok_iff_of_converted {name : String} {messages : List Schema.Message}
    {services : List Schema.Service} (nonempty : name ≠ "")
    (messagesConverted : Message.listToSchema name file.messages = .ok messages)
    (servicesConverted : file.services.mapM (Service.toSchema name) = .ok services)
    (package : Option String) (options : Schema.FileOptions) (enums : List String) :
    (⟨name, package, options, messages, enums, services⟩ : Schema.File).validate = .ok () ↔
      (file.services.map (·.name?)).Nodup ∧ ∀ service ∈ file.services,
        ∀ method ∈ service.methods, NamesType method.inputType? ∧ NamesType method.outputType? := by
  have areNamed := (Message.describes_of_listToSchema _ messagesConverted).2
  have converted := mapM_eq_ok_iff_forall₂.mp servicesConverted
  have sameDefects : (∀ service ∈ file.services, ∀ method ∈ service.methods,
      NamesType method.inputType? ∧ NamesType method.outputType?) ↔
        ∀ service ∈ services, service.defect? [] = none :=
    forall_mem_iff_of_forall₂ converted fun _ _ serviceConverted =>
      (Service.defect?_eq_none_iff serviceConverted).symm
  have sameNames : (services.map (·.name)).map some = file.services.map (·.name?) := by
    rw [List.map_map]
    exact map_eq_map_of_mapM (fun serviceConverted =>
      (Service.describes_of_toSchema serviceConverted).name.symm) servicesConverted
  rw [Schema.File.validate_eq_ok_iff, Schema.File.defect?_eq_none_iff, sameDefects, ← sameNames,
    List.nodup_map_iff fun _ _ => Option.some.inj]
  constructor
  · intro sound
    exact ⟨sound.2.2.2, sound.2.2.1⟩
  · intro sound
    exact ⟨nonempty, Schema.Message.areNamed_iff.mp areNamed, sound.2, sound.1⟩

/-- A descriptor can be converted if it is well-formed. -/
theorem exists_toSchema_iff : (∃ schema, file.toSchema = .ok schema) ↔ file.IsWellFormed := by
  have enumsNamed (name : String) : (∃ enums, file.enums.mapM (Enum.toSchema name) = .ok enums) ↔
      ∀ enum ∈ file.enums, IsGiven enum.name? := by
    simp only [exists_mapM_eq_ok_iff, Enum.toSchema, exists_named_iff]
  have servicesNamed (name : String) :
      (∃ services, file.services.mapM (Service.toSchema name) = .ok services) ↔
        ∀ service ∈ file.services, IsGiven service.name? ∧
          ∀ method ∈ service.methods, IsGiven method.name? := by
    simp only [exists_mapM_eq_ok_iff, Service.exists_toSchema_iff]
  constructor
  · intro given
    obtain ⟨_, converted⟩ := given
    obtain ⟨name, isName, messages, messagesConverted, enums, enumsConverted, services,
      servicesConverted, rfl, valid⟩ := toSchema_eq_ok_iff.mp converted
    have areNamed := (servicesNamed name).mp ⟨services, servicesConverted⟩
    have ⟨distinct, typed⟩ := (validate_eq_ok_iff_of_converted isName.2 messagesConverted
      servicesConverted _ _ _).mp valid
    exact {
      named := ⟨name, isName⟩
      messages := (Message.exists_listToSchema_iff _).mp ⟨messages, messagesConverted⟩
      enums := (enumsNamed name).mp ⟨enums, enumsConverted⟩
      services := fun service member => (areNamed service member).1
      distinct
      methods := fun service inFile method inService =>
        ⟨(areNamed service inFile).2 method inService, (typed service inFile method inService).1,
          (typed service inFile method inService).2⟩ }
  · intro wellFormed
    obtain ⟨name, isName⟩ := wellFormed.named
    obtain ⟨messages, messagesConverted⟩ :=
      (@Message.exists_listToSchema_iff name _).mpr wellFormed.messages
    obtain ⟨enums, enumsConverted⟩ := (enumsNamed name).mpr wellFormed.enums
    obtain ⟨services, servicesConverted⟩ := (servicesNamed name).mpr fun service member =>
      ⟨wellFormed.services service member, fun method inService =>
        (wellFormed.methods service member method inService).named⟩
    have valid := (validate_eq_ok_iff_of_converted isName.2 messagesConverted servicesConverted
      (present? file.package?) ((file.options?.map FileOptions.toSchema).getD .default) enums).mpr
        ⟨wellFormed.distinct, fun service inFile method inService =>
          ⟨(wellFormed.methods service inFile method inService).input,
            (wellFormed.methods service inFile method inService).output⟩⟩
    exact ⟨_, toSchema_eq_ok_iff.mpr ⟨name, isName, messages, messagesConverted, enums,
      enumsConverted, services, servicesConverted, rfl, valid⟩⟩

theorem describes_of_toSchema (converted : file.toSchema = .ok schema) :
    file.Describes schema := by
  obtain ⟨name, isName, messages, messagesConverted, enums, enumsConverted, services,
    servicesConverted, rfl, _⟩ := toSchema_eq_ok_iff.mp converted
  have sameEnums : enums.map some = file.enums.map (·.name?) :=
    map_eq_map_of_mapM (fun isNamed => (named_eq_ok_iff.mp isNamed).1.symm) enumsConverted
  exact {
    name := isName.1
    package := isKept_present? _
    options := FileOptions.describe_toSchema _
    messages := (Message.describes_of_listToSchema _ messagesConverted).1
    enums := sameEnums.symm
    services := (mapM_eq_ok_iff_forall₂.mp servicesConverted).imp fun _ _ =>
      Service.describes_of_toSchema }

theorem validate_of_toSchema (converted : file.toSchema = .ok schema) :
    schema.validate = .ok () := by
  obtain ⟨_, _, _, _, _, _, _, _, _, valid⟩ := toSchema_eq_ok_iff.mp converted
  exact valid

/-- Exactly the well-formed descriptors become schema files.  The schema file has their
declarations and options, and it is valid. -/
theorem toSchema_accepts_wellFormed (file : File) :
    ((∃ schema, file.toSchema = .ok schema) ↔ file.IsWellFormed) ∧
      ∀ schema, file.toSchema = .ok schema →
        file.Describes schema ∧ schema.validate = .ok () :=
  ⟨exists_toSchema_iff, fun _ converted =>
    ⟨describes_of_toSchema converted, validate_of_toSchema converted⟩⟩

/-- A descriptor with an empty package, an empty Java package, messages in three levels, dots in
front of types, and a stream on one side. -/
def ofSearch : File where
  name? := some "acme/search.proto"
  package? := some ""
  options? := some ⟨some "", none, some "Protos"⟩
  messages := [⟨some "Query", [⟨some "Page", [⟨some "Token", []⟩]⟩]⟩, ⟨some "Result", []⟩]
  enums := [⟨some "Order"⟩]
  services := [⟨some "Search", [⟨some "Find", some ".Query", some "..Result", none, some true⟩]⟩,
    ⟨some "Index", []⟩]

/-- The schema file of that descriptor. -/
def schemaOfSearch : Schema.File where
  name := "acme/search.proto"
  package := none
  options := ⟨none, false, some "Protos"⟩
  messages := [⟨"Query", [⟨"Page", [⟨"Token", []⟩]⟩]⟩, ⟨"Result", []⟩]
  enums := ["Order"]
  services := [⟨"Search", [⟨"Find", ⟨"Query"⟩, ⟨"Result"⟩, false, true⟩]⟩, ⟨"Index", []⟩]

theorem toSchema_accepts_wellFormed_search :
    ofSearch.toSchema = .ok schemaOfSearch ∧ ofSearch.IsWellFormed ∧
      ofSearch.Describes schemaOfSearch ∧ schemaOfSearch.validate = .ok () := by
  have converted : ofSearch.toSchema = .ok schemaOfSearch := rfl
  have accepts := toSchema_accepts_wellFormed ofSearch
  exact ⟨converted, accepts.1.mp ⟨_, converted⟩, accepts.2 _ converted⟩

end File

end ServiceBindings.Descriptor
