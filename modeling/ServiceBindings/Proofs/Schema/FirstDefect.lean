import ServiceBindings.Proofs.Schema.Validation
import ServiceBindings.Proofs.Text.Trim

/-!
# The first defect of a schema file

What makes a schema file sound is said of its parts, in no order.  Of any other file the first
defect is reported: the file name comes first, then the top-level messages, each with everything
nested in it, and then the services one by one, of each its name before its methods.  The reason that
is reported says what is wrong and names in quotes where.
-/

namespace ServiceBindings.Schema

namespace Message

/-- Whether a message is another one or nested in it, at any depth. -/
inductive IsWithin (message : Message) : Message → Prop where
  | itself : IsWithin message message
  | nested {outer inner : Message} :
      inner ∈ outer.nested → IsWithin message inner → IsWithin message outer

theorem isWithin_iff {message outer : Message} :
    message.IsWithin outer ↔
      message = outer ∨ ∃ inner ∈ outer.nested, message.IsWithin inner := by
  constructor
  · intro within
    cases within with
    | itself => exact .inl rfl
    | nested member within => exact .inr ⟨_, member, within⟩
  · intro given
    obtain rfl | ⟨inner, member, within⟩ := given
    · exact .itself
    · exact .nested member within

/-- Whether a message has a name, and every message nested in it at any depth. -/
def IsNamedThroughout (message : Message) : Prop :=
  ∀ inner : Message, inner.IsWithin message → inner.name ≠ ""

theorem isNamedThroughout_iff (message : Message) :
    message.IsNamedThroughout ↔
      message.name ≠ "" ∧ ∀ inner ∈ message.nested, inner.IsNamedThroughout := by
  constructor
  · intro named
    exact ⟨named message .itself, fun inner member other within =>
      named other (.nested member within)⟩
  · intro given other within
    obtain ⟨named, nestedNamed⟩ := given
    obtain rfl | ⟨inner, member, within⟩ := isWithin_iff.mp within
    · exact named
    · exact nestedNamed inner member other within

mutual

theorem isNamed_iff : (message : Message) →
    (message.isNamed = true ↔ message.IsNamedThroughout)
  | ⟨name, nested⟩ => by
    rw [isNamed, Bool.and_eq_true, areNamed_iff_isNamedThroughout nested, isNamedThroughout_iff]
    simp

theorem areNamed_iff_isNamedThroughout : (messages : List Message) →
    (areNamed messages = true ↔ ∀ message ∈ messages, message.IsNamedThroughout)
  | [] => by simp [areNamed]
  | message :: rest => by
    rw [areNamed, Bool.and_eq_true, isNamed_iff message, areNamed_iff_isNamedThroughout rest,
      List.forall_mem_cons]

end

theorem isNamed_eq_false_iff (message : Message) :
    message.isNamed = false ↔ ∃ inner : Message, inner.IsWithin message ∧ inner.name = "" := by
  rw [← Bool.not_eq_true, isNamed_iff, IsNamedThroughout]
  simp

end Message

namespace Method

/-- Whether a method has a name and both of its types. -/
structure IsSound (method : Method) : Prop where
  named : method.name ≠ ""
  input : method.inputType.fullName ≠ ""
  output : method.outputType.fullName ≠ ""

/-- The defect of a method, of which a missing name comes before a missing type. -/
inductive HasDefect (service : String) (method : Method) : Defect → Prop where
  | unnamed : method.name = "" → HasDefect service method (.unnamedMethod service)
  | untyped : method.name ≠ "" →
      method.inputType.fullName = "" ∨ method.outputType.fullName = "" →
      HasDefect service method (.missingType service method.name)

variable {service : String} {method : Method} {defect : Defect}

theorem defect?_eq_none_iff : method.defect? service = none ↔ method.IsSound := by
  simp only [defect?, TypeName.isEmpty, Bool.or_eq_true, String.isEmpty_iff]
  constructor
  · intro isNone
    split at isNone
    · cases isNone
    · rename_i named
      split at isNone
      · cases isNone
      · rename_i typed
        rw [not_or] at typed
        exact ⟨named, typed.1, typed.2⟩
  · intro sound
    rw [if_neg sound.named, if_neg (not_or.mpr ⟨sound.input, sound.output⟩)]

theorem defect?_eq_some_iff :
    method.defect? service = some defect ↔ method.HasDefect service defect := by
  simp only [defect?, TypeName.isEmpty, Bool.or_eq_true, String.isEmpty_iff]
  constructor
  · intro isDefect
    split at isDefect
    · rename_i unnamed
      cases isDefect
      exact .unnamed unnamed
    · rename_i named
      split at isDefect
      · rename_i untyped
        cases isDefect
        exact .untyped named untyped
      · cases isDefect
  · intro hasDefect
    cases hasDefect with
    | unnamed unnamed => rw [if_pos unnamed]
    | untyped named untyped => rw [if_neg named, if_pos untyped]

end Method

namespace Service

/-- Whether a service has a name and sound methods. -/
structure IsSound (service : Service) : Prop where
  named : service.name ≠ ""
  methods : ∀ method ∈ service.methods, method.IsSound

/-- The first defect of a service that follows services of the given names. -/
inductive HasFirstDefect (earlier : List String) (service : Service) : Defect → Prop where
  | unnamed : service.name = "" → HasFirstDefect earlier service .unnamedService
  | duplicate : service.name ≠ "" → service.name ∈ earlier →
      HasFirstDefect earlier service (.duplicateService service.name)
  | method {before after : List Method} {method : Method} {defect : Defect} :
      service.name ≠ "" → service.name ∉ earlier →
      service.methods = before ++ method :: after → (∀ other ∈ before, other.IsSound) →
      method.HasDefect service.name defect → HasFirstDefect earlier service defect

variable {earlier : List String} {service : Service} {services : List Service} {defect : Defect}

theorem defect?_eq_none_iff_isSound :
    service.defect? earlier = none ↔ service.IsSound ∧ service.name ∉ earlier := by
  simp only [defect?_eq_none_iff, Method.defect?_eq_none_iff]
  constructor
  · intro given
    exact ⟨⟨given.1, given.2.2⟩, given.2.1⟩
  · intro given
    exact ⟨given.1.named, given.2, given.1.methods⟩

theorem defect?_eq_some_iff :
    service.defect? earlier = some defect ↔ service.HasFirstDefect earlier defect := by
  simp only [defect?, String.isEmpty_iff, List.contains_iff_mem]
  constructor
  · intro isDefect
    split at isDefect
    · rename_i unnamed
      cases isDefect
      exact .unnamed unnamed
    · rename_i named
      split at isDefect
      · rename_i isEarlier
        cases isDefect
        exact .duplicate named isEarlier
      · rename_i isNew
        obtain ⟨before, method, after, isSplit, hasDefect, soundBefore⟩ :=
          List.findSome?_eq_some_iff.mp isDefect
        exact .method named isNew isSplit
          (fun other member => Method.defect?_eq_none_iff.mp (soundBefore other member))
          (Method.defect?_eq_some_iff.mp hasDefect)
  · intro hasDefect
    cases hasDefect with
    | unnamed unnamed => rw [if_pos unnamed]
    | duplicate named isEarlier => rw [if_neg named, if_pos isEarlier]
    | method named isNew isSplit soundBefore hasDefect =>
        rw [if_neg named, if_neg isNew, List.findSome?_eq_some_iff]
        exact ⟨_, _, _, isSplit, Method.defect?_eq_some_iff.mpr hasDefect,
          fun other member => Method.defect?_eq_none_iff.mpr (soundBefore other member)⟩

theorem HasFirstDefect.of_same_members {others : List String}
    (same : ∀ name, name ∈ earlier ↔ name ∈ others)
    (hasDefect : service.HasFirstDefect earlier defect) :
    service.HasFirstDefect others defect := by
  cases hasDefect with
  | unnamed unnamed => exact .unnamed unnamed
  | duplicate named isEarlier => exact .duplicate named ((same _).mp isEarlier)
  | method named isNew isSplit soundBefore hasDefect =>
      exact .method named (mt (same _).mpr isNew) isSplit soundBefore hasDefect

/-- The first defect of services is one of the first service that has a defect after the ones
before it. -/
theorem firstDefect?_eq_some_iff :
    firstDefect? earlier services = some defect ↔
      ∃ before service after, services = before ++ service :: after ∧
        firstDefect? earlier before = none ∧
          service.HasFirstDefect (before.map (·.name) ++ earlier) defect := by
  induction services generalizing earlier with
  | nil => simp [firstDefect?]
  | cons first rest ih =>
      rw [firstDefect?, Option.or_eq_some_iff, defect?_eq_some_iff, ih]
      -- the names of the services before are collected in front, so in reverse order
      have sameNames (before : List Service) (name : String) :
          name ∈ before.map (·.name) ++ first.name :: earlier ↔
            name ∈ (first :: before).map (·.name) ++ earlier := by
        simp only [List.map_cons, List.mem_append, List.mem_cons]
        tauto
      constructor
      · intro given
        obtain hasDefect | ⟨sound, before, service, after, rfl, soundBefore, hasDefect⟩ := given
        · exact ⟨[], first, rest, rfl, rfl, hasDefect⟩
        · refine ⟨first :: before, service, after, rfl, ?_,
            hasDefect.of_same_members (sameNames before)⟩
          rw [firstDefect?, sound, Option.none_or, soundBefore]
      · intro given
        obtain ⟨before, service, after, isSplit, soundBefore, hasDefect⟩ := given
        cases before with
        | nil =>
            obtain ⟨rfl, rfl⟩ := List.cons.inj isSplit
            exact .inl hasDefect
        | cons head others =>
            obtain ⟨rfl, rfl⟩ := List.cons.inj isSplit
            rw [firstDefect?, Option.or_eq_none_iff] at soundBefore
            exact .inr ⟨soundBefore.1, others, service, after, rfl, soundBefore.2,
              hasDefect.of_same_members fun name => (sameNames others name).symm⟩

theorem firstDefect?_nil_eq_none_iff :
    firstDefect? [] services = none ↔
      (∀ service ∈ services, service.IsSound) ∧ (services.map (·.name)).Nodup := by
  rw [firstDefect?_eq_none_iff]
  simp [defect?_eq_none_iff_isSound]

end Service

/-! ## What a reason names -/

namespace Defect

/-- The name of what a defect is found at: of a top-level message, of a service, or of a method behind
that of its service. -/
def subject? : Defect → Option String
  | unnamedFile | unnamedService => none
  | unnamedMessage name | duplicateService name | unnamedMethod name => some name
  | missingType service method => some (service ++ "." ++ method)

/-- What the reason of a defect says first. -/
def opening : Defect → String
  | unnamedFile => "file without a name"
  | unnamedMessage _ => "message declaration with an empty name near "
  | unnamedService => "service without a name"
  | duplicateService _ => "duplicate service "
  | unnamedMethod _ => "method without a name in service "
  | missingType _ _ => "method "

/-- What the reason of a defect says after a name. -/
def closing : Defect → String
  | missingType _ _ => " is missing its input or output type"
  | _ => ""

theorem quote_notMem_opening (defect : Defect) : '\'' ∉ defect.opening.toList := by
  cases defect with
  | unnamedFile | unnamedMessage | unnamedService | duplicateService | unnamedMethod
  | missingType => simp [opening]

theorem quote_notMem_closing (defect : Defect) : '\'' ∉ defect.closing.toList := by
  cases defect with
  | unnamedFile | unnamedMessage | unnamedService | duplicateService | unnamedMethod
  | missingType => simp [closing]

/-- A reason says what the defect is, and names in quotes what it is found at. -/
theorem reason_eq (defect : Defect) :
    defect.reason = defect.opening ++
      (defect.subject?.elim "" fun name => "'" ++ (name ++ "'" ++ defect.closing)) := by
  cases defect with
  | unnamedFile | unnamedService => rfl
  | unnamedMessage name =>
      change "message declaration with an empty name near '" ++ name ++ "'" = _
      simp [opening, subject?, closing, ← String.toList_inj]
  | duplicateService name =>
      change "duplicate service '" ++ name ++ "'" = _
      simp [opening, subject?, closing, ← String.toList_inj]
  | unnamedMethod name =>
      change "method without a name in service '" ++ name ++ "'" = _
      simp [opening, subject?, closing, ← String.toList_inj]
  | missingType service method =>
      change "method '" ++ service ++ "." ++ method ++ "' is missing its input or output type" = _
      simp [opening, subject?, closing, ← String.toList_inj]

/-- A text cut at its first quote and the rest of it at the last one. -/
def cutAtQuotes? (text : String) : Option (String × String × String) :=
  (Text.cutFirst? '\'' text).bind fun cut =>
    (Text.cutLast? '\'' cut.2).map fun inside => (cut.1, inside.1, inside.2)

theorem cutAtQuotes?_append {front back : String} (before : '\'' ∉ front.toList) (name : String)
    (after : '\'' ∉ back.toList) :
    cutAtQuotes? (front ++ ("'" ++ (name ++ "'" ++ back))) = some (front, name, back) := by
  have first := Text.cutFirst?_append_separator_append before (name ++ "'" ++ back)
  have last := Text.cutLast?_append_separator_append name after
  rw [String.append_assoc] at first
  exact (congrArg (Option.bind · _) first).trans (congrArg (Option.map _) last)

/-- Between its quotes a reason has the name of what the defect is found at, and nothing if that
has no name. -/
theorem cutAtQuotes?_reason (defect : Defect) :
    cutAtQuotes? defect.reason =
      defect.subject?.map fun name => (defect.opening, name, defect.closing) := by
  rw [reason_eq]
  cases defect.subject? with
  | none =>
      rw [Option.elim_none, String.append_empty, cutAtQuotes?,
        Text.cutFirst?_of_absent defect.quote_notMem_opening]
      rfl
  | some name =>
      exact cutAtQuotes?_append defect.quote_notMem_opening name defect.quote_notMem_closing

theorem opening_eq_and_subject?_eq_of_reason {defect other : Defect}
    (same : defect.reason = other.reason) :
    defect.opening = other.opening ∧ defect.subject? = other.subject? := by
  have cut := congrArg cutAtQuotes? same
  rw [cutAtQuotes?_reason, cutAtQuotes?_reason] at cut
  cases isSubject : defect.subject? with
  | none =>
      cases isOther : other.subject? with
      | none =>
          rw [reason_eq, reason_eq, isSubject, isOther] at same
          simpa using same
      | some name => simp [isSubject, isOther] at cut
  | some name =>
      cases isOther : other.subject? with
      | none => simp [isSubject, isOther] at cut
      | some otherName =>
          simp only [isSubject, isOther, Option.map_some, Option.some.injEq, Prod.mk.injEq] at cut
          exact ⟨cut.1, congrArg some cut.2.1⟩

/-- A reason tells which defect it is about: another defect has the same reason only if both are
missing types of methods, and the names of the methods behind those of their services are the same. -/
theorem eq_or_missingType_of_reason {defect other : Defect} (same : defect.reason = other.reason) :
    defect = other ∨ ∃ service method otherService otherMethod,
      defect = missingType service method ∧ other = missingType otherService otherMethod ∧
        service ++ "." ++ method = otherService ++ "." ++ otherMethod := by
  have ⟨sameOpening, sameSubject⟩ := opening_eq_and_subject?_eq_of_reason same
  cases defect with
  | missingType service method =>
      cases other with
      | missingType otherService otherMethod =>
          exact .inr ⟨_, _, _, _, rfl, rfl, Option.some.inj sameSubject⟩
      | _ => simp [opening] at sameOpening
  | _ =>
      -- Every other kind of defect has an opening and a subject of its own.
      cases other <;> simp_all [opening, subject?]

end Defect

namespace File

/-- Whether everything in a file has a name, services distinct ones, and all methods have their
types. -/
structure IsSound (file : File) : Prop where
  named : file.name ≠ ""
  messages : ∀ message ∈ file.messages, message.IsNamedThroughout
  services : ∀ service ∈ file.services, service.IsSound
  distinct : (file.services.map (·.name)).Nodup

/-- The first defect of a file.  What comes before it in the file has none. -/
inductive HasFirstDefect (file : File) : Defect → Prop where
  | unnamed : file.name = "" → HasFirstDefect file .unnamedFile
  | message {before after : List Message} {topLevel message : Message} :
      file.name ≠ "" → file.messages = before ++ topLevel :: after →
      (∀ other ∈ before, other.IsNamedThroughout) →
      message.IsWithin topLevel → message.name = "" →
      HasFirstDefect file (.unnamedMessage topLevel.name)
  | service {before after : List Service} {service : Service} {defect : Defect} :
      file.name ≠ "" → (∀ message ∈ file.messages, message.IsNamedThroughout) →
      file.services = before ++ service :: after →
      (∀ other ∈ before, other.IsSound) → (before.map (·.name)).Nodup →
      service.HasFirstDefect (before.map (·.name)) defect → HasFirstDefect file defect

variable {file : File} {defect : Defect}

theorem defect?_eq_none_iff_isSound : file.defect? = none ↔ file.IsSound := by
  simp only [defect?_eq_none_iff, Service.defect?_eq_none_iff_isSound, Message.isNamed_iff,
    List.not_mem_nil, not_false_eq_true, and_true]
  constructor
  · intro given
    exact ⟨given.1, given.2.1, given.2.2.1, given.2.2.2⟩
  · intro sound
    exact ⟨sound.named, sound.messages, sound.services, sound.distinct⟩

theorem find?_not_isNamed_eq_some_iff {messages : List Message} {topLevel : Message} :
    messages.find? (!·.isNamed) = some topLevel ↔
      (∃ message : Message, message.IsWithin topLevel ∧ message.name = "") ∧
        ∃ before after, messages = before ++ topLevel :: after ∧
          ∀ other ∈ before, other.IsNamedThroughout := by
  simp only [List.find?_eq_some_iff_append, Bool.not_eq_true', Bool.not_not,
    Message.isNamed_eq_false_iff, Message.isNamed_iff]

theorem find?_not_isNamed_eq_none_iff {messages : List Message} :
    messages.find? (!·.isNamed) = none ↔ ∀ message ∈ messages, message.IsNamedThroughout := by
  simp [List.find?_eq_none, Message.isNamed_iff]

theorem defect?_eq_some_iff : file.defect? = some defect ↔ file.HasFirstDefect defect := by
  simp only [defect?, String.isEmpty_iff]
  constructor
  · intro isDefect
    split at isDefect
    · rename_i unnamed
      cases isDefect
      exact .unnamed unnamed
    · rename_i named
      split at isDefect
      · rename_i topLevel found
        cases isDefect
        obtain ⟨⟨message, within, unnamed⟩, before, after, isSplit, namedBefore⟩ :=
          find?_not_isNamed_eq_some_iff.mp found
        exact .message named isSplit namedBefore within unnamed
      · rename_i notFound
        obtain ⟨before, service, after, isSplit, soundBefore, hasDefect⟩ :=
          Service.firstDefect?_eq_some_iff.mp isDefect
        rw [List.append_nil] at hasDefect
        obtain ⟨areSound, distinct⟩ := Service.firstDefect?_nil_eq_none_iff.mp soundBefore
        exact .service named (find?_not_isNamed_eq_none_iff.mp notFound) isSplit areSound distinct
          hasDefect
  · intro hasDefect
    cases hasDefect with
    | unnamed unnamed => rw [if_pos unnamed]
    | message named isSplit namedBefore within unnamed =>
        have found := find?_not_isNamed_eq_some_iff.mpr
          ⟨⟨_, within, unnamed⟩, _, _, isSplit, namedBefore⟩
        rw [if_neg named, found]
    | service named messages isSplit areSound distinct hasDefect =>
        have notFound := find?_not_isNamed_eq_none_iff.mpr messages
        have soundBefore := Service.firstDefect?_nil_eq_none_iff.mpr ⟨areSound, distinct⟩
        rw [← List.append_nil (List.map _ _)] at hasDefect
        have isDefect := Service.firstDefect?_eq_some_iff.mpr
          ⟨_, _, _, isSplit, soundBefore, hasDefect⟩
        rw [if_neg named, notFound]
        exact isDefect

/-- A repeated name comes before what is wrong with the methods and with later services. -/
example :
    let order : Message := ⟨"Order", [⟨"Line", []⟩]⟩
    let place : Method := ⟨"", ⟨""⟩, ⟨"Order"⟩, false, false⟩
    (⟨"shop.proto", none, .default, [order], [], [⟨"Shop", []⟩, ⟨"Shop", [place]⟩, ⟨"", []⟩]⟩ :
        File).validate =
      .error (.malformedSchema "shop.proto" "duplicate service 'Shop'") := by
  rfl

end File

end ServiceBindings.Schema
