import ServiceBindings.NamespaceTable

/-!
# Outer classes and the declarations inside them

The class around the message classes of a file should not have the name of what is declared in the
file.  A derived name that is taken is changed once, and the changed name is not checked again: so
the outer class has the name of a declaration only if the derived name and the changed one are both
taken.
-/

namespace ServiceBindings.Schema.File

variable {file : File}

/-- Whether a name is that of a top-level message, an enum or a service of a file. -/
inductive Declares (file : File) : String → Prop where
  | message {message : Message} : message ∈ file.messages → Declares file message.name
  | enum {name : String} : name ∈ file.enums → Declares file name
  | service {service : Service} : service ∈ file.services → Declares file service.name

/-- The name of a file in UpperCamelCase, without its directory and extension. -/
def camelName (file : File) : String :=
  Identifier.upperCamel (Path.directoryAndStem file.name).2

theorem declares_iff {name : String} : file.Declares name ↔
    name ∈ file.messages.map (·.name) ++ file.enums ++ file.services.map (·.name) := by
  simp only [List.mem_append, List.mem_map]
  constructor
  · intro declares
    cases declares with
    | message member => exact .inl (.inl ⟨_, member, rfl⟩)
    | enum member => exact .inl (.inr member)
    | service member => exact .inr ⟨_, member, rfl⟩
  · intro given
    obtain (⟨message, member, rfl⟩ | member) | ⟨service, member, rfl⟩ := given
    · exact .message member
    · exact .enum member
    · exact .service member

section Derived

variable (derived : file.options.javaOuterClass = none)

include derived

/-- A derived name is kept if it is free, and otherwise changed. -/
theorem outerClass_cases :
    ¬file.Declares file.camelName ∧ file.outerClass = file.camelName ∨
      file.Declares file.camelName ∧ file.outerClass = file.camelName ++ "OuterClass" := by
  rw [outerClass, derived, declares_iff]
  by_cases taken : file.camelName ∈
      file.messages.map (·.name) ++ file.enums ++ file.services.map (·.name)
  · exact .inr ⟨taken, if_pos (List.contains_iff_mem.mpr taken)⟩
  · exact .inl ⟨taken, if_neg (mt List.contains_iff_mem.mp taken)⟩

/-- The outer class has the name of a declaration exactly if both names are taken that it can
have. -/
theorem declares_outerClass_iff : file.Declares file.outerClass ↔
    file.Declares file.camelName ∧ file.Declares (file.camelName ++ "OuterClass") := by
  obtain ⟨free, isOuter⟩ | ⟨taken, isOuter⟩ := outerClass_cases derived
  · rw [isOuter]
    exact ⟨fun declares => absurd declares free, fun given => given.1⟩
  · rw [isOuter]
    exact ⟨fun declares => ⟨taken, declares⟩, fun given => given.2⟩

end Derived

/-- A file in which the derived name is taken by a message, and an enum and a service share parts
with the changed one. -/
def withTakenName : File where
  name := "acme/v2/search-api.proto"
  package := some "acme"
  options := .default
  messages := [⟨"SearchApi", [⟨"SearchApiOuterClass", []⟩]⟩]
  enums := ["SearchApiOuter"]
  services := [⟨"OuterClass", []⟩]

theorem not_declares_outerClass_withTakenName :
    withTakenName.options.javaOuterClass = none ∧
      withTakenName.outerClass = "SearchApiOuterClass" ∧
      withTakenName.Declares "SearchApi" ∧ ¬withTakenName.Declares withTakenName.outerClass := by
  have isDerived : withTakenName.camelName = "SearchApi" := by decide +kernel
  have isFree : ¬withTakenName.Declares "SearchApiOuterClass" := by
    rw [declares_iff]
    decide
  refine ⟨rfl, by decide +kernel, declares_iff.mpr (by decide), ?_⟩
  rw [declares_outerClass_iff rfl, isDerived]
  exact fun declares => isFree declares.2

/-- A file in which both names are taken. -/
def withTakenNames : File where
  name := "search.proto"
  package := none
  options := .default
  messages := [⟨"Search", []⟩, ⟨"SearchOuterClass", []⟩]
  enums := []
  services := []

/-- A derived outer class can have the name of a declaration. -/
theorem not_outerClass_never_declared :
    ¬∀ file : File, file.options.javaOuterClass = none → ¬file.Declares file.outerClass := by
  intro never
  have isOuter : withTakenNames.outerClass = "SearchOuterClass" := by decide +kernel
  apply never withTakenNames rfl
  rw [isOuter, declares_iff]
  decide

end ServiceBindings.Schema.File
