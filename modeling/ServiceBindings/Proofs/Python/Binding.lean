import ServiceBindings.Proofs.Path.Stem
import ServiceBindings.Proofs.Python.SourceText

/-!
# What stands in a binding

Line by line and without the blank ones, a binding imports the stubs of its schema file, defines one
class, and in it a function for each method.  How a method streams and what its types are leaves no
trace.
-/

namespace ServiceBindings

open Text (IsLine)

theorem Text.isLine_replaceChar {text : String} (isLine : IsLine text) {old new : Char}
    (newIsNoBreak : new ≠ '\n') : IsLine (replaceChar old new text) := by
  rw [IsLine, replaceChar, String.toList_ofList, List.mem_map]
  rintro ⟨c, member, isBreak⟩
  split at isBreak
  · exact newIsNoBreak isBreak
  · exact isLine (isBreak ▸ member)

theorem Text.isBlankLine_append_of_left {front : String} (visible : isBlankLine front = false)
    (back : String) : isBlankLine (front ++ back) = false := by
  rw [isBlankLine] at visible ⊢
  rw [String.toList_append, List.all_append, visible, Bool.false_and]

namespace Python

/-! ## The lines with text in them -/

/-- The line that imports the stubs of the schema file with a stem. -/
def importLine (stem : String) : String :=
  "from . import " ++ Text.replaceChar '-' '_' stem ++ "_pb2_grpc as importStub"

/-- The line that begins the class of a service. -/
def classLine (service : String) : String := "class " ++ service ++ "Service(object):"

/-- The line that begins the constructor of a class. -/
def constructorLine : String := "    def __init__(self, router):"

/-- The line that connects the class of a service with its stub. -/
def connectionLine (service : String) : String :=
  "        self.connector = router.get_connection(" ++ service ++ "Service, importStub." ++
    service ++ "Stub)"

/-- The line that begins the function of a method. -/
def definitionLine (method : String) : String :=
  "    def " ++ method ++ "(self, request, timeout=None, properties=None):"

/-- The line that forwards what a function is called with. -/
def forwardingLine (method : String) : String :=
  "        return self.connector.create_request('" ++ method ++
    "', request, timeout, properties)"

/-- The lines of a binding in which something stands. -/
def writtenLines (stem : String) (service : Schema.Service) : List String :=
  [importLine stem, classLine service.name, constructorLine, connectionLine service.name] ++
    service.methods.flatMap fun method =>
      [definitionLine method.name, forwardingLine method.name]

/-- What is read of a text without its blank lines. -/
def readLines (text : String) : List String :=
  (Text.lines text).filter (!Text.isBlankLine ·)

section Lines

variable {stem : String} {service : Schema.Service}

theorem isBlankLine_empty : Text.isBlankLine "" = true := rfl

theorem filter_functionLines (method : String) :
    (functionLines method).filter (!Text.isBlankLine ·) =
      [definitionLine method, forwardingLine method] := by
  have definition : Text.isBlankLine (definitionLine method) = false :=
    Text.isBlankLine_append_of_left (Text.isBlankLine_append_of_left (by decide) _) _
  have forwarding : Text.isBlankLine (forwardingLine method) = false :=
    Text.isBlankLine_append_of_left (Text.isBlankLine_append_of_left (by decide) _) _
  change ["", definitionLine method, forwardingLine method].filter _ = _
  simp [isBlankLine_empty, definition, forwarding]

theorem filter_classLines {fileName : String} (isStem : Path.IsStem fileName stem)
    (service : String) :
    (classLines fileName service).filter (!Text.isBlankLine ·) =
      [importLine stem, classLine service, constructorLine, connectionLine service] := by
  have imports : Text.isBlankLine (importLine stem) = false :=
    Text.isBlankLine_append_of_left (Text.isBlankLine_append_of_left (by decide) _) _
  have defines : Text.isBlankLine (classLine service) = false :=
    Text.isBlankLine_append_of_left (Text.isBlankLine_append_of_left (by decide) _) _
  have constructs : Text.isBlankLine constructorLine = false := by decide
  have connects : Text.isBlankLine (connectionLine service) = false :=
    Text.isBlankLine_append_of_left (Text.isBlankLine_append_of_left
      (Text.isBlankLine_append_of_left (Text.isBlankLine_append_of_left (by decide) _) _) _) _
  rw [classLines, isStem.snd_directoryAndStem]
  change [importLine stem, "", "", classLine service, "", constructorLine,
    connectionLine service].filter _ = _
  simp [isBlankLine_empty, imports, defines, constructs, connects]

theorem filter_bindingLines {fileName : String} (isStem : Path.IsStem fileName stem) :
    (bindingLines fileName service).filter (!Text.isBlankLine ·) = writtenLines stem service := by
  rw [bindingLines, List.filter_append, filter_classLines isStem, List.filter_flatMap,
    List.flatMap_map]
  simp only [filter_functionLines]
  rfl

theorem isLine_of_mem_bindingLines {fileName : String} (fileIsLine : IsLine fileName)
    (serviceIsLine : IsLine service.name)
    (methodsAreLines : ∀ method ∈ service.methods, IsLine method.name) :
    ∀ line ∈ bindingLines fileName service, IsLine line := by
  have stemIsLine : IsLine (Text.replaceChar '-' '_' (Path.directoryAndStem fileName).2) := by
    apply Text.isLine_replaceChar _ (by decide)
    exact fun member => fileIsLine ((Path.isStem_iff.mpr rfl).subset member)
  intro line member
  rcases List.mem_append.mp member with inClass | inFunctions
  · simp only [classLines, List.mem_cons, List.not_mem_nil, or_false] at inClass
    rcases inClass with rfl | rfl | rfl | rfl | rfl | rfl | rfl <;>
      simp +decide [stemIsLine, serviceIsLine]
  · rw [List.flatMap_map] at inFunctions
    obtain ⟨method, methodMember, inFunction⟩ := List.mem_flatMap.mp inFunctions
    have methodIsLine := methodsAreLines method methodMember
    simp only [functionLines, List.mem_cons, List.not_mem_nil, or_false] at inFunction
    rcases inFunction with rfl | rfl | rfl <;> simp +decide [methodIsLine]

end Lines

theorem bindingFile_congr (root : Option String) (fileName : String)
    {service other : Schema.Service} (sameName : other.name = service.name)
    (sameMethods : other.methods.map (·.name) = service.methods.map (·.name)) :
    bindingFile fileName other root = bindingFile fileName service root := by
  rw [bindingFile, bindingFile, bindingLines, bindingLines, sameName, sameMethods]

/-- A binding can always be generated.  Without the blank lines it consists of one line each for the
import, the class, the constructor and the connection, and of two lines for each method in order.
Services with the same name and the same names of methods have the same binding. -/
theorem binding_lists_every_method (root : Option String) (fileName : String)
    (service : Schema.Service) :
    ∃ library file stem, Template.Library.standard = .ok library ∧
      binding library root fileName service = .ok file ∧
      Path.IsStem fileName stem ∧
      (IsLine fileName → IsLine service.name →
        (∀ method ∈ service.methods, IsLine method.name) →
          readLines file.content = writtenLines stem service) ∧
      ∀ other : Schema.Service, other.name = service.name →
        other.methods.map (·.name) = service.methods.map (·.name) →
          binding library root fileName other = .ok file := by
  obtain ⟨stem, isStem⟩ := Path.exists_isStem fileName
  refine ⟨Template.standardLibrary, bindingFile fileName service root, stem, Template.standard_eq,
    binding_standard fileName service root, isStem, ?_, ?_⟩
  · intro fileIsLine serviceIsLine methodsAreLines
    have areLines := isLine_of_mem_bindingLines fileIsLine serviceIsLine methodsAreLines
    rw [bindingFile, readLines, Text.lines_ofLines areLines, List.filter_append,
      filter_bindingLines isStem]
    exact List.append_nil _
  · intro other sameName sameMethods
    rw [binding_standard, bindingFile_congr root fileName sameName sameMethods]

theorem binding_lists_every_method_events :
    let append : Schema.Method := ⟨"Append", ⟨"store.Event"⟩, ⟨"store.Receipt"⟩, false, false⟩
    let follow : Schema.Method := ⟨"Follow", ⟨"store.Query"⟩, ⟨"store.Event"⟩, false, true⟩
    let streamed : Schema.Method := ⟨"Append", ⟨"store.Event"⟩, ⟨"store.Batch"⟩, true, false⟩
    ∃ library file, Template.Library.standard = .ok library ∧
      binding library none "acme/.v1/event-store.v1.proto" ⟨"Events", [append, follow]⟩ =
        .ok file ∧
      readLines file.content =
        ["from . import event_store.v1_pb2_grpc as importStub",
          "class EventsService(object):",
          "    def __init__(self, router):",
          "        self.connector = router.get_connection(EventsService, importStub.EventsStub)",
          "    def Append(self, request, timeout=None, properties=None):",
          "        return self.connector.create_request('Append', request, timeout, properties)",
          "    def Follow(self, request, timeout=None, properties=None):",
          "        return self.connector.create_request('Follow', request, timeout, properties)"] ∧
      binding library none "acme/.v1/event-store.v1.proto" ⟨"Events", [streamed, follow]⟩ =
        .ok file := by
  intro append follow streamed
  obtain ⟨library, file, stem, isStandard, generated, isStem, written, same⟩ :=
    binding_lists_every_method none "acme/.v1/event-store.v1.proto" ⟨"Events", [append, follow]⟩
  have stemIs : stem = "event-store.v1" :=
    isStem.snd_directoryAndStem.symm.trans (by decide)
  have methodsAreLines : ∀ method ∈ [append, follow], IsLine method.name := by decide
  refine ⟨library, file, isStandard, generated, ?_, same ⟨"Events", [streamed, follow]⟩ rfl rfl⟩
  rw [written (by decide) (by decide) methodsAreLines, stemIs]
  rfl

end Python

end ServiceBindings
