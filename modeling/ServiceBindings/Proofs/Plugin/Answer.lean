import ServiceBindings.Proofs.Plugin

/-!
# All files or one error

The response to a request holds the text of one error or all generated files, and never both.
The first descriptor that cannot be converted comes before everything else, whatever is selected;
a run on the converted files comes next.
-/

namespace ServiceBindings.Plugin

open Schema (File)
open Wire (Fields)

namespace Response

/-- The fields of a response that reports an error. -/
def errorFields (text : String) : Fields :=
  [(1, .text text), (2, .number supportedFeatures)]

/-- The fields of a response with generated files, each of which has a name and a content and no
other field. -/
def codeFields (code : GeneratedCode) : Fields :=
  (2, .number supportedFeatures) :: code.map fun file =>
    (15, .message [(1, .text file.path), (15, .text file.content)])

theorem toFields_error (text : String) : toFields ⟨some text, []⟩ = errorFields text := rfl

theorem toFields_code (code : GeneratedCode) : toFields ⟨none, code⟩ = codeFields code := by
  simp [toFields, codeFields, Fields.ofText?, Fields.ofMessages, List.map_map, Function.comp_def]

end Response

namespace Request

variable {request : Request} {files : List File}

/-- Whether files are the converted descriptors of a request, one for each, in order. -/
def Converts (request : Request) (files : List File) : Prop :=
  List.Forall₂ (fun descriptor file => descriptor.toSchema = .ok file) request.descriptors files

theorem toSchemas_eq_ok_iff :
    Descriptor.toSchemas request.descriptors = .ok files ↔ request.Converts files :=
  mapM_eq_ok_iff_forall₂

/-- How a request is answered, by the fields of the response. -/
inductive Answers (request : Request) : Fields → Prop where
  /-- A descriptor cannot be converted, and it is the first such one. -/
  | malformed {front rest : List Descriptor.File} {descriptor : Descriptor.File}
      {error : GenerationError} (isList : request.descriptors = front ++ descriptor :: rest)
      (converted : ∀ earlier ∈ front, ∃ file, earlier.toSchema = .ok file)
      (fails : descriptor.toSchema = .error error) :
      Answers request (Response.errorFields error.message)
  /-- All descriptors are converted, but there is no code for the selection. -/
  | failed {files : List File} {error : GenerationError} (converts : request.Converts files)
      (fails : Generation.runOptions request.options files request.selection = .error error) :
      Answers request (Response.errorFields error.message)
  /-- All descriptors are converted, and there is code for the selection. -/
  | generated {files : List File} {code : GeneratedCode} (converts : request.Converts files)
      (isCode : Generation.runOptions request.options files request.selection = .ok code) :
      Answers request (Response.codeFields code)

theorem toFields_respond_of_error {error : GenerationError}
    (failed : request.generate = .error error) :
    request.respond.toFields = Response.errorFields error.message := by
  rw [respond, failed]
  exact Response.toFields_error error.message

theorem toFields_respond_of_ok {code : GeneratedCode} (generated : request.generate = .ok code) :
    request.respond.toFields = Response.codeFields code := by
  rw [respond, generated]
  exact Response.toFields_code code

theorem generate_of_malformed {front rest : List Descriptor.File} {descriptor : Descriptor.File}
    {error : GenerationError} (isList : request.descriptors = front ++ descriptor :: rest)
    (converted : ∀ earlier ∈ front, ∃ file, earlier.toSchema = .ok file)
    (fails : descriptor.toSchema = .error error) : request.generate = .error error := by
  have notIngested : Descriptor.toSchemas request.descriptors = .error error :=
    mapM_eq_error_iff.mpr ⟨front, descriptor, rest, isList, converted, fails⟩
  rw [generate, notIngested]
  rfl

theorem generate_of_converts (converts : request.Converts files) :
    request.generate = Generation.runOptions request.options files request.selection := by
  rw [generate, toSchemas_eq_ok_iff.mpr converts]
  rfl

/-- Every request has exactly one answer, and that is the response to it. -/
theorem answers_iff (request : Request) (fields : Fields) :
    request.Answers fields ↔ fields = request.respond.toFields := by
  constructor
  · intro answers
    cases answers with
    | malformed isList converted fails =>
        exact (toFields_respond_of_error (generate_of_malformed isList converted fails)).symm
    | failed converts fails =>
        exact (toFields_respond_of_error ((generate_of_converts converts).trans fails)).symm
    | generated converts isCode =>
        exact (toFields_respond_of_ok ((generate_of_converts converts).trans isCode)).symm
  · intro isResponse
    subst isResponse
    cases ingested : Descriptor.toSchemas request.descriptors with
    | error error =>
        rcases mapM_eq_error_iff.mp ingested with ⟨_, _, _, isList, converted, fails⟩
        rw [toFields_respond_of_error (generate_of_malformed isList converted fails)]
        exact .malformed isList converted fails
    | ok files =>
        have converts := toSchemas_eq_ok_iff.mp ingested
        have sameRun := generate_of_converts converts
        cases isRun : Generation.runOptions request.options files request.selection with
        | error error =>
            rw [toFields_respond_of_error (sameRun.trans isRun)]
            exact .failed converts isRun
        | ok code =>
            rw [toFields_respond_of_ok (sameRun.trans isRun)]
            exact .generated converts isRun

end Request

end ServiceBindings.Plugin
