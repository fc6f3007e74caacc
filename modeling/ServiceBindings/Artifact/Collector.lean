import ServiceBindings.Artifact.Tree
import ServiceBindings.GeneratedCode

/-!
# Collecting artifacts

A collector takes artifacts one after the other and goes on when one cannot be added.  At the
end there is a tree only if all were added; otherwise the first error is reported.
-/

namespace ServiceBindings.Artifact

/-- An artifact that is offered to a collector. -/
structure Offer where
  given : GivenPath
  content : String
deriving DecidableEq, Repr

/-- The artifacts that were added, and the errors of those that were not, in order. -/
structure Collector where
  tree : Tree
  refusals : List ArtifactError
deriving DecidableEq

namespace Collector

/-- The collector that has seen no artifact. -/
def empty : Collector := ⟨.empty, []⟩

/-- Notes an artifact that cannot be added. -/
def refuse (collector : Collector) (error : ArtifactError) : Collector :=
  { collector with refusals := collector.refusals ++ [error] }

/-- Takes an artifact. -/
def add (collector : Collector) (path content : String) : Collector :=
  match collector.tree.add path content with
  | .ok tree => { collector with tree }
  | .error error => collector.refuse error

/-- Takes an artifact whose path may be no text. -/
def take (collector : Collector) (offer : Offer) : Collector :=
  match offer.given.asText with
  | .ok path => collector.add path offer.content
  | .error error => collector.refuse error

/-- Takes several artifacts in order. -/
def takeAll (collector : Collector) (offers : List Offer) : Collector :=
  offers.foldl take collector

/-- Takes the files of generated code in order. -/
def addCode (collector : Collector) (code : GeneratedCode) : Collector :=
  code.foldl (fun collector file => collector.add file.path file.content) collector

/-- The tree of all artifacts, or the first error. -/
def build (collector : Collector) : Except ArtifactError Tree :=
  match collector.refusals with
  | error :: _ => .error error
  | [] => .ok collector.tree

end Collector

end ServiceBindings.Artifact
