import ServiceBindings.Artifact.Error
import ServiceBindings.Text.Segments
import ServiceBindings.Text.Utf8

/-!
# Artifact paths

The path of an artifact leads from the directory of all artifacts to the artifact itself: one
or more names with slashes between them, none of which leads elsewhere.
-/

namespace ServiceBindings.Artifact

/-- Whether a text is a name that leads into the directory where it is used. -/
def isName (component : String) : Bool :=
  !component.isEmpty && component != "." && component != ".."

/-- Whether a text is an artifact path. -/
def isPath (text : String) : Bool := (Text.segments '/' text).all isName

/-- A path as it is handed in: as a text, or as octets that may be no text. -/
inductive GivenPath where
  | text (text : String)
  | octets (octets : List UInt8)
deriving DecidableEq, Repr

/-- The path of an artifact. -/
structure Path where
  text : String
  isPath : isPath text = true
deriving DecidableEq, Repr

namespace Path

/-- The artifact path that a text is. -/
def ofText (text : String) : Except ArtifactError Path :=
  if text.isEmpty || text.toList.head? == some '/' then .error (.invalidPath text)
  else if valid : Artifact.isPath text = true then .ok ⟨text, valid⟩
  else .error (.invalidComponent text)

/-- The text of a path that is given by its octets. -/
def textOfOctets (octets : List UInt8) : Except ArtifactError String :=
  match Text.Utf8.decode? octets with
  | some text => .ok text
  | none => .error (.invalidPath (Text.Utf8.decodeLossy octets))

end Path

/-- The text of a path that is handed in. -/
def GivenPath.asText : GivenPath → Except ArtifactError String
  | text given => .ok given
  | octets given => Path.textOfOctets given

namespace Path

/-- The artifact path that is handed in. -/
def ofGiven (given : GivenPath) : Except ArtifactError Path :=
  given.asText.bind ofText

/-- The directory of an artifact, unless it is at the top. -/
def parent? (path : Path) : Option String :=
  (Text.cutLast? '/' path.text).map (·.1)

/-- The name of an artifact in its directory. -/
def fileName (path : Path) : String :=
  match Text.cutLast? '/' path.text with
  | some (_, last) => last
  | none => path.text

end Path

/-- The nonempty initial parts of a list that leave something out. -/
def properPrefixes {α : Type} : List α → List (List α)
  | [] | [_] => []
  | first :: rest => [first] :: (properPrefixes rest).map (first :: ·)

/-- The directories above an artifact with a path, the topmost one first. -/
def directoriesAbove (path : String) : List String :=
  (properPrefixes (Text.segments '/' path)).map (String.intercalate "/")

end ServiceBindings.Artifact
