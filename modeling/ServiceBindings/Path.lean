import ServiceBindings.Text.Segments

/-!
# Slash-separated paths

Paths of schema files and of generated files, as texts.
-/

namespace ServiceBindings.Path

/-- The parts of a file name: the directory before the last slash, and the base name up to
its last dot.  A dot in first place belongs to the base name, so that a hidden file keeps
its name. -/
def directoryAndStem (fileName : String) : String × String :=
  let (directory, base) := (Text.cutLast? '/' fileName).getD ("", fileName)
  match Text.cutLast? '.' base with
  | some (stem, _) => (directory, if stem.isEmpty then base else stem)
  | none => (directory, base)

/-- Joins segments with one slash between them.  Slashes at the ends of a segment are
dropped, and so are segments of which nothing remains. -/
def join (segments : List String) : String :=
  String.intercalate "/" ((segments.map (Text.trimBoth '/')).filter (!·.isEmpty))

end ServiceBindings.Path
