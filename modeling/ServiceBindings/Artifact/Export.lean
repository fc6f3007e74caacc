import ServiceBindings.Artifact.Collector
import ServiceBindings.Disk.Program

/-!
# Exporting artifacts

A tree is written below a base directory: first the directories, then file by file.  A file
is written beside its place and moved there when it is complete, so that an older file is
replaced as a whole or not at all.
-/

namespace ServiceBindings.Artifact

open Disk (Action Program joinPath)

/-- The text of a base directory with `~` for the home directory read as that directory. -/
def expandHome (home? : Option String) (base : String) : Except ArtifactError String :=
  match base.toList with
  | ['~'] => known fun home => home
  | '~' :: '/' :: rest => known fun home => joinPath home (String.ofList rest)
  | _ => .ok base
where
  /-- A path that depends on the home directory. -/
  known (expand : String → String) : Except ArtifactError String :=
    match home? with
    | some home => .ok (expand home)
    | none => .error (.disk base (.other "Cannot determine home directory"))

/-- Where a file is written before it is moved to its place. -/
def temporaryPath (path : String) : String := path ++ ".tmp"

/-- The actions that put a file in its place. -/
def fileActions (path content : String) : List Action :=
  [.write (temporaryPath path) (Text.Utf8.encode content), .rename (temporaryPath path) path]

/-- The actions that write a tree below a base directory. -/
def Tree.exportActions (tree : Tree) (base : String) : List Action :=
  if tree.isEmpty then []
  else
    .createDirectories base ::
      (tree.directories.map (fun directory => .createDirectories (joinPath base directory)) ++
        tree.contents.entries.flatMap fun entry =>
          fileActions (joinPath base entry.1) entry.2)

/-- Writes a tree below a base directory. -/
def Tree.exportTo (tree : Tree) (home? : Option String) (base : String) :
    Program (Except ArtifactError Unit) :=
  match expandHome home? base with
  | .error error => .done (.error error)
  | .ok base =>
    (Program.performAll (tree.exportActions base)).andThen fun failure? =>
      .done (match failure? with
        | none => .ok ()
        | some failure => .error (.disk failure.path failure.fault))

/-- Writes all collected artifacts below a base directory, which may be no text, unless there
was an error before. -/
def Collector.exportTo (collector : Collector) (home? : Option String)
    (base : Except ArtifactError String) : Program (Except ArtifactError Tree) :=
  match collector.build, base with
  | .error error, _ => .done (.error error)
  | .ok _, .error error => .done (.error error)
  | .ok tree, .ok base =>
    (tree.exportTo home? base).andThen fun result => .done (result.map fun _ => tree)

end ServiceBindings.Artifact
