import ServiceBindings.Command.Arguments

/-!
# Help and completions

The texts that tell how the program is used.
-/

namespace ServiceBindings.Command

/-- The name of the program. -/
def programName : String := "protoc-gen-svcgen"

/-- The name and version of the program. -/
def versionText : String := programName ++ " 0.1.0\n"

/-- How the program is used. -/
def helpText : String :=
  String.intercalate "\n"
    ["Generates service bindings for protobuf services",
      "",
      "Usage: " ++ programName ++ " [OPTIONS] [COMMAND]",
      "",
      "Without a command, a request for code is read from standard input.",
      "",
      "Commands:",
      "  scan SOURCE OUTPUT [OPTION]...  Generate for every descriptor set in a directory",
      "  inspect FILE                    Show every service method with its calling shapes",
      "  completions SHELL               Print a completion script",
      "  help [COMMAND]                  Print this help",
      "",
      "Options:",
      "  -v, --verbose          Enable verbose logging",
      "      --format <FORMAT>  Output format (json, text, pretty)",
      "  -h, --help             Print help",
      "  -V, --version          Print version",
      ""]

/-- The names of all commands with blanks between them. -/
def commandNames : String := "scan inspect completions help"

/-- A script that makes a shell complete the names of commands. -/
def completionScript (shell : String) : String :=
  match shell with
  | "bash" => "complete -W '" ++ commandNames ++ "' " ++ programName ++ "\n"
  | "fish" => "complete -c " ++ programName ++ " -f -a '" ++ commandNames ++ "'\n"
  | "zsh" =>
    "#compdef " ++ programName ++ "\n_arguments '1:command:(" ++ commandNames ++ ")'\n"
  | "powershell" =>
    "Register-ArgumentCompleter -Native -CommandName '" ++ programName ++
      "' -ScriptBlock \x7b -split '" ++ commandNames ++ "' \x7d\n"
  | _ =>
    "set edit:completion:arg-completer[" ++ programName ++ "] = \x7b|@words| all [" ++
      commandNames ++ "] \x7d\n"

end ServiceBindings.Command
