import ServiceBindings.Error
import ServiceBindings.Template.Nesting
import ServiceBindings.Template.Rendering

/-!
# Template libraries

Templates by name.  The standard library holds the templates of everything that is generated
from more than one line.
-/

namespace ServiceBindings.Template

/-- Templates by name. -/
abbrev Library := Dictionary Template

namespace Library

/-- Adds a template in the place of an older one of its name.  Where there is no template,
because its text is malformed, the library refuses. -/
def add (library : Library) (name : String) (template? : Option Template) :
    Except GenerationError Library :=
  match template? with
  | some template => .ok (library.insert name template)
  | none => .error (.template name "failed to register: malformed template")

/-- Adds the template with a text. -/
def register (library : Library) (name text : String) : Except GenerationError Library :=
  library.add name (Template.parse? text)

/-- The error of a rendering of the named template. -/
def failureError (name : String) (failure : Failure) : GenerationError :=
  .template name ("Error rendering \"" ++ name ++ "\" line " ++
    toString failure.position.line ++ ", col " ++ toString failure.position.column ++ ": " ++
    failure.cause.message)

/-- Fills the template of a name. -/
def render (library : Library) (name : String) (data : Json.Value) :
    Except GenerationError String :=
  match library.find? name with
  | none => .error (.template name ("Template not found " ++ name))
  | some template => (template.render data).mapError (failureError name)

end Library

/-- A piece of a template text. -/
inductive Piece where
  | plain (text : String)
  /-- The content of a tag. -/
  | tag (content : String)
deriving DecidableEq, Repr

/-- The characters of a piece. -/
def Piece.characters : Piece → List Char
  | plain text => text.toList
  | tag content => '{' :: '{' :: (content.toList ++ ['}', '}'])

/-- The characters of lines, each with its line break. -/
def ofLines (lines : List (List Piece)) : List Char :=
  lines.flatMap fun line => line.flatMap Piece.characters ++ ['\n']

/-- The name of the template of contracts. -/
def contractName : String := "java/contract"

/-- The name of the template of default implementations. -/
def implementationName : String := "java/default_impl"

/-- The name of the template of Python bindings. -/
def bindingName : String := "python/service"

/-- The text of the template of a contract: an interface with one declaration for every way
to call a method. -/
def contractText : List Char := ofLines
  [[.tag "#if namespace"],
    [.plain "package ", .tag "namespace", .plain ";"],
    [],
    [.tag "/if"],
    [.plain "public interface ", .tag "class_name", .plain " \x7b"],
    [.tag "#each methods"],
    [],
    [.plain "    ", .tag "declaration", .plain ";"],
    [.tag "/each"],
    [.plain "\x7d"]]

/-- The text of the template of a default implementation: a class that answers every
declaration by a call of a stub. -/
def implementationText : List Char := ofLines
  [[.tag "#if namespace"],
    [.plain "package ", .tag "namespace", .plain ";"],
    [],
    [.tag "/if"],
    [.plain "public class ", .tag "class_name", .plain " extends ", .tag "base_class",
      .plain " implements ", .tag "contract", .plain " \x7b"],
    [],
    [.plain "    public ", .tag "class_name", .plain "(", .tag "retry_policy",
      .plain " retryConfiguration, ", .tag "stub_storage", .plain " serviceConfiguration) \x7b"],
    [.plain "        super(retryConfiguration, serviceConfiguration);"],
    [.plain "    \x7d"],
    [.tag "#each methods"],
    [],
    [.plain "    @java.lang.Override"],
    [.plain "    public ", .tag "declaration", .plain " \x7b"],
    [.tag "#each body"],
    [.plain "        ", .tag "this"],
    [.tag "/each"],
    [.plain "    \x7d"],
    [.tag "/each"],
    [],
    [.plain "    @java.lang.Override"],
    [.plain "    protected ", .tag "stub_class",
      .plain " createStub(io.grpc.Channel channel, io.grpc.CallOptions callOptions) \x7b"],
    [.plain "        return ", .tag "grpc_class", .plain ".", .tag "stub_factory",
      .plain "(channel);"],
    [.plain "    \x7d"],
    [.plain "\x7d"]]

/-- The text of the template of a Python binding: a class with one function for every
method. -/
def bindingText : List Char := ofLines
  [[.plain "from . import ", .tag "module", .plain "_pb2_grpc as importStub"],
    [],
    [],
    [.plain "class ", .tag "class_name", .plain "(object):"],
    [],
    [.plain "    def __init__(self, router):"],
    [.plain "        self.connector = router.get_connection(", .tag "class_name",
      .plain ", importStub.", .tag "stub_name", .plain ")"],
    [.tag "#each methods"],
    [],
    [.plain "    def ", .tag "this", .plain "(self, request, timeout=None, properties=None):"],
    [.plain "        return self.connector.create_request('", .tag "this",
      .plain "', request, timeout, properties)"],
    [.tag "/each"]]

/-- The templates of everything that is generated. -/
def Library.standard : Except GenerationError Library := do
  let library ← Library.add .empty contractName (Template.ofCharacters? contractText)
  let library ←
    library.add implementationName (Template.ofCharacters? implementationText)
  library.add bindingName (Template.ofCharacters? bindingText)

end ServiceBindings.Template
