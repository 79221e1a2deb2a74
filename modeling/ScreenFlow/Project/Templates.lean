import ScreenFlow.Project.Session
import ScreenFlow.Template.Reader
import ScreenFlow.Template.UnitTest

/-!
Templates by name.  A template that has been read is kept under its name and the place it comes
from; one that is missing or cannot be read is looked for again.
-/

namespace ScreenFlow

namespace TemplateSource

/-- The place as a message names it. -/
def text : TemplateSource → String
  | builtIn => "<TEMPLATES>"
  | directory path => path.toText

/-- The components of the name of a template; a name must not lead out of the directory. -/
def parts? (name : String) : Option (List String) :=
  let pieces := (Text.splitOn '/' name.toList).map String.ofList
  if pieces.contains ".." then none
  else some (pieces.filter fun piece => piece != "" && piece != ".")

def unitTestName : String := "unit-test.spec.js.j2"

/-- The template of a name as it is now. -/
def read (source : TemplateSource) (files : FileTree) (name : String) :
    Except Failure (List Template.Node) :=
  let missing := Failure.templateNotFound name source.text
  match parts? name, source with
  | none, _ => .error missing
  | some parts, .builtIn =>
      if parts = [unitTestName] then .ok Template.UnitTest.nodes else .error missing
  | some parts, .directory path =>
      match files.text? { path with parts := path.parts ++ parts } with
      | none => .error missing
      | some text =>
          match Template.read? text with
          | some nodes => .ok nodes
          | none => .error (.invalidTemplate name)

/-- The template of a name, read once. -/
def template (source : TemplateSource) (name : String) : Work (List Template.Node) := do
  let session ← get
  match session.templates.lookup (source, name) with
  | some known => return known
  | none =>
      let nodes ← Work.ofExcept (source.read session.files name)
      modify fun session =>
        { session with templates := ((source, name), nodes) :: session.templates }
      return nodes

/-- The text that a template gives for a context. -/
def emit (source : TemplateSource) (name : String) (context : Template.Context) : Work String := do
  Work.ofExcept (Template.render context (← source.template name))

/-- The place that is asked for, else the one the environment names, else the built-in one. -/
def choose (asked : Option String) : Work TemplateSource := do
  let session ← get
  match (asked.filter (· != "")).or (session.templatesDir.filter (· != "")) with
  | some path => return .directory (session.files.resolve (.parse path))
  | none => return .builtIn

end TemplateSource

end ScreenFlow
