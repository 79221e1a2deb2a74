import ScreenFlow.Naming.Words
import ScreenFlow.Project.Path

/-!
Names of files that a generated test refers to, and references to them: relative, with forward
slashes, and without the extension of a script file.
-/

namespace ScreenFlow.Dependency

def scriptExtensions : List String := [".js", ".ts", ".mjs", ".cjs"]

def hasScriptExtension (path : Path) : Bool :=
  scriptExtensions.contains path.suffix

def withoutExtension (path : Path) : Path :=
  if hasScriptExtension path then path.withoutSuffix else path

/-- A reference always starts with one or two dots and a slash. -/
def asReference (relative : Path) : String :=
  let text := (withoutExtension relative).toText
  if startsWith text "./" || startsWith text "../" then text else "./" ++ text

/-- The reference from a directory to a target, both seen from the working directory. -/
def reference (workingDirectory directory target : Path) : String :=
  asReference {
    parts := Path.relativeParts (directory.normalize workingDirectory).parts
      (target.normalize workingDirectory).parts }

/-- A file name without the extension of a script file. -/
def stripExtension (name : String) : String :=
  let path := Path.parse name
  if hasScriptExtension path then path.withoutSuffix.toText else name

/-- The spellings under which a file may be named after a target. -/
def nameVariants (target : String) : List String :=
  let stem := stripExtension (Path.parse (forwardSlashes target)).name
  [lowerText stem, lowerText (pascalCase stem), lowerText (camelCase stem)]

/-- A script file whose name, or its part before the first dot, is one of the variants. -/
def isNamed (variants : List String) (file : Path) : Bool :=
  hasScriptExtension file &&
    (variants.contains (lowerText file.stem) ||
      variants.contains
        (lowerText (String.ofList (Text.beforeFirst '.' file.stem.toList))))

end ScreenFlow.Dependency
