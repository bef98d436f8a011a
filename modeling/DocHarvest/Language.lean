import DocHarvest.Fault
import DocHarvest.Path.Basic
import DocHarvest.Text.Case

/-!
# Languages

The language of a source is named, or told from the extension of its file. Only one language is
supported, under several names.
-/

namespace DocHarvest.Language

/-- The language that is supported, which is also the default. -/
def javascript : String := "javascript"

/-- Names of the supported language. -/
def aliases : List String := ["cjs", "javascript", "js", "jsx", "mjs"]

/-- Extensions of files in the supported language. -/
def extensions : List String := [".cjs", ".js", ".jsx", ".mjs"]

/-- The language of a name, whatever its case and the whitespace around it. -/
def normalize (name : String) : Except Fault String :=
  if aliases.contains (Text.lower (String.ofList (Text.trim name.toList))) then .ok javascript
  else .error (.unsupportedLanguage name)

/-- The language of a file, by its extension. -/
def detect (path : Path) : Except Fault String :=
  let extension := Text.lower path.extension
  if extensions.contains extension then .ok javascript
  else .error (.unsupportedExtension extension)

/-- The language of a source: by name, or else by path. -/
def resolve (name : Option String) (path : Option Path) : Except Fault String :=
  match name.filter (!·.isEmpty), path with
  | some name, _ => normalize name
  | none, some path => detect path
  | none, none => .error .languageUnknown

/-- The file name of a source that has no path of its own. -/
def defaultFileName (language stem : String) : String :=
  stem ++ (if language == javascript then ".js" else ".txt")

/-- The stem of the file name of a source that has no path of its own. -/
def defaultStem : String := "memory"

end DocHarvest.Language
