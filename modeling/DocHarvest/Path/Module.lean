import DocHarvest.Fault
import DocHarvest.Path.Specifier
import DocHarvest.Text.Case
import DocHarvest.Text.Word

/-!
# Paths of modules

A module is named by its path from the root of its project, or by its absolute path if it lies
outside. Imports that start with a point are resolved against the directory of the module that
imports.
-/

namespace DocHarvest

/-- The place of a module: the root of its project and the path of its file. -/
structure ModulePath where
  root : Path
  absolute : Path
deriving DecidableEq, Repr

namespace ModulePath

/-- The place of a module, from texts and the working directory. -/
def of (workingDirectory : Path) (root file : String) : Except Fault ModulePath :=
  let given := Path.ofText root
  if given.hasNull then .error .nullInPath
  else
    let root := Path.resolve workingDirectory given
    .ok ⟨root, root.append (Path.ofText file)⟩

/-- The path that names a module. A path that no file can have is not resolved. -/
def filePath (module : ModulePath) : String :=
  let resolved := Path.resolve module.root module.absolute
  let relative := if module.absolute.hasNull then none else Path.relativeTo? module.root resolved
  (relative.getD module.absolute).toText

/-- The path under which a module is imported from a package. -/
def importPath (package : Option String) (filePath : String) : String :=
  match package with
  | none => filePath
  | some package =>
      if package.isEmpty then filePath
      else String.ofList (Path.Specifier.append package.toList filePath.toList)

/-- The path that an import in a module names. -/
def resolveImport (filePath specifier : String) : String :=
  let text := specifier.toList
  if ['.'].isPrefixOf text then
    let joined := Path.Specifier.append (Path.Specifier.directory filePath.toList) text
    let normal := Path.Specifier.normalize joined
    String.ofList (if Path.Specifier.hasExtension normal then normal else normal ++ ".js".toList)
  else specifier

/-- Drops every hyphen that a word character follows, and raises that character. -/
def joinHyphens : List Char → List Char
  | [] => []
  | '-' :: next :: rest =>
      if Text.isWord next then Text.upperChar next ++ joinHyphens rest
      else '-' :: joinHyphens (next :: rest)
  | character :: rest => character :: joinHyphens rest

/-- An identifier made of a file name, such as `fooBar` of `src/foo-bar.js`. -/
def nameOf (filePath : String) : String :=
  let fileName := Path.Specifier.fileName filePath.toList
  String.ofList (joinHyphens (fileName.takeWhile (· != '.')))

end ModulePath

end DocHarvest
