import DocHarvest.Module.Scope
import DocHarvest.Param.Guess
import DocHarvest.Param.Parse

/-!
# Drafts of records

A record is made of a node, the tags of its comment and the scope. Tags come first; the shape of
the node is asked where no tag says anything. The functions here give the fields that every
category fills in the same way and the typed fields that several categories share.
-/

namespace DocHarvest

/-- What a record is made of. -/
structure Draft where
  scope : Scope
  links : Links
  id : Int
  node : Node
  tags : List Tag

namespace Draft

/-- The tags that records know; all others are kept aside. -/
def knownTags : List String := [
  "@_undocument", "@abstract", "@access", "@deprecated", "@desc", "@emits", "@example",
  "@experimental", "@extends", "@external", "@ignore", "@implements", "@interface", "@listens",
  "@override", "@param", "@private", "@property", "@protected", "@public", "@return", "@returns",
  "@see", "@since", "@test", "@throws", "@todo", "@type", "@typedef", "@version"]

/-- Whether a tag is present. -/
def has (draft : Draft) (name : String) : Bool :=
  (Tag.last? [name] draft.tags).isSome

/-- The value of the last tag of a name. -/
def value? (draft : Draft) (name : String) : Option String :=
  Tag.lastValue? [name] draft.tags

/-- The values of all tags of a name. -/
def values? (draft : Draft) (name : String) : Option (List String) :=
  Tag.values? [name] draft.tags

/-- The access to an entity: by tags, or private for a name that starts with an underscore. -/
def access (draft : Draft) (name : Option String) : String :=
  match (draft.value? "@access").filter (!·.isEmpty) with
  | some access => access
  | none =>
      match Tag.last? ["@public", "@protected", "@private"] draft.tags with
      | some tag => String.ofList (Text.dropFirst '@' tag.name.toList)
      | none =>
          if ['_'].isPrefixOf (name.getD "").toList then "private" else "public"

/-- The remark that the last tag of a name makes. -/
def notice (draft : Draft) (name : String) : Notice :=
  match draft.value? name with
  | none => .absent
  | some text => if text.isEmpty then .present else .worded text

/-- The tags that records do not know. -/
def unknown? (draft : Draft) : Option (List Tag) :=
  match draft.tags.filter fun tag => !knownTags.contains tag.name with
  | [] => none
  | tags => some tags

/-- The full name of an entity, which is its name where it is no member of anything. -/
def longname (memberof name : Option String) (static : Bool) : Option String :=
  match memberof with
  | none => name
  | some memberof => some (longnameOf memberof name static)

/-- The fields that records of files have. -/
def fileDoc (draft : Draft) (category : Category) (name memberof : Option String)
    (static : Bool) : Doc :=
  { id := draft.id
    category
    moduleId := draft.scope.moduleId
    filePath := draft.scope.filePath
    name
    memberof
    static
    longname := longname memberof name static
    access := some (draft.access name)
    description := draft.value? "@desc" }

/-- The fields that records of all entities inside a module have. -/
def doc (draft : Draft) (category : Category) (name : Option String) (memberof : String)
    (static : Bool) : Doc :=
  { draft.fileDoc category name (some memberof) static with
    line := draft.node.line?
    examples := draft.values? "@example"
    see := draft.values? "@see"
    since := draft.value? "@since"
    version := draft.value? "@version"
    deprecated := draft.notice "@deprecated"
    experimental := draft.notice "@experimental"
    todo := draft.values? "@todo"
    ignored := draft.has "@ignore"
    undocumented := draft.has "@_undocument"
    unknown := draft.unknown? }

/-- Whether an export is around a node, and the import style that it gives a name. -/
def exportStyle? (draft : Draft) (name : Option String) : Option (Option String) :=
  (draft.links.ancestors draft.node.id).findSome? fun ancestor =>
    match ancestor.shape with
    | .exportNamed .. => some (some ("\x7b" ++ Text.orNone name ++ "\x7d"))
    | .exportDefault _ => some none
    | _ => none

/-- The fields of records of declarations at the level of the module. -/
def moduleDoc (draft : Draft) (category : Category) (name : Option String) : Doc :=
  let style := draft.exportStyle? name
  { draft.doc category name draft.scope.filePath true with
    exported := style.isSome
    importStyle := style.join }

/-- The parameters that all tags of a name describe. -/
def paramsOf (draft : Draft) (tag : String) (named : Bool) : Except Fault (Option (List Param)) :=
  match draft.values? tag with
  | none => .ok none
  | some values =>
      some <$> values.mapM (Param.parse { type := true, name := named, description := true })

/-- The parameters that tags describe, or else a guess. -/
def paramsOr (draft : Draft) (guess : Except Fault (List Param)) : Except Fault (List Param) := do
  match ← draft.paramsOf "@param" true with
  | some params => return params
  | none => guess

/-- The result that a tag describes. -/
def resultOf (draft : Draft) : Except Fault (Option Param) :=
  match Tag.lastValue? ["@return", "@returns"] draft.tags with
  | none => .ok none
  | some value => some <$> Param.parse { type := true, name := false, description := true } value

/-- The type that a tag describes. -/
def typeOf (draft : Draft) : Except Fault (Option Param) :=
  match draft.value? "@type" with
  | none => .ok none
  | some value => some <$> Param.parse { type := true, name := false, description := false } value

/-- The type that a tag describes, or else a guess. -/
def typeOr (draft : Draft) (guess : Except Fault (Option Param)) :
    Except Fault (Option Param) := do
  match ← draft.typeOf with
  | some type => return some type
  | none => guess

/-- The parameters that a node lists. -/
def paramNodes (node : Node) : List Node :=
  match node.shape with
  | .function _ _ params _ _ _ => params
  | .arrow params _ _ _ => params
  | .method _ _ params _ _ _ _ _ _ => params
  | .objectMethod _ params _ => params
  | _ => []

/-- The body of a function, a method or a class. -/
def bodyNode? (node : Node) : Option Node :=
  match node.shape with
  | .function _ _ _ body _ _ => body
  | .arrow _ body _ _ => body
  | .method _ _ _ body _ _ _ _ _ => body
  | .objectMethod _ _ body => body
  | .classLike _ _ _ _ body => some body
  | _ => none

/-- The result that the body of a node makes; a bare list of statements is no body. -/
def guessedResult (node : Node) : Except Fault (Option Param) :=
  if node.shape.statements?.isSome then .error .looseBody
  else Param.guessResult (bodyNode? node)

/-- The result that a tag describes, or else a guess. -/
def resultOr (draft : Draft) (guess : Except Fault (Option Param)) :
    Except Fault (Option Param) := do
  match ← draft.resultOf with
  | some result => return some result
  | none => guess

/-- Whether a node is asynchronous. -/
def isAsync (node : Node) : Bool :=
  match node.shape with
  | .function _ _ _ _ async _ => async
  | .arrow _ _ async _ => async
  | .method _ _ _ _ _ _ _ async _ => async
  | _ => false

/-- Whether a node is a generator. -/
def isGenerator (node : Node) : Bool :=
  match node.shape with
  | .function _ _ _ _ _ generator => generator
  | .arrow _ _ _ generator => generator
  | .method _ _ _ _ _ _ _ _ generator => generator
  | _ => false

/-- A text without `this.` in front. -/
def withoutThis (text : String) : String :=
  let mark := "this.".toList
  match mark.isPrefixOf? text.toList with
  | some rest => String.ofList rest
  | none => text

end Draft

end DocHarvest
