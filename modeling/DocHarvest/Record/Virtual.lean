import DocHarvest.Record.Draft

/-!
# Records of comments

Types that a comment defines and external things that a comment points to. They need no code.
-/

namespace DocHarvest.Draft

/-- The parts of the last tag of a name. -/
def partsOf (draft : Draft) (tag : String) (wanted : Param.Wanted) : Option Param.Parts :=
  (draft.value? tag).map (Param.split wanted)

/-- What a defined type is a member of: the nearest declared class with a name, or the module. -/
def typedefMemberof (draft : Draft) : String :=
  let declared := draft.links.findUp? draft.node.id fun
    | .classLike .declaration .. => true
    | _ => false
  match declared.bind Node.className? with
  | some name => draft.scope.filePath ++ "~" ++ name
  | none => draft.scope.filePath

/-- The record of a type that a comment defines. -/
def typedef (draft : Draft) : Except Fault Doc := do
  let parts := draft.partsOf "@typedef" { type := true, name := true, description := false }
  let type ← match parts.bind (·.type) with
    | none => pure none
    | some text => some <$> Param.ofParts (some text) none none
  let properties ← draft.paramsOf "@property" true
  return { draft.doc .virtualTypedef (parts.bind (·.name)) draft.typedefMemberof true with
    type
    properties }

/-- The record of an external thing that a comment points to. -/
def external (draft : Draft) : Doc :=
  let parts := draft.partsOf "@external" { type := true, name := false, description := true }
  { draft.doc .virtualExternal (parts.bind (·.type)) draft.scope.filePath true with
    externalLink := (parts.bind (·.description)).filter (!·.isEmpty) }

end DocHarvest.Draft
