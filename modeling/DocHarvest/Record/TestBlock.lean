import DocHarvest.Record.Draft

/-!
# Records of test blocks

A test block is a call of one of a few functions. Blocks inside a block are its members, and a
block without a description is described by its title.
-/

namespace DocHarvest.Draft

/-- The functions that open a group of tests. -/
def groupFunctions : List String := ["describe", "context", "suite"]

/-- The functions that open a single test. -/
def caseFunctions : List String := ["it", "test"]

/-- The name of the function that a call calls; anything else has an empty name. -/
def blockFunction (node : Node) : String :=
  match node.shape with
  | .call callee _ => (callee.bind Node.identifier?).getD ""
  | _ => ""

/-- The kind of a test block. -/
def blockKind (node : Node) : Except Fault String :=
  let function := blockFunction node
  if groupFunctions.contains function then .ok "describe"
  else if caseFunctions.contains function then .ok "it"
  else .error (.unknownBlock function)

/-- The names of the blocks around a node, nearest first. -/
def enclosingBlocks (draft : Draft) : List String :=
  (draft.links.ancestors draft.node.id).filterMap fun ancestor => draft.links.names[ancestor.id]?

/-- What a test block is a member of: the blocks around it from the outside in, or the module. -/
def blockMemberof (draft : Draft) : String :=
  match draft.enclosingBlocks with
  | [] => draft.scope.filePath
  | blocks => draft.scope.filePath ++ "~" ++ Text.joinStrings "." blocks.reverse

/-- The title of a test block. -/
def blockTitle? (node : Node) : Option String :=
  match node.shape with
  | .call _ (first :: _) =>
      match first.literal? with
      | some (.text title) => some title
      | _ => none
  | _ => none

/-- The record of a test block. -/
def testBlock (draft : Draft) : Except Fault Doc := do
  let kind ← blockKind draft.node
  let name := draft.links.names[draft.node.id]?
  let doc := draft.doc .test name draft.blockMemberof true
  return { doc with
    testKind := some kind
    testDepth := some (draft.enclosingBlocks.length : Int)
    description := doc.description.or (blockTitle? draft.node)
    testTargets := draft.values? "@test" }

end DocHarvest.Draft
