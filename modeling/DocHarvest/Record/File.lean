import DocHarvest.Record.Draft

/-!
# Records of files

The record of the module itself. Its content is the source: from memory, or from the file where
there is one.
-/

namespace DocHarvest.Draft

/-- A record of the module with a content. -/
def whole (draft : Draft) (category : Category) (content : Option String) : Doc :=
  { draft.fileDoc category (some draft.scope.filePath) none true with content }

/-- The record of a file. -/
def file (draft : Draft) (category : Category) : Except Fault Doc := do
  return draft.whole category (← draft.scope.fileText)

/-- The record of a source in memory. -/
def memory (draft : Draft) : Doc :=
  draft.whole .memory draft.scope.code

/-- The record of a file of tests, which may be in memory. -/
def testFile (draft : Draft) : Except Fault Doc :=
  match draft.scope.code with
  | some code => .ok (draft.whole .testFile (some code))
  | none => draft.file .testFile

end DocHarvest.Draft
