import DocHarvest.Doc.Fields

/-!
# The store of records

Records in the order in which they were stored, and the next id to be given out. An id is stored
at most once.
-/

namespace DocHarvest

/-- Stored records and the next id. -/
structure Store where
  docs : List Doc := []
  nextId : Int := 0

namespace Store

/-- The record of an id. -/
def get? (store : Store) (id : Int) : Option Doc :=
  store.docs.find? fun doc => doc.id == id

/-- The record whose id a value equals; a list or an object cannot be compared with ids. -/
def getBy (store : Store) (key : Value) : Except Fault (Option Doc) :=
  match key with
  | .list _ | .object _ => .error (.notAnId key.kindName)
  | .null | .boolean _ | .integer _ | .real _ | .text _ =>
      match key.asNumeral? with
      | some (.inl id) => .ok (store.get? id)
      | _ => .ok none

/-- Gives out the next id. -/
def draw (store : Store) : Int × Store :=
  (store.nextId, { store with nextId := store.nextId + 1 })

/-- Stores a record that passes the filter, and says whether it did. -/
def insert (store : Store) (filter : Option Doc.Filter) (doc : Doc) :
    Except Fault (Bool × Store) := do
  let passes ← match filter with
    | none => pure true
    | some filter => filter doc
  if !passes then
    return (false, store)
  if (store.get? doc.id).isSome then
    throw (.duplicateId doc.id)
  return (true, { store with docs := store.docs ++ [doc] })

/-- The records that fit a query; members of the query that are null ask for nothing. -/
def find (store : Store) (query : List (String × Value)) : Except Fault (List Doc) :=
  let asked := query.filter fun member => !member.2.isNull
  store.docs.filterM fun doc => doc.fits asked

/-- The first record of a category and a name in a file. -/
def lookup? (store : Store) (category : Category) (name filePath : String) : Option Doc :=
  if name.isEmpty then none
  else
    store.docs.find? fun doc =>
      doc.category == category && doc.name == some name && doc.filePath == filePath

/-- Changes the record of an id. -/
def modify (store : Store) (id : Int) (change : Doc → Doc) : Store :=
  { store with docs := store.docs.map fun doc => if doc.id == id then change doc else doc }

end Store

end DocHarvest
