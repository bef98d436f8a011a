import DocHarvest.Proofs.Module.Stages
import Mathlib.Data.List.Forall2

/-!
# What deferred exports name

A deferred export names entities of the module, each by a category and a name. `Export.names` gives
them from the store as the walk leaves it, although every export is planned only after the ones
before it have been applied. The two agree because of what applying plans can do to the store, which
`Tracks` says: the records of the walk stay in place and in their categories, names and files, and
whatever is stored behind them has a name under which the walk has recorded nothing.
-/

namespace DocHarvest

open Run

namespace Export

/-- Whether a comment takes an export out. -/
def isIgnored (exportNode : Node) : Bool :=
  Tag.hasName (Comment.docTags exportNode.leading) "@ignore"

/-- A name in all categories in which exported names are looked up. -/
def namedAnywhere (name : String) : List (Category × String) :=
  lookupCategories.map fun category => (category, name)

/-- The class of an exported instance and the variable that holds it, if the class is recorded. -/
def namedInstance (scope : Scope) (store : Store) (className variableName : String) :
    List (Category × String) :=
  if (store.lookup? .moduleClass className scope.filePath).isSome then
    [(.moduleClass, className), (.moduleVariable, variableName)]
  else []

/-- What a default export names. -/
def namedDefault (scope : Scope) (store : Store) (declaration : Option Node) :
    List (Category × String) :=
  match declaration.map Node.shape with
  | some (.construct callee _) =>
      let className := Node.calleeName callee
      namedInstance scope store className (lowerFirst className)
  | some (.identifier name) =>
      let instances := match scope.program.findInstance? name with
        | some declared => namedInstance scope store (instanceClass declared) name
        | none => []
      instances ++ namedAnywhere name
  | _ => []

/-- What a declarator of a named export names. -/
def namedByDeclarator (declarator : Node) : List (Category × String) :=
  match declarator.initial?.bind Node.constructed? with
  | none => []
  | some callee =>
      let className := Node.calleeName callee
      let variableName := (declarator.bound?.bind Node.identifier?).getD ""
      (.moduleClass, className) ::
        if className.isEmpty || variableName.isEmpty then [] else [(.moduleVariable, variableName)]

/-- What a specifier of a named export names. -/
def namedBySpecifier (specifier : Node) : List (Category × String) :=
  match specifierNames? specifier with
  | none => []
  | some (name, _) => namedAnywhere name

/-- What a deferred export names, given the store as the walk leaves it. -/
def names (scope : Scope) (store : Store) (exportNode : Node) : List (Category × String) :=
  if isIgnored exportNode then []
  else
    match exportNode.shape with
    | .exportDefault declaration => namedDefault scope store declaration
    | .exportNamed declaration specifiers origin =>
        ((declaration.bind Node.declarators?).getD []).flatMap namedByDeclarator ++
          if origin.isSome then [] else specifiers.flatMap namedBySpecifier
    | _ => []

end Export

/-- A record of a variable that the walk has recorded nothing for. -/
def Doc.IsCompanion (filePath : String) (base : Store) (doc : Doc) : Prop :=
  doc.category = .moduleVariable ∧
    ∃ name, doc.name = some name ∧ base.lookup? .moduleVariable name filePath = none

/-- One of some names is the name of the record of an id. -/
def Store.Refers (base : Store) (filePath : String) (names : List (Category × String))
    (id : Int) : Prop :=
  ∃ category name doc, (category, name) ∈ names ∧
    base.lookup? category name filePath = some doc ∧ doc.id = id

/--
A store that has come from another one by marking records as exported, and by adding records of
variables that the other one knows nothing of.
-/
structure Tracks (filePath : String) (base : Store) (marked : Int → Prop) (store : Store) :
    Prop where
  distinct : (store.docs.map Doc.id).Nodup
  docs : ∃ kept added, store.docs = kept ++ added ∧
    List.Forall₂ (fun old new => new.outline = old.outline ∧
      (new.exported = true ↔ old.exported = true ∨ marked old.id)) base.docs kept ∧
    ∀ doc ∈ added, doc.IsCompanion filePath base

namespace Tracks

variable {filePath : String} {base store : Store} {marked : Int → Prop}

theorem start (distinct : (base.docs.map Doc.id).Nodup) :
    Tracks filePath base (fun _ => False) base where
  distinct := distinct
  docs := by
    refine ⟨base.docs, [], by simp, ?_, by simp⟩
    rw [List.forall₂_same]
    intro doc _
    simp

theorem congr (tracks : Tracks filePath base marked store) {others : Int → Prop}
    (same : ∀ id ∈ base.docs.map Doc.id, (marked id ↔ others id)) :
    Tracks filePath base others store where
  distinct := tracks.distinct
  docs := by
    rcases tracks.docs with ⟨kept, added, stored, pairs, companions⟩
    refine ⟨kept, added, stored, ?_, companions⟩
    have areOld : ∀ old ∈ base.docs, old.id ∈ base.docs.map Doc.id :=
      fun old isOld => List.mem_map_of_mem isOld
    refine ((List.forall₂_and_left _ _).2 ⟨areOld, pairs⟩).imp ?_
    rintro old new ⟨isOld, outline, exported⟩
    refine ⟨outline, ?_⟩
    rw [exported, same old.id isOld]

theorem outlines_eq {olds kept : List Doc} {also : Doc → Doc → Prop}
    (pairs : List.Forall₂ (fun old new => new.outline = old.outline ∧ also old new) olds kept) :
    kept.map Doc.outline = olds.map Doc.outline := by
  symm
  rw [← List.forall₂_eq_eq_eq, List.forall₂_map_left_iff, List.forall₂_map_right_iff]
  exact pairs.imp fun old new pair => pair.1.symm

end Tracks

namespace Store

variable {category : Category} {name filePath : String}

theorem lookup?_append (kept added : List Doc) (nextId : Int) :
    (⟨kept ++ added, nextId⟩ : Store).lookup? category name filePath =
      ((⟨kept, nextId⟩ : Store).lookup? category name filePath).or
        ((⟨added, nextId⟩ : Store).lookup? category name filePath) := by
  unfold lookup?
  split
  · rfl
  · simp only [List.find?_append]

theorem map_lookup?_of_outlines {left right : Store}
    (same : left.docs.map Doc.outline = right.docs.map Doc.outline) :
    (left.lookup? category name filePath).map Doc.outline =
      (right.lookup? category name filePath).map Doc.outline := by
  have through (store : Store) : (store.lookup? category name filePath).map Doc.outline =
      (⟨store.docs.map Doc.outline, 0⟩ : Store).lookup? category name filePath := by
    unfold lookup?
    split
    · rfl
    · simp only [List.find?_map]
      rfl
  rw [through, through, same]

theorem mem_of_lookup? {store : Store} {doc : Doc}
    (found : store.lookup? category name filePath = some doc) :
    doc ∈ store.docs ∧ doc.category = category ∧ doc.name = some name ∧ doc.filePath = filePath := by
  unfold lookup? at found
  split at found
  · cases found
  · have suits := List.find?_some found
    simp only [Bool.and_eq_true, beq_iff_eq] at suits
    exact ⟨List.mem_of_find?_eq_some found, suits.1.1, suits.1.2, suits.2⟩

end Store

namespace Tracks

variable {filePath : String} {base store : Store} {marked : Int → Prop}

/-- What the walk has recorded under a name is still found under it. -/
theorem lookup?_of_some (tracks : Tracks filePath base marked store) {category : Category}
    {name : String} {old : Doc} (found : base.lookup? category name filePath = some old) :
    ∃ new, store.lookup? category name filePath = some new ∧ new.id = old.id := by
  rcases tracks.docs with ⟨kept, added, stored, pairs, -⟩
  rcases store with ⟨docs, nextId⟩
  simp only at stored
  subst stored
  have same : ((⟨kept, nextId⟩ : Store).lookup? category name filePath).map Doc.outline =
      (base.lookup? category name filePath).map Doc.outline :=
    Store.map_lookup?_of_outlines (outlines_eq pairs)
  rw [found, Option.map_some] at same
  rcases Option.map_eq_some_iff.1 same with ⟨new, isFound, outline⟩
  refine ⟨new, ?_, Doc.id_eq_of_outline outline⟩
  rw [Store.lookup?_append, isFound]
  rfl

/-- Under a name that the walk has recorded nothing under, only new records are found. -/
theorem lookup?_of_none (tracks : Tracks filePath base marked store) {category : Category}
    {name : String} (missing : base.lookup? category name filePath = none) {new : Doc}
    (found : store.lookup? category name filePath = some new) :
    category = .moduleVariable ∧ new.id ∉ base.docs.map Doc.id := by
  rcases tracks.docs with ⟨kept, added, stored, pairs, companions⟩
  have distinct := tracks.distinct
  rcases store with ⟨docs, nextId⟩
  simp only at stored
  subst stored
  have same : ((⟨kept, nextId⟩ : Store).lookup? category name filePath).map Doc.outline =
      (base.lookup? category name filePath).map Doc.outline :=
    Store.map_lookup?_of_outlines (outlines_eq pairs)
  rw [missing, Option.map_none, Option.map_eq_none_iff] at same
  rw [Store.lookup?_append, same, Option.none_or] at found
  rcases Store.mem_of_lookup? found with ⟨isAdded, isCategory, -, -⟩
  constructor
  · rw [← isCategory]
    exact (companions new isAdded).1
  · intro isOld
    rw [← ids_eq_of_outlines (outlines_eq pairs)] at isOld
    rw [List.map_append, List.nodup_append] at distinct
    exact distinct.2.2 _ isOld _ (List.mem_map_of_mem isAdded) rfl

theorem isSome_lookup?_moduleClass (tracks : Tracks filePath base marked store) (name : String) :
    (store.lookup? .moduleClass name filePath).isSome =
      (base.lookup? .moduleClass name filePath).isSome := by
  cases recorded : base.lookup? .moduleClass name filePath with
  | some old =>
      rcases tracks.lookup?_of_some recorded with ⟨new, found, -⟩
      rw [found]
      rfl
  | none =>
      cases found : store.lookup? .moduleClass name filePath with
      | none => rfl
      | some new => cases (tracks.lookup?_of_none recorded found).1

end Tracks

end DocHarvest
