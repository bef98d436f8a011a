import DocHarvest.Proofs.Module.Origins
import DocHarvest.Proofs.Module.Visits

/-!
# Records of declared classes

A class that a module declares, by itself or in an export that is not put aside, has a record when the
walk has come to its end: the statement is visited, and the visit documents the class at the top level.
-/

namespace DocHarvest

open Run

/-- A store with a record of a class of a file. -/
def Store.RecordsClass (filePath name : String) (store : Store) : Prop :=
  ∃ doc ∈ store.docs, doc.category = .moduleClass ∧ doc.name = some name ∧ doc.filePath = filePath

theorem Store.Grows.recordsClass {filePath name : String} {fits : Doc → Prop} {store larger : Store}
    (grows : store.Grows fits larger) (records : store.RecordsClass filePath name) :
    larger.RecordsClass filePath name := by
  rcases records with ⟨doc, isStored, category, named, inFile⟩
  rcases grows.exists_outline isStored with ⟨last, isKept, same⟩
  exact ⟨last, isKept, (Doc.category_eq_of_outline same).trans category,
    (Doc.name_eq_of_outline same).trans named, (congrArg Doc.filePath same :).trans inFile⟩

namespace Node

variable {program statement declared : Node} {name : String}

/-- A statement that declares a class, itself or as what it exports. -/
structure DeclaresClass (program statement declared : Node) (name : String) : Prop where
  isStatement : statement ∈ program.body
  unwrapped : statement.unwrapped? = some declared
  named : declared.declaredClass? = some name

theorem exists_declaresClass_of_findClass?
    (found : program.findClass? name true = some declared) :
    ∃ statement, program.DeclaresClass statement declared name := by
  unfold findClass? at found
  split at found
  · cases found
  · rcases List.exists_of_findSome?_eq_some found with ⟨statement, isStatement, picked⟩
    rcases Option.filter_eq_some_iff.1 picked with ⟨unwrapped, named⟩
    exact ⟨statement, isStatement, unwrapped, by simpa using named⟩

/-- A program whose statements are nothing but statements, and whose comments give no types. -/
structure IsUntyped (program : Node) : Prop where
  coherent : program.IsCoherent
  shallow : ∀ place ∈ program.places, ∀ statement ∈ program.body,
    place.node.id = statement.id → place.above.length = 1
  comments : ∀ place ∈ program.places, ∀ comment ∈
    place.node.leading ++ place.node.trailing ++ place.node.innerComments, comment.isDoc →
      comment.IsPlain ∧ ∀ tag ∈ comment.tags, tag.name ≠ "@type"

namespace DeclaresClass

theorem isProgram (declares : program.DeclaresClass statement declared name) : program.isProgram := by
  have isStatement := declares.isStatement
  unfold Node.body at isStatement
  unfold Node.isProgram
  split at isStatement
  · rfl
  · cases isStatement

theorem isWalked (declares : program.DeclaresClass statement declared name) :
    ⟨statement, [program]⟩ ∈ program.walked :=
  statement_mem_walked declares.isProgram declares.isStatement

theorem contains_statement (declares : program.DeclaresClass statement declared name) :
    program.Contains statement :=
  ⟨_, walked_subset_places declares.isWalked, rfl⟩

theorem contains (declares : program.DeclaresClass statement declared name) :
    program.Contains declared := by
  have unwrapped := declares.unwrapped
  unfold unwrapped? at unwrapped
  split at unwrapped
  · exact declares.contains_statement.exported unwrapped
  · cases unwrapped
    exact declares.contains_statement

/-- Wherever a statement stands, the program is all that is around it. -/
theorem above_eq (declares : program.DeclaresClass statement declared name)
    (untyped : program.IsUntyped) {place : Place} (isPlace : place ∈ program.places)
    (same : place.node.id = statement.id) : place.above = [program] := by
  rcases place with ⟨node, above⟩
  rcases List.length_eq_one_iff.1 (untyped.shallow _ isPlace _ declares.isStatement same) with
    ⟨outer, rfl⟩
  rw [eq_root_of_above_nil (outer_mem_places isPlace).1]

end DeclaresClass

theorem isClass_of_declaredClass? {node : Node} (declared : node.declaredClass? = some name) :
    node.className? = some name ∧ Draft.isClassExpression node = false := by
  unfold declaredClass? at declared
  split at declared
  · rename_i shape
    exact ⟨declared, by simp [Draft.isClassExpression, shape]⟩
  · cases declared

end Node

/-! ## Documenting a class -/

variable {scope : Scope} {statement declared outer : Node} {name : String}
  {before after : Progress}

theorem Draft.classNameOf_of_declared (links : Links)
    (named : declared.declaredClass? = some name) : classNameOf scope links declared = name := by
  rcases Node.isClass_of_declaredClass? named with ⟨className, isDeclaration⟩
  simp [classNameOf, className, isDeclaration]

namespace Run

/-- A class that counts at the top level is recorded under its name. -/
theorem document_declared (named : declared.declaredClass? = some name)
    (unfiltered : scope.filter = none) (top : scope.isTopLevel before.links declared)
    {comment : Comment} (plain : comment.IsPlain)
    (ended : Ends (document scope declared comment) before (.ok ()) after) :
    after.store.RecordsClass scope.filePath name := by
  have decided : (Decision.ofShape scope declared).run before =
      (some ⟨.moduleClass, declared⟩, before) := by
    have className := named
    unfold Node.declaredClass? at className
    split at className
    · rename_i shape
      simp only [Decision.ofShape, shape]
      change (if scope.isTopLevel before.links declared then _ else none, before) = _
      rw [if_pos top]
    · cases className
  rw [document_eq] at ended
  have rest := ends_lift_bind.1 ended
  rw [Decision.decide_run _ _ (Decision.ofTags?_eq_none plain), decided] at rest
  rcases ends_bind_ok.1 rest with ⟨stored, later, drawn, finished⟩
  rcases ends_pure.1 finished with ⟨-, rfl⟩
  rcases ends_drawnBuild unfiltered drawn with ⟨doc, messages, built, rfl⟩
  have heads := Draft.build_heads built
  refine ⟨doc, by simp, heads.category.resolve_right (by simp), ?_, heads.filePath⟩
  rw [Draft.name_of_build_moduleClass built]
  exact congrArg some (Draft.classNameOf_of_declared _ named)

/-- With plain comments, a class is recorded if it counts at the top level below its parent. -/
theorem documentComments_declared (named : declared.declaredClass? = some name)
    (unfiltered : scope.filter = none) (known : declared.id < before.nextNode)
    (parent : before.links.parentOf declared.id = some outer)
    (top : ∀ links : Links, links.parentOf declared.id = some outer →
      scope.isTopLevel links declared)
    {below : Option Node} {comments : List Comment}
    (plain : ∀ comment ∈ comments, comment.isDoc → comment.IsPlain)
    (ended : Ends (documentComments scope (some declared) below comments) before (.ok ()) after) :
    after.store.RecordsClass scope.filePath name := by
  rcases ends_documentComments plain ended with ⟨last, lastPlain, middle, aside, ran⟩
  refine document_declared named unfiltered (top _ ?_) lastPlain ran
  rw [Links.parentOf, aside.parents _ known]
  exact parent

end Run

namespace Node.IsUntyped

theorem plain {program : Node} (untyped : program.IsUntyped) {comment : Comment}
    (isComment : program.HasComment comment) (isDoc : comment.isDoc) : comment.IsPlain := by
  rcases isComment with ⟨node, ⟨place, isPlace, rfl⟩, isComment⟩
  exact (untyped.comments place isPlace comment isComment isDoc).1

end Node.IsUntyped

namespace Node.DeclaresClass

/-- A class that is exported is recorded below its export. -/
theorem unwrap (declares : scope.program.DeclaresClass statement declared name)
    (untyped : scope.program.IsUntyped) (unfiltered : scope.filter = none)
    (isExport : statement.shape.isExport) (known : declared.id < before.nextNode) {isLast : Bool}
    (ended : Ends (Export.unwrap scope statement isLast) before (.ok ()) after) :
    after.store.RecordsClass scope.filePath name := by
  have wrapped : statement.exported? = some declared := by
    simpa [unwrapped?, isExport] using declares.unwrapped
  unfold Export.unwrap at ended
  rw [wrapped] at ended
  dsimp only at ended
  have visited := ends_lift_bind.1 ended
  have linked := ends_lift_bind.1 visited
  rcases ends_bind_ok.1 linked with ⟨_, documented, leading, rest⟩
  have top (links : Links) (parent : links.parentOf declared.id = some statement) :
      scope.isTopLevel links declared := by
    simp only [Scope.isTopLevel, parent, isExport, if_true]
    exact List.any_eq_true.2 ⟨statement, declares.isStatement, by simp⟩
  have plain : ∀ comment ∈ declared.leading ++ statement.leading ++
      Export.decoratorComments declared, comment.isDoc → comment.IsPlain := by
    intro comment isComment
    refine untyped.plain ?_
    rcases List.mem_append.1 isComment with isLeading | isHoisted
    · rcases List.mem_append.1 isLeading with isOwn | isOuter
      · exact ⟨declared, declares.contains, by simp [isOwn]⟩
      · exact ⟨statement, declares.contains_statement, by simp [isOuter]⟩
    · exact .decorator declares.contains isHoisted
  have records : documented.store.RecordsClass scope.filePath name := by
    refine documentComments_declared declares.named unfiltered ?_ ?_ top plain leading
    · exact known
    · exact (Links.parentOf_setParent before.links _ _ _).trans (if_pos rfl)
  split at rest
  · exact ((documentComments_sound _ _ _ _).reaches rest).grows.recordsClass records
  · rcases ends_pure.1 rest with ⟨-, rfl⟩
    exact records

/-- A class that is a statement of its own is recorded below the program. -/
theorem documentNode (declares : scope.program.DeclaresClass declared declared name)
    (untyped : scope.program.IsUntyped) (unfiltered : scope.filter = none)
    (known : declared.id < before.nextNode)
    (parent : before.links.parentOf declared.id = some scope.program) {isLast : Bool}
    (ended : Ends (Module.documentNode scope declared (some scope.program) isLast) before (.ok ())
      after) : after.store.RecordsClass scope.filePath name := by
  rcases ends_bind_ok.1 ended with ⟨_, documented, leading, rest⟩
  have top (links : Links) (parent : links.parentOf declared.id = some scope.program) :
      scope.isTopLevel links declared := by
    simp only [Scope.isTopLevel, parent, isExport_of_isProgram declares.isProgram,
      Bool.false_eq_true, if_false]
    exact List.any_eq_true.2 ⟨declared, declares.isStatement, by simp⟩
  have plain : ∀ comment ∈ (if declared.leading.isEmpty then Export.decoratorComments declared
      else declared.leading), comment.isDoc → comment.IsPlain := by
    intro comment isComment
    refine untyped.plain ?_
    split at isComment
    · exact .decorator declares.contains isComment
    · exact ⟨declared, declares.contains, by simp [isComment]⟩
  have records : documented.store.RecordsClass scope.filePath name :=
    documentComments_declared declares.named unfiltered known parent top plain leading
  split at rest
  · exact ((documentComments_sound _ _ _ _).reaches rest).grows.recordsClass records
  · rcases ends_pure.1 rest with ⟨-, rfl⟩
    exact records

theorem enter (declares : scope.program.DeclaresClass statement declared name)
    (untyped : scope.program.IsUntyped) (unfiltered : scope.filter = none)
    (entered : Export.isDeferred scope.program statement = false)
    (below : scope.program.Below before.nextNode)
    (unvisited : before.visited.contains statement.id = false) {descent : Node.Descent}
    (ended : Ends (Module.enter scope statement (some scope.program)) before (.ok descent) after)
    (faultless : after.invalid = before.invalid) :
    after.store.RecordsClass scope.filePath name := by
  rw [Module.enter_eq] at ended
  have visited := Module.ends_guarded_of_invalid (Module.visit_sound scope _ _) ended faultless
  rcases ends_visit_of_entered entered visited with ⟨pushed, -⟩
  rcases ends_push pushed with ⟨isRoot | isVisited, -, -⟩ | ⟨-, documented⟩
  · exact absurd isRoot (Place.id_ne_of_above_ne_nil untyped.coherent
      (walked_subset_places declares.isWalked) (by simp))
  · cases unvisited.symm.trans isVisited
  · rcases declares.contains with ⟨place, isPlace, rfl⟩
    split at documented
    · rename_i isExport
      have known : place.node.id < (visiting before statement (some scope.program)).nextNode :=
        below place isPlace
      exact declares.unwrap untyped unfiltered isExport known documented
    · rename_i noExport
      have same : statement = place.node := by
        simpa [unwrapped?, noExport] using declares.unwrapped
      subst same
      refine declares.documentNode untyped unfiltered ?_ ?_ documented
      · exact below place isPlace
      · exact (Links.parentOf_setParent before.links _ _ _).trans (if_pos rfl)

theorem exported?_ne (declares : scope.program.DeclaresClass statement declared name)
    (untyped : scope.program.IsUntyped) {place : Place} (isPlace : place ∈ scope.program.places) :
    place.node.exported? ≠ some statement := by
  intro wrapped
  have above := declares.above_eq untyped (Place.exported_mem_places isPlace wrapped) rfl
  have isExport : place.node.shape.isExport := by
    unfold exported? at wrapped
    unfold Shape.isExport
    split at wrapped <;> simp_all
  rcases List.cons.inj above with ⟨same, -⟩
  rw [same, isExport_of_isProgram declares.isProgram] at isExport
  cases isExport

theorem visits (declares : scope.program.DeclaresClass statement declared name)
    (untyped : scope.program.IsUntyped) (unfiltered : scope.filter = none)
    (entered : Export.isDeferred scope.program statement = false) :
    Module.Visits scope statement (Store.RecordsClass scope.filePath name) where
  isWalked := declares.isWalked
  entered := entered
  lone := fun _ isPlace => declares.exported?_ne untyped isPlace
  unbound := by
    intro place isPlace same
    have noBinder : scope.program.isBinder = false := by
      have isProgram := declares.isProgram
      unfold Node.isProgram at isProgram
      split at isProgram
      · rename_i shape
        simp [isBinder, shape]
      · cases isProgram
    simp [Place.isBound, declares.above_eq untyped isPlace same, noBinder]
  kept := fun grows records => grows.recordsClass records
  documents := by
    intro place before after descent isPlace same below unvisited ended faultless
    rw [declares.above_eq untyped isPlace (congrArg Node.id same)] at ended
    exact declares.enter untyped unfiltered entered below unvisited ended faultless

end Node.DeclaresClass

end DocHarvest
