import DocHarvest.Record.Build

/-!
# What a built record says

Every builder starts from the fields that all records of its kind share and adds fields of its own.
`Doc.Renders` keeps the part that identifies the entity of a record, with one lemma for each builder;
`Draft.Heads` is what holds for all of them.
-/

namespace DocHarvest

theorem bind_eq_ok {α β : Type} {result : Except Fault α} {next : α → Except Fault β} {value : β} :
    (result >>= next) = .ok value ↔ ∃ inner, result = .ok inner ∧ next inner = .ok value := by
  cases result with
  | error fault => simp [bind, Except.bind]
  | ok inner => simp [bind, Except.bind]

/-- Whether the records of a category are about whole files. -/
def Category.isFile : Category → Bool
  | .file | .memory | .testFile => true
  | _ => false

/-- Whether the records of a category are about members of classes. -/
def Category.isMember : Category → Bool
  | .classMethod | .classMember | .classProperty => true
  | _ => false

/-- Whether the records of a category are about what a module declares. -/
def Category.isModule : Category → Bool
  | .moduleClass | .moduleFunction | .moduleVariable | .moduleAssignment => true
  | _ => false

/-- A record identifies its entity as another record does. -/
structure Doc.Renders (doc base : Doc) : Prop where
  id : doc.id = base.id
  category : doc.category = base.category
  moduleId : doc.moduleId = base.moduleId
  filePath : doc.filePath = base.filePath
  name : doc.name = base.name
  memberof : doc.memberof = base.memberof
  static : doc.static = base.static
  longname : doc.longname = base.longname
  line : doc.line = base.line
  exported : doc.exported = base.exported
  pseudoExport : doc.pseudoExport = base.pseudoExport

namespace Draft

variable {draft : Draft} {doc : Doc}

theorem paramNodes_subset_children (node : Node) : paramNodes node ⊆ node.children := by
  unfold paramNodes Node.children
  split <;> intro part isPart <;> simp_all [Shape.children]

theorem bodyNode?_subset_children (node : Node) : (bodyNode? node).toList ⊆ node.children := by
  unfold bodyNode? Node.children
  split <;> intro part isPart <;> simp_all [Shape.children]

theorem moduleClass_renders (built : draft.moduleClass = .ok doc) :
    doc.Renders (draft.moduleDoc .moduleClass
      (some (classNameOf draft.scope draft.links draft.node))) := by
  simp only [moduleClass, bind_eq_ok, pure, Except.pure, Except.ok.injEq] at built
  rcases built with ⟨decorators, -, rfl⟩
  exact ⟨rfl, rfl, rfl, rfl, rfl, rfl, rfl, rfl, rfl, rfl, rfl⟩

theorem moduleFunction_renders (built : draft.moduleFunction = .ok doc) :
    doc.Renders (draft.moduleDoc .moduleFunction (some draft.functionName)) := by
  simp only [moduleFunction, bind_eq_ok, pure, Except.pure, Except.ok.injEq] at built
  rcases built with ⟨params, -, result, -, throws, -, emits, -, listens, -, rfl⟩
  exact ⟨rfl, rfl, rfl, rfl, rfl, rfl, rfl, rfl, rfl, rfl, rfl⟩

theorem moduleVariable_renders (built : draft.moduleVariable = .ok doc) :
    ∃ declarator name, draft.node.firstDeclarator? = some declarator ∧
      bindingName declarator.bound? = .ok name ∧
      doc.Renders (draft.moduleDoc .moduleVariable name) := by
  unfold moduleVariable at built
  split at built
  · cases built
  · rename_i declarator found
    simp only [bind_eq_ok, pure, Except.pure, Except.ok.injEq] at built
    rcases built with ⟨name, named, type, -, rfl⟩
    exact ⟨declarator, name, found, named, rfl, rfl, rfl, rfl, rfl, rfl, rfl, rfl, rfl, rfl, rfl⟩

theorem moduleAssignment_renders (built : draft.moduleAssignment = .ok doc) :
    doc.Renders (draft.moduleDoc .moduleAssignment
      (some (withoutThis (Node.chainText ((sides? draft.node).bind (·.1)))))) := by
  simp only [moduleAssignment, bind_eq_ok, pure, Except.pure, Except.ok.injEq] at built
  rcases built with ⟨type, -, rfl⟩
  exact ⟨rfl, rfl, rfl, rfl, rfl, rfl, rfl, rfl, rfl, rfl, rfl⟩

theorem classMethod_renders (built : draft.classMethod = .ok doc) :
    ∃ name, methodName draft.node = .ok name ∧
      doc.Renders (draft.doc
        (if (methodKindOf draft.node).isAccessor then .classMember else .classMethod) name
        draft.classMemberof (isStatic draft.node)) := by
  simp only [classMethod, bind_eq_ok, pure, Except.pure, Except.ok.injEq] at built
  rcases built with
    ⟨name, named, params, -, result, -, type, -, throws, -, emits, -, listens, -, decorators, -,
     rfl⟩
  exact ⟨name, named, rfl, rfl, rfl, rfl, rfl, rfl, rfl, rfl, rfl, rfl, rfl⟩

theorem classMember_renders (built : draft.classMember = .ok doc) :
    doc.Renders (draft.doc .classMember
      (some (assignedName ((sides? draft.node).bind (·.1)))) draft.classMemberof
      draft.isAssignedStatic) := by
  simp only [classMember, bind_eq_ok, pure, Except.pure, Except.ok.injEq] at built
  rcases built with ⟨type, -, rfl⟩
  exact ⟨rfl, rfl, rfl, rfl, rfl, rfl, rfl, rfl, rfl, rfl, rfl⟩

theorem classProperty_renders (built : draft.classProperty = .ok doc) :
    ∃ name, (propertyParts draft.node).1 = .ok name ∧
      doc.Renders (draft.doc .classProperty name draft.classMemberof (isStatic draft.node)) := by
  simp only [classProperty, bind_eq_ok, pure, Except.pure, Except.ok.injEq] at built
  rcases built with ⟨name, named, type, -, decorators, -, rfl⟩
  exact ⟨name, named, rfl, rfl, rfl, rfl, rfl, rfl, rfl, rfl, rfl, rfl, rfl⟩

theorem typedef_renders (built : draft.typedef = .ok doc) :
    ∃ name, doc.Renders (draft.doc .virtualTypedef name draft.typedefMemberof true) := by
  simp only [typedef] at built
  split at built
  all_goals
    simp only [bind_eq_ok, pure, Except.pure, Except.ok.injEq] at built
    rcases built with ⟨type, -, properties, -, rfl⟩
    exact ⟨_, rfl, rfl, rfl, rfl, rfl, rfl, rfl, rfl, rfl, rfl, rfl⟩

theorem testBlock_renders (built : draft.testBlock = .ok doc) :
    doc.Renders (draft.doc .test draft.links.names[draft.node.id]? draft.blockMemberof true) := by
  simp only [testBlock, bind_eq_ok, pure, Except.pure, Except.ok.injEq] at built
  rcases built with ⟨kind, -, rfl⟩
  exact ⟨rfl, rfl, rfl, rfl, rfl, rfl, rfl, rfl, rfl, rfl, rfl⟩

theorem file_renders {category : Category} (built : draft.file category = .ok doc) :
    doc.Renders (draft.fileDoc category (some draft.scope.filePath) none true) := by
  simp only [file, bind_eq_ok, pure, Except.pure, Except.ok.injEq] at built
  rcases built with ⟨content, -, rfl⟩
  exact ⟨rfl, rfl, rfl, rfl, rfl, rfl, rfl, rfl, rfl, rfl, rfl⟩

theorem testFile_renders (built : draft.testFile = .ok doc) :
    doc.Renders (draft.fileDoc .testFile (some draft.scope.filePath) none true) := by
  unfold testFile at built
  split at built
  · cases built
    exact ⟨rfl, rfl, rfl, rfl, rfl, rfl, rfl, rfl, rfl, rfl, rfl⟩
  · exact file_renders built

/-- A built record has the id, the module and the path of its draft, and a category of its kind. -/
structure Heads (draft : Draft) (category : Category) (doc : Doc) : Prop where
  id : doc.id = draft.id
  moduleId : doc.moduleId = draft.scope.moduleId
  filePath : doc.filePath = draft.scope.filePath
  category : doc.category = category ∨ category = .classMethod ∧ doc.category = .classMember
  pseudoExport : doc.pseudoExport = false

private theorem heads_of_renders {category : Category} {name : Option String} {memberof : String}
    {static : Bool} (rendered : doc.Renders (draft.doc category name memberof static)) :
    draft.Heads category doc :=
  ⟨rendered.id, rendered.moduleId, rendered.filePath, Or.inl rendered.category,
    rendered.pseudoExport⟩

private theorem heads_of_renders_module {category : Category} {name : Option String}
    (rendered : doc.Renders (draft.moduleDoc category name)) : draft.Heads category doc :=
  ⟨rendered.id, rendered.moduleId, rendered.filePath, Or.inl rendered.category,
    rendered.pseudoExport⟩

private theorem heads_of_renders_file {category : Category} {name : Option String}
    (rendered : doc.Renders (draft.fileDoc category name none true)) : draft.Heads category doc :=
  ⟨rendered.id, rendered.moduleId, rendered.filePath, Or.inl rendered.category,
    rendered.pseudoExport⟩

theorem build_heads {category : Category} (built : draft.build category = .ok doc) :
    draft.Heads category doc := by
  cases category with
  | file => exact heads_of_renders_file (file_renders built)
  | memory =>
      cases built
      exact ⟨rfl, rfl, rfl, Or.inl rfl, rfl⟩
  | testFile => exact heads_of_renders_file (testFile_renders built)
  | module => cases built
  | moduleClass => exact heads_of_renders_module (moduleClass_renders built)
  | moduleFunction => exact heads_of_renders_module (moduleFunction_renders built)
  | moduleVariable =>
      rcases moduleVariable_renders built with ⟨_, _, _, _, rendered⟩
      exact heads_of_renders_module rendered
  | moduleAssignment => exact heads_of_renders_module (moduleAssignment_renders built)
  | classMethod =>
      -- getters and setters are recorded in another category
      rcases classMethod_renders built with ⟨_, _, rendered⟩
      refine ⟨rendered.id, rendered.moduleId, rendered.filePath, ?_, rendered.pseudoExport⟩
      have recorded := rendered.category
      split at recorded
      · exact Or.inr ⟨rfl, recorded⟩
      · exact Or.inl recorded
  | classMember => exact heads_of_renders (classMember_renders built)
  | classProperty =>
      rcases classProperty_renders built with ⟨_, _, rendered⟩
      exact heads_of_renders rendered
  | virtualTypedef =>
      rcases typedef_renders built with ⟨_, rendered⟩
      exact heads_of_renders rendered
  | virtualExternal =>
      cases built
      exact ⟨rfl, rfl, rfl, Or.inl rfl, rfl⟩
  | test => exact heads_of_renders (testBlock_renders built)

theorem isSome_exportStyle? (draft : Draft) (name : Option String) :
    (draft.exportStyle? name).isSome =
      (draft.links.ancestors draft.node.id).any fun ancestor => ancestor.shape.isExport := by
  rw [exportStyle?, List.isSome_findSome?]
  congr 1
  funext ancestor
  cases ancestor.shape <;> rfl

/-- What a module declares is recorded as exported if there is an export around its node. -/
theorem exported_of_build {category : Category} (isModule : category.isModule)
    (built : draft.build category = .ok doc) :
    doc.exported =
      (draft.links.ancestors draft.node.id).any fun ancestor => ancestor.shape.isExport := by
  cases category with
  | moduleClass =>
      rw [(moduleClass_renders built).exported]
      exact isSome_exportStyle? draft _
  | moduleFunction =>
      rw [(moduleFunction_renders built).exported]
      exact isSome_exportStyle? draft _
  | moduleVariable =>
      rcases moduleVariable_renders built with ⟨_, _, _, _, rendered⟩
      rw [rendered.exported]
      exact isSome_exportStyle? draft _
  | moduleAssignment =>
      rw [(moduleAssignment_renders built).exported]
      exact isSome_exportStyle? draft _
  | _ => cases isModule

theorem name_of_build_moduleClass (built : draft.build .moduleClass = .ok doc) :
    doc.name = some (classNameOf draft.scope draft.links draft.node) := by
  have made : draft.moduleClass = .ok doc := built
  exact (moduleClass_renders made).name

/-- The full name of a class joins its name to the path of the module. -/
theorem longname_of_build_moduleClass (noTilde : '~' ∉ draft.scope.filePath.toList)
    (built : draft.build .moduleClass = .ok doc) :
    doc.longname = some (draft.scope.filePath ++ "~" ++ Text.orNone doc.name) := by
  have rendered := moduleClass_renders built
  rw [rendered.longname, rendered.name]
  simp [moduleDoc, Draft.doc, fileDoc, longname, longnameOf, noTilde]

/-- Getters and setters are recorded as members, and all other methods as methods. -/
theorem category_of_build_classMethod (built : draft.build .classMethod = .ok doc) :
    doc.category =
      if (methodKindOf draft.node).isAccessor then .classMember else .classMethod := by
  rcases classMethod_renders built with ⟨_, _, rendered⟩
  exact rendered.category

/-- The record of a class member is a member of the class around it, and its full name says so. -/
theorem longname_of_build_member {category : Category} (isMember : category.isMember)
    (built : draft.build category = .ok doc) :
    doc.memberof = some draft.classMemberof ∧
      doc.longname = some (longnameOf draft.classMemberof doc.name doc.static) := by
  have of_renders {category : Category} {name : Option String} {static : Bool}
      (rendered : doc.Renders (draft.doc category name draft.classMemberof static)) :
      doc.memberof = some draft.classMemberof ∧
        doc.longname = some (longnameOf draft.classMemberof doc.name doc.static) := by
    refine ⟨rendered.memberof, ?_⟩
    rw [rendered.longname, rendered.name, rendered.static]
    rfl
  cases category with
  | classMethod =>
      rcases classMethod_renders built with ⟨_, _, rendered⟩
      exact of_renders rendered
  | classMember => exact of_renders (classMember_renders built)
  | classProperty =>
      rcases classProperty_renders built with ⟨_, _, rendered⟩
      exact of_renders rendered
  | _ => cases isMember

end Draft

end DocHarvest
