import DocHarvest.Proofs.Module.Classes
import DocHarvest.Proofs.Module.Provenance

/-!
# Full names of declared classes

The full name of a class that a module declares is put together in several places: in the record of
the class, where a name is looked up, for the type of an exported instance, and in the records of the
members. Only the first of them looks at the path for a `~`. `Spellings` says what each one writes, for
every path, and that they agree exactly as long as the path has no `~`.
-/

namespace DocHarvest

open Run

namespace Node

variable {program node : Node}

/-- Declared classes that have been given a name have been given their own. -/
def KeepsNames (program : Node) (names : NodeNames) : Prop :=
  ∀ node name noted, program.Contains node → node.declaredClass? = some name →
    names[node.id]? = some noted → noted = name

theorem KeepsNames.naming {scope : Scope} {links : Links} (coherent : program.IsCoherent)
    (contained : program.Contains node) (keeps : program.KeepsNames links.names) :
    program.KeepsNames (links.naming scope .moduleClass node).names := by
  intro declaration name noted containedToo declared isNoted
  simp only [Links.naming, beq_self_eq_true, if_true, Links.setName] at isNoted
  rw [Std.TreeMap.getElem?_insert] at isNoted
  split at isNoted
  · rename_i sameId
    rcases contained with ⟨place, isPlace, rfl⟩
    rcases containedToo with ⟨other, isOther, rfl⟩
    have same : place.node = other.node :=
      coherent place isPlace other isOther (by simpa using sameId)
    cases isNoted
    rw [same]
    exact Draft.classNameOf_of_declared _ declared
  · exact keeps declaration name noted containedToo declared isNoted

end Node

/-! ## Records -/

namespace Draft

variable {draft : Draft} {doc : Doc} {category : Category} {classNode : Node} {name : String}

/-- What a record says about a declared class that it describes, or whose member it describes. -/
structure Spells (draft : Draft) (category : Category) (classNode : Node) (name : String)
    (doc : Doc) : Prop where
  ofClass : category = .moduleClass → draft.node = classNode →
    doc.longname = some (longnameOf draft.scope.filePath (some name) true)
  ofMember : category.isMember →
    draft.links.findUp? draft.node.id Shape.isClass = some classNode →
      doc.memberof = some (draft.scope.filePath ++ "~" ++ name)

theorem classMemberof_of_declared (contained : draft.scope.program.Contains classNode)
    (declared : classNode.declaredClass? = some name)
    (keeps : draft.scope.program.KeepsNames draft.links.names)
    (innermost : draft.links.findUp? draft.node.id Shape.isClass = some classNode) :
    draft.classMemberof = draft.scope.filePath ++ "~" ++ name := by
  have named : (draft.links.names[classNode.id]?).or classNode.className? = some name := by
    cases noted : draft.links.names[classNode.id]? with
    | none => exact (Node.isClass_of_declaredClass? declared).1
    | some other =>
        rw [keeps classNode name other contained declared noted]
        rfl
  simp only [classMemberof, innermost, named]
  rfl

/-- Whatever record is built from a draft spells the class in the two ways. -/
theorem build_spells (contained : draft.scope.program.Contains classNode)
    (declared : classNode.declaredClass? = some name)
    (keeps : draft.scope.program.KeepsNames draft.links.names)
    (built : draft.build category = .ok doc) : draft.Spells category classNode name doc where
  ofClass := by
    rintro rfl rfl
    have made : draft.moduleClass = .ok doc := built
    rw [(moduleClass_renders made).longname, classNameOf_of_declared _ declared]
    rfl
  ofMember isMember innermost := by
    rw [(longname_of_build_member isMember built).1,
      classMemberof_of_declared contained declared keeps innermost]

end Draft

/-- Paths with a `~` are the ones that get the form for members of classes. -/
theorem longnameOf_eq_iff (filePath name : String) :
    longnameOf filePath (some name) true = filePath ++ "~" ++ name ↔ '~' ∉ filePath.toList := by
  by_cases hasTilde : '~' ∈ filePath.toList
  · have joined : longnameOf filePath (some name) true = filePath ++ "." ++ name := by
      simp [longnameOf, hasTilde, Text.orNone]
    rw [joined]
    refine iff_of_false (fun same => ?_) (not_not_intro hasTilde)
    have letters := congrArg String.toList same
    simp at letters
  · simp [longnameOf, hasTilde, Text.orNone]

/-! ## References -/

/-- The type that a mutation gives a record. -/
def Mutation.type? : Mutation → Option Param
  | .update _ change => change.type
  | .append _ _ => none
  | .insert doc => doc.type

/-- The exported instance of a class has the class of the module as its type, and no other. -/
theorem Export.planCompanion_types {scope : Scope} {exportNode : Node}
    {variableName className : String} {before after : Progress} {plan : List Mutation}
    (ended : Ends (planCompanion scope exportNode variableName className) before (.ok plan) after) :
    plan.filterMap Mutation.type? = [instanceType scope.filePath className] := by
  have drawn := ends_lift_bind.1 ended
  have linked := ends_lift_bind.1 drawn
  rcases ends_bind_ok.1 linked with ⟨companion, built, making, rest⟩
  rcases ends_bind_ok.1 rest with ⟨found, looked, looking, planned⟩
  cases found with
  | none =>
      rcases ends_pure.1 planned with ⟨same, -⟩
      cases same
      rfl
  | some doc =>
      rcases ends_pure.1 planned with ⟨same, -⟩
      cases same
      simp [Mutation.type?, Function.comp_def, instanceType]

namespace Module

/--
How the records and the references of a module spell a class that it declares, if `makings` are the
drafts that the work on the module makes on its way.
-/
structure Spellings (scope : Scope) (classNode : Node) (name : String) (makings : List Making)
    (before after : Store) : Prop where
  reference : ∀ draft : Draft, draft.scope.program = scope.program →
    draft.scope.filePath = scope.filePath →
      draft.classLongname? name = some (scope.filePath ++ "~" ++ name)
  companion : ∀ ⦃id exportNode variableName start plan stop⦄,
    Ends (Export.planCompanion (within scope id) exportNode variableName name) start (.ok plan)
      stop → plan.filterMap Mutation.type? = [Param.ofType (scope.filePath ++ "~" ++ name)]
  stored : ∀ doc ∈ after.docs, doc.id < before.nextId ∨ ∃ making : Making,
    (∃ id, making.draft.scope = within scope id) ∧
      (making ∈ makings ∧ making.draft.id = doc.id ∨ making.draft.IsCompanion making.category) ∧
      making.draft.Sources making.category doc ∧
      making.draft.Spells making.category classNode name doc

theorem start_keepsNames (program : Program) (store : Store) (node : Node) :
    node.KeepsNames (program.start store).links.names := by
  intro other name noted _ _ isNoted
  simp [Program.start] at isNoted

/-- Every new record is built from a draft that spells the class. -/
theorem generate_spells {scope : Scope} {program : Program} {store : Store}
    (coherent : scope.program.IsCoherent) (disciplined : store.Disciplined) {classNode : Node}
    {name : String} (contained : scope.program.Contains classNode)
    (declared : classNode.declaredClass? = some name) {outcome : Except Fault Int}
    {after : Progress} (ended : Ends (generate scope) (program.start store) outcome after) :
    ∀ doc ∈ after.store.docs, doc.id < store.nextId ∨ ∃ making : Making,
      (∃ id, making.draft.scope = within scope id) ∧
        (making ∈ generateTrace Making.watch scope (program.start store) ∧
            making.draft.id = doc.id ∨
          making.draft.IsCompanion making.category) ∧
        making.draft.Sources making.category doc ∧
        making.draft.Spells making.category classNode name doc := by
  have named (id : Int) : (within scope id).Names scope.program.KeepsNames :=
    fun _ _ isNode keeps => keeps.naming coherent isNode
  have traced := generate_traced named (start_keepsNames _ _ _) disciplined ended
  intro doc isStored
  refine (traced doc isStored).imp_right ?_
  rintro ⟨making, ⟨⟨id, inScope⟩, keeps, isMade⟩, sources⟩
  refine ⟨making, ⟨id, inScope⟩, isMade, sources, ?_⟩
  rcases sources.built with ⟨made, built, continues⟩
  have sameProgram : making.draft.scope.program = scope.program := (congrArg Scope.program inScope :)
  rw [← sameProgram] at contained keeps
  have spells := Draft.build_spells contained declared keeps built
  exact ⟨fun isClass isNode => continues.longname.trans (spells.ofClass isClass isNode),
    fun isMember innermost => continues.memberof.trans (spells.ofMember isMember innermost)⟩

/--
Whatever comes of the work on a module, every reference to a class that it declares and every record
of a member of the class spells the class in the same way, and the record of the class does so as well
exactly if the path of the module has no `~`. What a record is about is read off the draft that the work
has made on its way under the id of the record.
-/
theorem class_spellings (scope : Scope) (store : Store) (nextNode : NodeId)
    (coherent : scope.program.IsCoherent) (disciplined : store.Disciplined)
    {name : String} {classNode : Node} (found : scope.program.findClass? name true = some classNode)
    {outcome : Except Fault Int} {after : Progress}
    (ended : Ends (generate scope) (Program.start ⟨scope.program, nextNode⟩ store) outcome after) :
    Spellings scope classNode name
        (generateTrace Making.watch scope (Program.start ⟨scope.program, nextNode⟩ store)) store
        after.store ∧
      (longnameOf scope.filePath (some name) true = scope.filePath ++ "~" ++ name ↔
        '~' ∉ scope.filePath.toList) := by
  rcases Node.exists_declaresClass_of_findClass? found with ⟨statement, declares⟩
  have isNamed : name.isEmpty = false := by
    cases isEmpty : name.isEmpty with
    | false => rfl
    | true => simp [Node.findClass?, isEmpty] at found
  refine ⟨⟨?_, ?_, ?_⟩, ?_⟩
  · intro draft sameProgram samePath
    simp [Draft.classLongname?, sameProgram, samePath, isNamed, found]
  · intro id exportNode variableName start plan stop planned
    have types := Export.planCompanion_types planned
    exact types
  · exact generate_spells coherent disciplined declares.contains declares.named ended
  · exact longnameOf_eq_iff scope.filePath name

/-- A module at a path that declares a class with a method and exports an instance of it. -/
def instanceScope (filePath : String) : Scope :=
  let method : Node := .mk { id := 4 } (.method [] (some (.mk { id := 5 } (.identifier "run"))) []
    (some (.mk { id := 6 } (.block []))) .method false false false false)
  let value : Node := .mk { id := 11 }
    (.construct (some (.mk { id := 12 } (.identifier "Foo"))) [])
  let declaration : Node := .mk { id := 8 } (.variables "const" [.mk { id := 9 }
    (.declarator (some (.mk { id := 10 } (.identifier "foo"))) (some value))])
  { program := .mk { id := 0 } (.program [
      .mk { id := 1 } (.classLike .declaration [] (some (.mk { id := 2 } (.identifier "Foo"))) none
        (.mk { id := 3 } (.classBody [method]))),
      .mk { id := 7 } (.exportNamed (some declaration) [] none)] [])
    filePath }

/-- What is left when such a module has been documented into an empty store. -/
def instanceEnd (filePath : String) : Progress :=
  ((generate (instanceScope filePath)).run.run
    (Program.start ⟨(instanceScope filePath).program, 13⟩ {})).2

/-- The class of such a module, if its path has no `~`. -/
theorem plain_class_spellings :
    (instanceScope "plain.js").program.IsCoherent ∧ ({} : Store).Disciplined ∧
    ∃ classNode, (instanceScope "plain.js").program.findClass? "Foo" true = some classNode ∧
      Ends (generate (instanceScope "plain.js"))
        (Program.start ⟨(instanceScope "plain.js").program, 13⟩ {}) (.ok 0)
        (instanceEnd "plain.js") ∧
      Spellings (instanceScope "plain.js") classNode "Foo"
        (generateTrace Making.watch (instanceScope "plain.js")
          (Program.start ⟨(instanceScope "plain.js").program, 13⟩ {})) {}
        (instanceEnd "plain.js").store ∧
      longnameOf "plain.js" (some "Foo") true = "plain.js~Foo" := by
  have tree : (instanceScope "plain.js").program.IsTree := by decide +kernel
  have empty : ({} : Store).Disciplined := ⟨by simp, by simp⟩
  have ended : Ends (generate (instanceScope "plain.js"))
      (Program.start ⟨(instanceScope "plain.js").program, 13⟩ {}) (.ok 0)
      (instanceEnd "plain.js") := Prod.ext (by decide +kernel) rfl
  rcases (⟨_, rfl⟩ : ∃ classNode, (instanceScope "plain.js").program.findClass? "Foo" true =
    some classNode) with ⟨classNode, found⟩
  rcases class_spellings (instanceScope "plain.js") {} 13 tree.isCoherent empty found ended with
    ⟨spellings, agree⟩
  exact ⟨tree.isCoherent, empty, classNode, found, ended, spellings, agree.2 (by decide)⟩

/-- With a `~` in the path, the class itself is the one that is spelt in another way. -/
theorem tilde_class_spelt_apart :
    ((instanceEnd "a~b.js").store.docs.filter fun doc => !doc.category.isFile).map
        (fun doc => (doc.category, doc.longname, doc.memberof, doc.type.map Param.types)) =
      [(.moduleClass, some "a~b.js.Foo", some "a~b.js", none),
       (.classMethod, some "a~b.js~Foo#run", some "a~b.js~Foo", none),
       (.moduleVariable, some "a~b.js.foo", some "a~b.js", some ["a~b.js~Foo"])] := by
  decide +kernel

end Module

end DocHarvest
