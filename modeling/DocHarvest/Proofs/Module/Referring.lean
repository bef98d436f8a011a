import DocHarvest.Proofs.Module.Classes
import DocHarvest.Proofs.Module.Exports
import DocHarvest.Proofs.Module.Provenance
import DocHarvest.Proofs.Module.Queue
import DocHarvest.Proofs.Record.Typed

/-!
# Types that refer to classes of the module

A variable that holds an instance has the full name of the class as its type. The walk asks whether the
module declares or imports the class, and every class that the module declares has a record; an export
of instances does not ask. So a type that refers to a class of the module without a record is due to
such an export, or to one of the odd cases that `Node.Dangles` lists.
-/

namespace DocHarvest

open Run

/-- A variable of a file whose type is the full name of a class of this file. -/
structure Doc.RefersTo (filePath name : String) (doc : Doc) : Prop where
  category : doc.category = .moduleVariable
  inFile : doc.filePath = filePath
  typed : ∃ param, doc.type = some param ∧ filePath ++ "~" ++ name ∈ param.types

/-- How a type can refer to a class of a module that has no record. -/
inductive Node.Dangles (program : Node) (filePath name : String) : Prop
  /-- An export puts several instances aside, one of them of a class that is not declared here. -/
  | exported {exportNode declaration declarator : Node} {specifiers : List Node}
      {origin callee : Option Node} (queued : exportNode ∈ program.queue)
      (shape : exportNode.shape = .exportNamed (some declaration) specifiers origin)
      (heeded : Export.isIgnored exportNode = false)
      (isDeclarator : declarator ∈ declaration.declarators?.getD [])
      (constructed : declarator.initial?.bind Node.constructed? = some callee)
      (named : Node.calleeName callee = name) (undeclared : program.findClass? name true = none)
  /-- The class is imported from where it cannot be told from a class of the module itself. -/
  | imported {className specifier : String}
      (undeclared : program.findClass? className true = none)
      (found : program.findImport? className = some specifier)
      (leads : ModulePath.resolveImport filePath specifier ++ "~" ++ className =
        filePath ++ "~" ++ name)
  /-- The class is declared in an export that is put aside because it exports names as well. -/
  | aside {statement declared : Node} (declares : program.DeclaresClass statement declared name)
      (deferred : Export.isDeferred program statement)
  /-- The path of the module reads like the start of the type of an object. -/
  | guessed (braced : filePath.toList.head? = some '\x7b')

namespace Param

theorem tilde_notMem_typeName (value : Value) : '~' ∉ value.typeName.toList := by
  cases value <;> simp [Value.typeName]

/-- Of the types that are guessed only that of an object can hold a `~`. -/
theorem head?_typeOf_of_tilde_mem {expression : Option Node}
    (tilde : '~' ∈ (typeOf expression).toList) :
    (typeOf expression).toList.head? = some '\x7b' := by
  unfold typeOf at tilde ⊢
  split at tilde
  · simp at tilde
  · simp at tilde
  · simp at tilde
  · exact absurd tilde (tilde_notMem_typeName _)
  · rename_i elements _
    refine absurd tilde ?_
    cases elements with
    | nil => simp [listType]
    | cons first rest => simp [listType, tilde_notMem_typeName]
  · simp [objectType]
  · simp at tilde

end Param

/-! ## Types of the walk -/

variable {scope : Scope} {draft : Draft} {doc : Doc} {param : Param} {name : String}

theorem head?_of_append_eq {filePath rest text : String} {first : Char} (noTilde : first ≠ '~')
    (same : filePath ++ "~" ++ rest = text) (head : text.toList.head? = some first) :
    filePath.toList.head? = some first := by
  rw [← same] at head
  cases letters : filePath.toList with
  | nil =>
      simp [letters] at head
      exact absurd head.symm noTilde
  | cons letter others => simpa [letters] using head

theorem Draft.variableType_of_build (untagged : draft.typeOf = .ok none)
    (built : draft.build .moduleVariable = .ok doc) (typed : doc.type = some param) :
    ∃ initial, draft.variableType initial = .ok param := by
  replace built : draft.moduleVariable = .ok doc := built
  unfold moduleVariable at built
  split at built
  · cases built
  · rename_i declarator _
    simp only [bind_eq_ok, pure, Except.pure, Except.ok.injEq] at built
    rcases built with ⟨given, -, type, made, rfl⟩
    rcases bind_eq_ok.1 made with ⟨tagged, parsed, rest⟩
    cases untagged.symm.trans parsed
    have guessed : some <$> draft.variableType declarator.initial? = .ok type := rest
    rcases some_map_eq_ok guessed with ⟨found, isFound, rfl⟩
    cases typed
    exact ⟨declarator.initial?, isFound⟩

/-- The walk refers to a class of the module only if the module declares it, or in odd cases. -/
theorem Draft.declares_or_dangles_of_variableType {initial : Option Node}
    (made : draft.variableType initial = .ok param)
    (refers : draft.scope.filePath ++ "~" ++ name ∈ param.types) :
    (∃ declared, draft.scope.program.findClass? name true = some declared) ∨
      draft.scope.program.Dangles draft.scope.filePath name := by
  unfold variableType at made
  split at made
  · rename_i callee _
    cases made
    have same := List.mem_singleton.1 refers
    cases referred : draft.classLongname? (Node.calleeName callee) with
    | none =>
        rw [referred] at same
        -- No class is found, and the type that stands in has no `~`.
        have tilde : '~' ∈ "*".toList := by
          rw [show "*" = draft.scope.filePath ++ "~" ++ name from same.symm]
          simp
        exact absurd tilde (by decide)
    | some longname =>
        rw [referred, Option.getD_some] at same
        unfold classLongname? at referred
        dsimp only at referred
        split at referred
        · cases referred
        · split at referred
          · rename_i isDeclared
            cases referred
            have sameName : name = Node.calleeName callee := by simpa using same
            rw [sameName]
            exact Or.inl (Option.isSome_iff_exists.1 isDeclared)
          · rename_i undeclared
            rcases Option.map_eq_some_iff.1 referred with ⟨specifier, isImported, rfl⟩
            have found := (Option.filter_eq_some_iff.1 isImported).1
            exact Or.inr (.imported (by simpa using undeclared) found same.symm)
  · unfold Param.guessType at made
    split at made
    · cases made
      have same := List.mem_singleton.1 refers
      refine Or.inr (.guessed (head?_of_append_eq (by decide) same ?_))
      exact Param.head?_typeOf_of_tilde_mem (by rw [← same]; simp)
    · cases made

/-- A record refers to nothing but classes that the module declares, save in odd cases. -/
def Scope.Expects (scope : Scope) (doc : Doc) : Prop :=
  ∀ name, doc.RefersTo scope.filePath name →
    (∃ declared, scope.program.findClass? name true = some declared) ∨
      scope.program.Dangles scope.filePath name

theorem Node.IsUntyped.typeOf_eq (untyped : draft.scope.program.IsUntyped) {comment : Comment}
    (offered : draft.scope.program.Offers comment) (tags : draft.tags = comment.tags) :
    draft.typeOf = .ok none := by
  have untagged : ∀ tag ∈ draft.tags, tag.name ≠ "@type" := by
    rw [tags]
    rcases offered with rfl | ⟨isDoc, node, ⟨place, isPlace, rfl⟩, isComment⟩
    · decide
    · exact (untyped.comments place isPlace comment isComment isDoc).2
  have noneNamed : Tag.named ["@type"] draft.tags = [] :=
    List.filter_eq_nil_iff.2 fun tag isTag => by simpa using untagged tag isTag
  simp [Draft.typeOf, Draft.value?, Tag.lastValue?, Tag.last?, noneNamed]

/-- What the walk builds refers to nothing else. -/
theorem Scope.expects_admits (untyped : scope.program.IsUntyped) (id : Int) :
    (Module.within scope id).Admits scope.Expects fun _ => True where
  named _ _ _ _ := trivial
  built := by
    intro draft category doc inScope arises _ built name refers
    have sameProgram : draft.scope.program = scope.program := (congrArg Scope.program inScope :)
    have samePath : draft.scope.filePath = scope.filePath := (congrArg Scope.filePath inScope :)
    have isVariable : category = .moduleVariable := by
      rcases (Draft.build_heads built).category with same | ⟨-, isMember⟩
      · rw [← same, refers.category]
      · rw [refers.category] at isMember
        cases isMember
    subst isVariable
    rcases arises.isPlaced rfl rfl (by simp) with ⟨-, comment, offered, tags⟩
    have untagged := Node.IsUntyped.typeOf_eq (sameProgram ▸ untyped) offered tags
    rcases refers.typed with ⟨param, typed, isType⟩
    rcases Draft.variableType_of_build untagged built typed with ⟨initial, made⟩
    rw [← samePath] at isType
    rw [← sameProgram, ← samePath]
    exact Draft.declares_or_dangles_of_variableType made isType

/-! ## Types of exports -/

/-- A record that is about known classes only, where it refers to one or records one. -/
structure Doc.Settles (filePath : String) (known : String → Prop) (doc : Doc) : Prop where
  refers : ∀ name, doc.RefersTo filePath name → known name
  records : doc.category = .moduleClass → doc.filePath = filePath → ∀ name,
    doc.name = some name → known name

namespace Doc.Settles

variable {filePath : String} {known : String → Prop} {made : Doc}

/-- A record may say more, as long as it says the same about classes. -/
theorem congr (settles : doc.Settles filePath known) (category : made.category = doc.category)
    (inFile : made.filePath = doc.filePath) (named : made.name = doc.name)
    (typed : made.type = doc.type) : made.Settles filePath known where
  refers name refers := settles.refers name
    ⟨category ▸ refers.category, inFile ▸ refers.inFile, typed ▸ refers.typed⟩
  records isClass isHere name isNamed :=
    settles.records (category ▸ isClass) (inFile ▸ isHere) name (named ▸ isNamed)

/-- A variable that holds an instance of a known class refers to this class only. -/
theorem ofInstance {className : String} (isKnown : known className)
    (typed : doc.type = some (instanceType filePath className))
    (records : doc.category = .moduleClass → doc.filePath = filePath → ∀ name,
      doc.name = some name → known name) : doc.Settles filePath known where
  refers name refers := by
    rcases refers.typed with ⟨param, isTyped, isType⟩
    cases typed.symm.trans isTyped
    have same : name = className := by
      simpa [instanceType, Param.ofType] using isType
    rwa [same]
  records := records

/-- Exports keep this up if they make instances of known classes only. -/
theorem respects (id : Int) {fits : NodeNames → Prop} :
    (Module.within scope id).Respects (Settles scope.filePath known) fits known where
  marked style settles := settles.congr rfl rfl rfl rfl
  typed style className isKnown settles := .ofInstance isKnown rfl settles.records
  described {doc} text settles := by
    have same := Export.outline_describeMore text doc
    exact settles.congr (category_eq_of_outline same) (congrArg Doc.filePath same :)
      (name_eq_of_outline same) (Export.type_describeMore text doc)
  made style className id inScope isCompanion _ built isKnown := by
    refine .ofInstance isKnown rfl fun isClass => ?_
    have category := (Draft.build_heads built).category.resolve_right (by simp)
    exact absurd (category.symm.trans isClass) (by decide)
  recorded settles isClass named inFile := settles.records isClass inFile _ named

end Doc.Settles

namespace Module

/-- A class that the module declares has a record after the walk, unless its export is put aside. -/
theorem declared_recorded {id : Int} {store : Store} {nextNode : NodeId}
    {opened walked after : Progress} (untyped : scope.program.IsUntyped)
    (below : scope.program.Below nextNode) (unfiltered : scope.filter = none)
    (stages : Stages scope id (Program.start ⟨scope.program, nextNode⟩ store) opened walked after)
    (faultless : walked.invalid = opened.invalid) {declared : Node}
    (found : scope.program.findClass? name true = some declared) :
    walked.store.RecordsClass scope.filePath name ∨
      scope.program.Dangles scope.filePath name := by
  rcases Node.exists_declaresClass_of_findClass? found with ⟨statement, declares⟩
  cases deferred : Export.isDeferred scope.program statement with
  | true => exact Or.inr (.aside declares deferred)
  | false =>
      have visits : Visits (within scope id) statement (Store.RecordsClass scope.filePath name) :=
        Node.DeclaresClass.visits declares untyped unfiltered deferred
      exact Or.inl (visits.walkthrough untyped.coherent below stages faultless)

/-- After the walk, whatever a variable refers to has a record, save in odd cases. -/
theorem walk_settles {id : Int} {store : Store} {nextNode : NodeId}
    {opened walked after : Progress} (untyped : scope.program.IsUntyped)
    (unknown : ∀ doc ∈ store.docs, doc.filePath ≠ scope.filePath)
    (stages : Stages scope id (Program.start ⟨scope.program, nextNode⟩ store) opened walked after)
    {known : String → Prop} (recorded : ∀ name, walked.store.RecordsClass scope.filePath name →
      known name)
    (dangles : ∀ name, scope.program.Dangles scope.filePath name → known name)
    (declares : ∀ name declared, scope.program.findClass? name true = some declared → known name) :
    walked.Holds (Doc.Settles scope.filePath known) fun _ => True := by
  have admits := Scope.expects_admits untyped
  have starts : (Program.start ⟨scope.program, nextNode⟩ store).Holds scope.Expects
      fun _ => True :=
    ⟨fun doc isStored name refers => absurd refers.inFile (unknown doc isStored), trivial⟩
  have opens := (prepare_upholds admits starts stages.opens).1
  have expected := (firstPass_upholds (admits id) opens stages.walks).1.records
  refine ⟨fun doc isStored => ⟨fun name refers => ?_, fun isClass inFile name named => ?_⟩, trivial⟩
  · rcases expected doc isStored name refers with ⟨declared, found⟩ | isOdd
    · exact declares name declared found
    · exact dangles name isOdd
  · exact recorded name ⟨doc, isStored, isClass, named, inFile⟩

theorem pending_eq_queue {id : Int} {start opened walked after : Progress}
    (stages : Stages scope id start opened walked after) (none : start.pending = []) :
    walked.pending = scope.program.queue := by
  have nothing : opened.pending = start.pending := prepare_leaves scope stages.opens
  have waiting := firstPass_queues stages.walks
  rwa [nothing, none] at waiting

/--
Where no comment gives a type, a variable whose type is the full name of a class of the module refers to
a class with a record. The only exceptions are exports of several instances, one of them of a class that
the module does not declare, and cases in which the full name is not what it looks like.
-/
theorem type_references_recorded (scope : Scope) (store : Store) (nextNode : NodeId)
    (untyped : scope.program.IsUntyped) (below : scope.program.Below nextNode)
    (unfiltered : scope.filter = none)
    (unknown : ∀ doc ∈ store.docs, doc.filePath ≠ scope.filePath) {id : Int} {after : Progress}
    (ended : Ends (generate scope) (Program.start ⟨scope.program, nextNode⟩ store) (.ok id) after)
    (faultless : after.invalid = []) :
    ∀ doc ∈ after.store.docs, ∀ name, doc.RefersTo scope.filePath name →
      after.store.RecordsClass scope.filePath name ∨
        scope.program.Dangles scope.filePath name := by
  rcases exists_stages ended with ⟨opened, walked, stages⟩
  rcases stages.invalid faultless with ⟨-, walkedFaultless, -⟩
  rcases stages.resolves with ⟨messages, resolves⟩
  -- Exports revise what the walk has recorded, so the classes that may be referred to are fixed
  -- when the walk ends.
  let known (name : String) : Prop := walked.store.RecordsClass scope.filePath name ∨
    scope.program.Dangles scope.filePath name
  have declares (name : String) (declared : Node)
      (found : scope.program.findClass? name true = some declared) : known name :=
    declared_recorded untyped below unfiltered stages walkedFaultless found
  have walks : walked.Holds (Doc.Settles scope.filePath known) fun _ => True :=
    walk_settles untyped unknown stages (fun _ => Or.inl) (fun _ => Or.inr) declares
  have makes : ∀ exportNode ∈ walked.pending, Export.Makes known exportNode := by
    intro exportNode isPending declaration specifiers origin shape heeded declarator isDeclarator
      callee constructed
    rw [pending_eq_queue stages rfl] at isPending
    cases found : scope.program.findClass? (Node.calleeName callee) true with
    | some declared => exact declares _ declared found
    | none => exact Or.inr (.exported isPending shape heeded isDeclarator constructed rfl found)
  rcases ends_secondPass resolves with ⟨resolved, resolving, same⟩
  have settled := (forM_resolve_upholds (Doc.Settles.respects id) makes walks resolving).1.records
  have resolvedStore : after.store = resolved.store := (congrArg Progress.store same :)
  have grows := ((secondPass_sound (within scope id)).reaches resolves).grows
  intro doc isStored name refers
  rw [resolvedStore] at isStored
  exact ((settled doc isStored).refers name refers).imp_left fun records => grows.recordsClass records

/-- A module that exports an instance of its own class and one of another class together. -/
def pairScope : Scope :=
  let instanceOf (first : NodeId) (name className : String) : Node :=
    .mk { id := first } (.declarator (some (.mk { id := first + 1 } (.identifier name)))
      (some (.mk { id := first + 2 }
        (.construct (some (.mk { id := first + 3 } (.identifier className))) []))))
  { program := .mk { id := 0 } (.program [emptyClass 1 "Foo",
      .mk { id := 4 } (.exportNamed (some (.mk { id := 5 } (.variables "const"
        [instanceOf 6 "a" "Foo", instanceOf 10 "b" "Map"]))) [] none)] [])
    filePath := "pair.js" }

/-- What is left when that module has been documented into an empty store. -/
def pairEnd : Progress :=
  ((generate pairScope).run.run (Program.start ⟨pairScope.program, 14⟩ {})).2

theorem pairScope_isUntyped : pairScope.program.IsUntyped where
  coherent := Node.IsTree.isCoherent (by decide +kernel)
  shallow := by decide +kernel
  comments := by decide +kernel

theorem ends_pairScope :
    Ends (generate pairScope) (Program.start ⟨pairScope.program, 14⟩ {}) (.ok 0) pairEnd :=
  Prod.ext (by decide +kernel) rfl

/-- The class of the module has a record, so that the type of its instance is no exception. -/
theorem pair_references_recorded :
    pairScope.program.IsUntyped ∧ pairScope.program.Below 14 ∧ pairScope.filter = none ∧
    (∀ doc ∈ ({} : Store).docs, doc.filePath ≠ pairScope.filePath) ∧
    Ends (generate pairScope) (Program.start ⟨pairScope.program, 14⟩ {}) (.ok 0) pairEnd ∧
    pairEnd.invalid = [] ∧
    ∃ doc ∈ pairEnd.store.docs, doc.name = some "a" ∧ doc.RefersTo "pair.js" "Foo" ∧
      (pairEnd.store.RecordsClass "pair.js" "Foo" ∨
        pairScope.program.Dangles "pair.js" "Foo") := by
  have below : pairScope.program.Below 14 := by decide +kernel
  have faultless : pairEnd.invalid = [] := by decide +kernel
  have variableStored : ∃ doc ∈ pairEnd.store.docs, doc.name = some "a" ∧
      doc.category = .moduleVariable ∧ doc.filePath = "pair.js" ∧
      doc.type.map Param.types = some ["pair.js~Foo"] := by decide +kernel
  rcases variableStored with ⟨doc, isStored, named, isVariable, inFile, typed⟩
  rcases Option.map_eq_some_iff.1 typed with ⟨param, isTyped, types⟩
  have refers : doc.RefersTo "pair.js" "Foo" :=
    ⟨isVariable, inFile, param, isTyped, types ▸ List.mem_singleton_self _⟩
  exact ⟨pairScope_isUntyped, below, rfl, by simp, ends_pairScope, faultless, doc, isStored, named,
    refers, type_references_recorded pairScope {} 14 pairScope_isUntyped below rfl (by simp)
      ends_pairScope faultless doc isStored "Foo" refers⟩

/-- The other variable refers to a class that neither has a record nor belongs to the module. -/
theorem pair_reference_dangles :
    pairScope.program.IsUntyped ∧
    Ends (generate pairScope) (Program.start ⟨pairScope.program, 14⟩ {}) (.ok 0) pairEnd ∧
    pairEnd.invalid = [] ∧
    (∃ doc ∈ pairEnd.store.docs, doc.category = .moduleVariable ∧ doc.filePath = "pair.js" ∧
      doc.name = some "b" ∧ doc.type.map Param.types = some ["pair.js~Map"]) ∧
    ¬ pairEnd.store.RecordsClass "pair.js" "Map" := by
  refine ⟨pairScope_isUntyped, ends_pairScope, by decide +kernel, by decide +kernel, ?_⟩
  have others : ∀ doc ∈ pairEnd.store.docs, doc.name ≠ some "Map" := by decide +kernel
  rintro ⟨doc, isStored, -, named, -⟩
  exact others doc isStored named

end Module

end DocHarvest
