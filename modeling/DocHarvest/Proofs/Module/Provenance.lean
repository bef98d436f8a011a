import DocHarvest.Proofs.Module.Calls
import DocHarvest.Proofs.Module.Naming
import DocHarvest.Proofs.Module.Planning
import DocHarvest.Proofs.Module.Stages
import DocHarvest.Proofs.Module.Writing

/-!
# Records keep their origins

Exports revise records, and make up records of variables, after the walk. `Scope.Respects` says that
this keeps records good, so that the second pass and whole runs leave good records behind as well. In
particular every record can be traced to the draft that it was built from: `Draft.Sources` holds of the
draft and the record as it is stored in the end.
-/

namespace DocHarvest

open Run

variable {scope : Scope} {good : Doc → Prop} {fits : NodeNames → Prop} {classes : String → Prop}

/-- A mutation that keeps records good, whichever of them it changes. -/
def Mutation.Keeps (good : Doc → Prop) : Mutation → Prop
  | .update _ change => ∀ doc, good doc → good (change.apply doc)
  | .append _ text => ∀ doc, good doc → good (doc.describeMore text)
  | .insert doc => ∀ id, good { doc with id }

/-- The change that exports make to the variable that holds an instance of a class. -/
def Scope.instanceChange (scope : Scope) (style : String) (className : String) : ExportChange :=
  ⟨some style, some (instanceType scope.filePath className)⟩

/-- A draft of the variable to which an export gives an instance. -/
def Draft.IsCompanion (draft : Draft) (category : Category) : Prop :=
  category = .moduleVariable ∧ ∃ first variableName className exportNode,
    draft.node = Node.instanceDeclaration first variableName className exportNode

/-- What exports do to records keeps them good, if it is about instances of some classes only. -/
structure Scope.Respects (scope : Scope) (good : Doc → Prop) (fits : NodeNames → Prop)
    (classes : String → Prop) : Prop where
  marked : ∀ {doc : Doc} (style : Option String), good doc →
    good ((⟨style, none⟩ : ExportChange).apply doc)
  typed : ∀ {doc : Doc} (style : String) {className : String}, classes className → good doc →
    good ((scope.instanceChange style className).apply doc)
  described : ∀ {doc : Doc} (text : String), good doc → good (doc.describeMore text)
  made : ∀ {draft : Draft} {companion : Doc} (style : String) {className : String} (id : Int),
    draft.scope = scope → draft.IsCompanion .moduleVariable → fits draft.links.names →
    draft.build .moduleVariable = .ok companion → classes className →
    good { (scope.instanceChange style className).apply companion with pseudoExport := true, id }
  recorded : ∀ {doc : Doc} {className : String}, good doc → doc.category = .moduleClass →
    doc.name = some className → doc.filePath = scope.filePath → classes className

namespace Export

/-- The classes that a named export makes instances of are among some. -/
def Makes (classes : String → Prop) (exportNode : Node) : Prop :=
  ∀ declaration specifiers origin, exportNode.shape = .exportNamed (some declaration) specifiers
      origin → isIgnored exportNode = false → ∀ declarator ∈ declaration.declarators?.getD [],
    ∀ callee, declarator.initial?.bind Node.constructed? = some callee →
      classes (Node.calleeName callee)

theorem find?_upholds (category : Category) (name : String) :
    Upholds good fits (fun found => ∀ doc, found = some doc → good doc ∧
      doc.category = category ∧ doc.name = some name ∧ doc.filePath = scope.filePath)
      (find? scope category name) := by
  refine Upholds.get.bind fun state holds => .pure ?_
  intro doc found
  rcases Store.mem_of_lookup? found with ⟨isStored, isCategory, named, inFile⟩
  exact ⟨holds.records doc isStored, isCategory, named, inFile⟩

theorem planName_upholds (respects : scope.Respects good fits classes) (name importStyle : String) :
    Upholds good fits (fun plan => ∀ mutation ∈ plan, mutation.Keeps good)
      (planName scope name importStyle) := by
  have looked (category : Category) : Upholds good fits (fun _ => True) (find? scope category name) :=
    (find?_upholds category name).mono fun _ _ => trivial
  refine (Upholds.mapM fun category _ => looked category).bind fun found _ => .pure ?_
  intro mutation planned
  rcases List.mem_filterMap.1 planned with ⟨doc?, -, made⟩
  rcases Option.map_eq_some_iff.1 made with ⟨doc, -, rfl⟩
  exact fun other isGood => respects.marked _ isGood

theorem buildCompanion_upholds (first : NodeId) (variableName className : String)
    (exportNode : Node) (tags : List Tag) :
    Upholds good fits (fun companion => ∃ draft : Draft, draft.scope = scope ∧
        draft.IsCompanion .moduleVariable ∧ fits draft.links.names ∧
        draft.build .moduleVariable = .ok companion)
      (build scope unassignedId .moduleVariable
        (Node.instanceDeclaration first variableName className exportNode) tags) := by
  intro before outcome after holds ended
  rcases ends_build ended with ⟨messages, rfl, made⟩
  -- A variable gets no name, so the names still fit when the draft is made.
  have unnamed : before.links.naming scope .moduleVariable
      (Node.instanceDeclaration first variableName className exportNode) = before.links :=
    Links.naming_of_ne _ _ _ (by decide)
  rw [unnamed] at made ⊢
  refine ⟨⟨holds.records, holds.names⟩, ?_⟩
  rintro companion rfl
  exact ⟨_, rfl, ⟨rfl, first, variableName, className, exportNode, rfl⟩, holds.names, made.symm⟩

theorem planCompanion_upholds (respects : scope.Respects good fits classes) (exportNode : Node)
    (variableName : String) {className : String} (isClass : classes className) :
    Upholds good fits (fun plan => ∀ mutation ∈ plan, mutation.Keeps good)
      (planCompanion scope exportNode variableName className) := by
  refine Upholds.after (fun _ => rfl) fun first => ?_
  refine Upholds.after (fun _ => rfl) fun _ => ?_
  refine (buildCompanion_upholds _ _ _ _ _).bind fun companion origin => ?_
  refine (find?_upholds .moduleVariable variableName).bind fun found _ => ?_
  split
  · rcases origin with ⟨draft, inScope, arises, isFit, built⟩
    have isGood (style : String) (id : Int) :=
      respects.made style id inScope arises isFit built isClass
    refine .pure fun mutation planned => ?_
    rw [List.mem_singleton.1 planned]
    exact isGood _
  · refine .pure fun mutation planned => ?_
    rcases List.mem_append.1 planned with described | updated
    · rcases List.mem_map.1 described with ⟨text, -, rfl⟩
      exact fun other isGood => respects.described text isGood
    · rw [List.mem_singleton.1 updated]
      exact fun other isGood => respects.typed _ isClass isGood

/-- An instance is exported only if its class has a record. -/
theorem planInstance_upholds (respects : scope.Respects good fits classes) (exportNode : Node)
    (className variableName : String) :
    Upholds good fits (fun plan => ∀ mutation ∈ plan, mutation.Keeps good)
      (planInstance scope exportNode className variableName) := by
  refine (find?_upholds .moduleClass className).bind fun found isGood => ?_
  split
  · exact .pure (by simp)
  · rename_i doc
    rcases isGood doc rfl with ⟨isGood, isCategory, named, inFile⟩
    have isClass := respects.recorded isGood isCategory named inFile
    refine (planCompanion_upholds respects exportNode variableName isClass).bind
      fun companion kept => .pure ?_
    rintro mutation (_ | ⟨_, planned⟩)
    · exact fun other isGood => respects.marked none isGood
    · exact kept mutation planned

theorem planDefault_upholds (respects : scope.Respects good fits classes) (exportNode : Node)
    (declaration : Option Node) :
    Upholds good fits (fun plan => ∀ mutation ∈ plan, mutation.Keeps good)
      (planDefault scope exportNode declaration) := by
  unfold planDefault
  split
  · exact planInstance_upholds respects _ _ _
  · split
    · refine (planInstance_upholds respects _ _ _).bind fun instances kept => ?_
      refine (planName_upholds respects _ _).bind fun named keptToo => .pure ?_
      exact List.forall_mem_append.2 ⟨kept, keptToo⟩
    · exact planName_upholds respects _ _
  · exact Upholds.after (fun _ => rfl) fun _ => .pure (by simp)

theorem planDeclarator_upholds (respects : scope.Respects good fits classes) (exportNode : Node)
    {declarator : Node} (areClasses : ∀ callee,
      declarator.initial?.bind Node.constructed? = some callee → classes (Node.calleeName callee)) :
    Upholds good fits (fun plan => ∀ mutation ∈ plan, mutation.Keeps good)
      (planDeclarator scope exportNode declarator) := by
  have marks (found : Option Doc) : ∀ mutation ∈ found.toList.map fun doc =>
      Mutation.update doc.id ⟨none, none⟩, mutation.Keeps good := by
    intro mutation planned
    rcases List.mem_map.1 planned with ⟨doc, -, rfl⟩
    exact fun other isGood => respects.marked none isGood
  unfold planDeclarator
  split
  · exact .pure (by simp)
  · rename_i callee constructed
    refine (find?_upholds _ _).bind fun found _ => ?_
    split
    · exact .pure (marks found)
    · refine (planCompanion_upholds respects exportNode _ (areClasses callee constructed)).bind
        fun companion kept => .pure ?_
      exact List.forall_mem_append.2 ⟨marks found, kept⟩

theorem planSpecifier_upholds (respects : scope.Respects good fits classes) (specifier : Node) :
    Upholds good fits (fun plan => ∀ mutation ∈ plan, mutation.Keeps good)
      (planSpecifier scope specifier) := by
  unfold planSpecifier
  split
  · exact .pure (by simp)
  · exact planName_upholds respects _ _

theorem plan_upholds (respects : scope.Respects good fits classes) {exportNode : Node}
    (makes : Makes classes exportNode) :
    Upholds good fits (fun plan => ∀ mutation ∈ plan, mutation.Keeps good)
      (plan scope exportNode) := by
  have joined {plans : List (List Mutation)}
      (kept : ∀ plan ∈ plans, ∀ mutation ∈ plan, mutation.Keeps good) :
      ∀ mutation ∈ plans.flatten, mutation.Keeps good := by
    intro mutation planned
    rcases List.mem_flatten.1 planned with ⟨plan, isPlan, inPlan⟩
    exact kept plan isPlan mutation inPlan
  unfold plan
  split
  · exact .pure (by simp)
  · rename_i respected
    split
    · exact planDefault_upholds respects _ _
    · rename_i declaration specifiers origin shape
      have each : ∀ declarator ∈ (declaration.bind Node.declarators?).getD [],
          Upholds good fits (fun plan => ∀ mutation ∈ plan, mutation.Keeps good)
            (planDeclarator scope exportNode declarator) := by
        intro declarator isDeclarator
        cases declaration with
        | none => cases isDeclarator
        | some declaration =>
            exact planDeclarator_upholds respects exportNode
              (makes declaration specifiers origin shape (by simpa [isIgnored] using respected)
                declarator isDeclarator)
      refine (Upholds.mapM each).bind fun instances kept => ?_
      split
      · exact .pure (joined kept)
      · refine (Upholds.mapM fun specifier _ => planSpecifier_upholds respects specifier).bind
          fun named keptToo => .pure ?_
        exact List.forall_mem_append.2 ⟨joined kept, joined keptToo⟩
    · exact .pure (by simp)

theorem applyAll_upholds {plan : List Mutation} (kept : ∀ mutation ∈ plan, mutation.Keeps good) :
    Upholds good fits (fun _ => True) (applyAll scope plan) := by
  refine Upholds.forM fun mutation planned => ?_
  have keeps := kept mutation planned
  cases mutation with
  | update id change => exact .revise keeps
  | append id text => exact .revise keeps
  | insert doc =>
      refine Upholds.after (fun _ => rfl) fun id => ?_
      exact (Upholds.insert (keeps id)).bind fun _ _ => .pure trivial

end Export

namespace Module

theorem forM_resolve_upholds (respects : scope.Respects good fits classes) {pending : List Node}
    (makes : ∀ exportNode ∈ pending, Export.Makes classes exportNode) :
    Upholds good fits (fun _ => True) (pending.forM (resolve scope)) := by
  refine Upholds.forM fun exportNode isPending => .guarded ?_ trivial
  exact (Export.plan_upholds respects (makes exportNode isPending)).bind fun plan kept =>
    Export.applyAll_upholds kept

/-- The second pass leaves good records behind, whatever it has put aside. -/
theorem secondPass_upholds (respects : scope.Respects good fits fun _ => True) :
    Upholds good fits (fun _ => True) (secondPass scope) := by
  refine Upholds.get.bind fun state _ => ?_
  refine (forM_resolve_upholds respects ?_).bind fun _ _ => .lift (fun _ => rfl) fun _ => trivial
  exact fun exportNode _ _ _ _ _ _ _ _ _ _ => trivial

theorem prepare_upholds (admits : ∀ id, (within scope id).Admits good fits) :
    Upholds good fits (fun _ => True) (prepare scope) := by
  have isFile : (if scope.code.isSome then Category.memory else .file).isFile := by
    split <;> rfl
  refine Upholds.after (fun _ => rfl) fun id => ?_
  refine (storeModule_upholds (admits id) isFile id).bind fun _ _ => ?_
  exact (documentInner_upholds (admits id)).bind fun _ _ => .pure trivial

theorem generate_upholds (admits : ∀ id, (within scope id).Admits good fits)
    (respects : ∀ id, (within scope id).Respects good fits fun _ => True) :
    Upholds good fits (fun _ => True) (generate scope) := by
  rw [generate_eq_prepare]
  refine (prepare_upholds admits).bind fun id _ => ?_
  refine (firstPass_upholds (admits id)).bind fun _ _ => ?_
  refine (secondPass_upholds (respects id)).bind fun _ _ => ?_
  exact Upholds.after (fun _ => rfl) fun _ => .pure trivial

theorem pushTest_upholds (admits : scope.Admits good fun _ => True) (node : Node)
    (parent : Option Node) :
    Upholds good (fun _ => True) (fun _ => True) (pushTest scope node parent) := by
  have named (call : Node) :
      Upholds good (fun _ => True) (fun _ => True) (liftM (nameBlock call)) := by
    intro before outcome after holds ended
    rcases ends_lift.1 ended with ⟨-, rfl⟩
    exact ⟨⟨holds.records, trivial⟩, fun _ _ => trivial⟩
  refine Upholds.after (fun _ => rfl) fun visited => ?_
  split
  · exact .pure trivial
  · refine Upholds.after (fun _ => rfl) fun _ => ?_
    refine Upholds.after (fun _ => rfl) fun _ => ?_
    split
    · exact .pure trivial
    · rename_i call _
      refine Upholds.after (fun _ => rfl) fun _ => ?_
      refine Upholds.after (fun _ => rfl) fun _ => ?_
      refine (named call).bind fun _ _ => ?_
      have stored (tags : List Tag) : Upholds good (fun _ => True) (fun _ => True)
          ((liftM drawId >>= fun id => build scope id .test call tags >>= Run.insert scope) >>=
            fun _ => pure ()) :=
        Writes.upholds admits fun _ isFit =>
          Writes.drawn admits.named isFit (by rintro ⟨⟩) fun _ _ => .block
      simpa only [bind_assoc] using stored _

theorem generateTests_upholds (admits : ∀ id, (within scope id).Admits good fun _ => True) :
    Upholds good (fun _ => True) (fun _ => True) (generateTests scope) := by
  refine Upholds.after (fun _ => rfl) fun id => ?_
  refine (storeModule_upholds (admits id) rfl id).bind fun _ _ => ?_
  have walked : Upholds good (fun _ => True) (fun _ => True)
      (scope.program.walk (enterTest (within scope id))) := by
    refine .walk fun node parent _ => .guarded ?_ trivial
    exact (pushTest_upholds (admits id) node parent).bind fun _ _ => .pure trivial
  refine walked.bind fun _ _ => ?_
  exact Upholds.after (fun _ => rfl) fun _ => .pure trivial

theorem Request.run_upholds (admits : ∀ id, (within scope id).Admits good fun _ => True)
    (respects : ∀ id, (within scope id).Respects good (fun _ => True) fun _ => True)
    (request : Request) :
    Upholds good (fun _ => True) (fun _ => True) (request.run scope) := by
  unfold Request.run
  split
  · exact generateTests_upholds admits
  · exact generate_upholds admits respects

end Module

/-! ## Drafts of stored records -/

/-- A stored record says what it was made to say, apart from what exports change. -/
structure Doc.Continues (made doc : Doc) : Prop where
  outline : doc.outline = { made.outline with id := doc.id, pseudoExport := doc.pseudoExport }
  typed : doc.type = made.type ∨
    ∃ filePath className, doc.type = some (instanceType filePath className)

namespace Doc.Continues

variable {made doc last : Doc}

theorem refl (doc : Doc) : doc.Continues doc :=
  ⟨rfl, Or.inl rfl⟩

theorem trans (first : made.Continues doc) (second : doc.Continues last) :
    made.Continues last where
  outline := by rw [second.outline, first.outline]
  typed := by
    rcases second.typed with same | typed
    · rw [same]
      exact first.typed
    · exact Or.inr typed

theorem revised (outline : last.outline = doc.outline) (typed : last.type = doc.type ∨
    ∃ filePath className, last.type = some (instanceType filePath className)) :
    doc.Continues last := by
  have pseudoExport : last.pseudoExport = doc.pseudoExport := (congrArg Doc.pseudoExport outline :)
  refine ⟨?_, typed⟩
  rw [outline, id_eq_of_outline outline, pseudoExport]
  rfl

theorem category (continues : made.Continues doc) : doc.category = made.category :=
  (congrArg Doc.category continues.outline :)

theorem name (continues : made.Continues doc) : doc.name = made.name :=
  (congrArg Doc.name continues.outline :)

theorem filePath (continues : made.Continues doc) : doc.filePath = made.filePath :=
  (congrArg Doc.filePath continues.outline :)

theorem memberof (continues : made.Continues doc) : doc.memberof = made.memberof :=
  (congrArg Doc.memberof continues.outline :)

theorem longname (continues : made.Continues doc) : doc.longname = made.longname :=
  (congrArg Doc.longname continues.outline :)

theorem bases (continues : made.Continues doc) : doc.bases = made.bases :=
  (congrArg Doc.bases continues.outline :)

end Doc.Continues

/-- A record in the store has been built from a draft. -/
structure Draft.Sources (draft : Draft) (category : Category) (doc : Doc) : Prop where
  arises : draft.Arises category ∨ draft.IsCompanion category
  built : ∃ made, draft.build category = .ok made ∧ made.Continues doc

/-- A record belongs to the file that its draft has been made for. -/
theorem Draft.Sources.filePath {draft : Draft} {category : Category} {doc : Doc}
    (sources : draft.Sources category doc) : doc.filePath = draft.scope.filePath := by
  rcases sources.built with ⟨made, built, continues⟩
  exact continues.filePath.trans (Draft.build_heads built).filePath

theorem Draft.Sources.continued {draft : Draft} {category : Category} {doc last : Doc}
    (sources : draft.Sources category doc) (continues : doc.Continues last) :
    draft.Sources category last := by
  rcases sources.built with ⟨made, built, first⟩
  exact ⟨sources.arises, made, built, first.trans continues⟩

/-- Functions, classes and members are recorded for nodes of the program with their comments. -/
theorem Draft.Sources.isPlaced {draft : Draft} {category : Category} {doc : Doc}
    (sources : draft.Sources category doc) (noFile : category.isFile = false)
    (noVirtual : category.isVirtual = false) (noTest : category ≠ .test)
    (noVariable : category ≠ .moduleVariable) : draft.scope.program.Contains draft.node ∧
      ∃ comment, draft.scope.program.Offers comment ∧ draft.tags = comment.tags := by
  rcases sources.arises with arises | ⟨isVariable, -⟩
  · exact arises.isPlaced noFile noVirtual noTest
  · exact absurd isVariable noVariable

/-- A record has an old id, or it has been built from a draft whose origin fits its id. -/
def Doc.Traced (old : Int → Prop) (origin : Making → Int → Prop) (doc : Doc) : Prop :=
  old doc.id ∨ ∃ making : Making, origin making doc.id ∧ making.draft.Sources making.category doc

namespace Doc.Traced

variable {old : Int → Prop} {origin : Making → Int → Prop} {doc last : Doc}

theorem continued (traced : doc.Traced old origin) (continues : doc.Continues last)
    (sameId : last.id = doc.id) : last.Traced old origin := by
  rcases traced with isOld | ⟨making, isOrigin, sources⟩
  · exact Or.inl (sameId ▸ isOld)
  · exact Or.inr ⟨making, sameId ▸ isOrigin, sources.continued continues⟩

/-- A record that has just been built can be traced to its draft. -/
theorem of_builds {making : Making} (isOrigin : origin making making.draft.id)
    (arises : making.draft.Arises making.category) (built : making.Builds doc) :
    doc.Traced old origin := by
  have sameId : doc.id = making.draft.id := (Draft.build_heads built).id
  exact Or.inr ⟨making, sameId ▸ isOrigin, Or.inl arises, doc, built, .refl doc⟩

theorem admits (named : scope.Names fits) (isOrigin : ∀ {making : Making},
      making.draft.scope = scope → fits making.draft.links.names → origin making making.draft.id) :
    scope.Admits (Traced old origin) fits where
  named := named
  built {_ category _} inScope arises isFit built :=
    @of_builds old origin _ ⟨category, _⟩ (isOrigin inScope isFit) arises built

/-- Exports keep the origins of records, and what they make up has an origin as well. -/
theorem respects (isOrigin : ∀ {making : Making} (id : Int), making.draft.scope = scope →
      making.draft.IsCompanion making.category → fits making.draft.links.names → origin making id) :
    scope.Respects (Traced old origin) fits fun _ => True where
  marked style traced := traced.continued (.revised rfl (Or.inl rfl)) rfl
  typed style className _ traced := traced.continued (.revised rfl (Or.inr ⟨_, _, rfl⟩)) rfl
  described {doc} text traced := by
    have same := Export.outline_describeMore text doc
    have sameType := Export.type_describeMore text doc
    exact traced.continued (.revised same (Or.inl sameType)) (Doc.id_eq_of_outline same)
  made {draft _} style className id inScope companion isFit built _ := by
    have isMade : origin ⟨.moduleVariable, draft⟩ id := isOrigin id inScope companion isFit
    exact Or.inr ⟨_, isMade, Or.inr companion, _, built, rfl, Or.inr ⟨_, _, rfl⟩⟩
  recorded _ _ _ _ := trivial

end Doc.Traced

namespace Module

/--
A record that the work on a module makes comes from a draft in its scope: from the one that is made on
the way under the id of the record, or from that of a variable to which an export gives an instance.
-/
structure Origin (scope : Scope) (fits : NodeNames → Prop) (makings : List Making) (making : Making)
    (id : Int) : Prop where
  inScope : ∃ moduleId, making.draft.scope = within scope moduleId
  isFit : fits making.draft.links.names
  isMade : making ∈ makings ∧ making.draft.id = id ∨ making.draft.IsCompanion making.category

/-- Exports keep the origins of records, and what they make up is the variable of an export. -/
theorem respects_of_origin {old : Int → Prop} (all : List Making) (id : Int) :
    (within scope id).Respects (Doc.Traced old (Origin scope fits all)) fits fun _ => True :=
  Doc.Traced.respects fun _ inScope companion isFit => ⟨⟨id, inScope⟩, isFit, Or.inr companion⟩

/-- What has been built from drafts can be traced to them. -/
theorem traced_of_written {old : Int → Prop} {makings all : List Making} {id : Int}
    {before after : Progress} (written : Written (within scope id) fits makings before after)
    (areMade : makings ⊆ all)
    (traced : ∀ doc ∈ before.store.docs, doc.Traced old (Origin scope fits all)) :
    ∀ doc ∈ after.store.docs, doc.Traced old (Origin scope fits all) := by
  intro doc isStored
  rcases written.exists_making isStored with wasStored | ⟨making, isMaking, built⟩
  · exact traced doc wasStored
  · have sound := written.sound making isMaking
    have isOrigin : Origin scope fits all making making.draft.id :=
      ⟨⟨id, sound.inScope⟩, sound.isFit, Or.inl ⟨areMade isMaking, rfl⟩⟩
    exact .of_builds isOrigin sound.arises built

/-- Every record that the work on a module leaves is an old one or comes from a draft of this work. -/
theorem generate_traced {before after : Progress} {outcome : Except Fault Int}
    (named : ∀ id, (within scope id).Names fits) (isFit : fits before.links.names)
    (disciplined : before.store.Disciplined)
    (ended : Ends (generate scope) before outcome after) :
    ∀ doc ∈ after.store.docs, doc.Traced (· < before.store.nextId)
      (Origin scope fits (generateTrace Making.watch scope before)) := by
  have old : ∀ doc ∈ before.store.docs, doc.Traced (· < before.store.nextId)
      (Origin scope fits (generateTrace Making.watch scope before)) :=
    fun doc isStored => Or.inl (disciplined.below doc isStored)
  rw [generate_eq_prepare] at ended
  rcases ends_bind.1 ended with ⟨id, opened, opens, rest⟩ | ⟨fault, failed, rfl⟩
  · have opening := prepare_writes named isFit opens
    have all : generateTrace Making.watch scope before = _ := Trace.bind_of_ok opens
    rw [all] at old ⊢
    have early := traced_of_written opening (List.subset_append_left _ _) old
    rcases ends_bind.1 rest with ⟨_, walked, walks, later⟩ | ⟨fault, failed, rfl⟩
    · have walking := firstPass_writes (named id) opening.names walks
      rw [Trace.bind_of_ok walks] at early ⊢
      have recorded := traced_of_written walking (fun making isMaking =>
        List.mem_append_right _ (List.mem_append_left _ isMaking)) early
      have finished {result : Except Fault Unit} {state : Progress}
          (resolves : Ends (secondPass (within scope id)) walked result state) :=
        secondPass_upholds (respects_of_origin _ id) ⟨recorded, walking.names⟩ resolves
      rcases ends_bind.1 later with ⟨_, resolved, resolves, last⟩ | ⟨fault, failed, rfl⟩
      · have said := ends_lift_bind.1 last
        rcases ends_pure.1 said with ⟨-, rfl⟩
        exact (finished resolves).1.records
      · exact (finished failed).1.records
    · have walking := firstPass_writes (named id) opening.names failed
      rw [Trace.bind_of_error failed] at early ⊢
      exact traced_of_written walking (List.subset_append_right _ _) early
  · have opening := prepare_writes named isFit failed
    have all : generateTrace Making.watch scope before = _ := Trace.bind_of_error failed
    rw [all] at old ⊢
    exact traced_of_written opening (List.Subset.refl _) old

namespace Call

/-- A draft has been made in the scope of a call. -/
def Drafts (call : Call) (draft : Draft) : Prop :=
  ∃ scope id, call.scope = .ok scope ∧ draft.scope = within scope id

theorem store_traced {old : Int → Prop} {origin : Making → Int → Prop} (call : Call)
    (isOrigin : ∀ making id, call.Drafts making.draft → origin making id) {before : Store}
    (traced : ∀ doc ∈ before.docs, doc.Traced old origin) :
    ∀ doc ∈ (call.store before).docs, doc.Traced old origin := by
  cases checked : call.scope with
  | error fault =>
      simp only [store, perform_of_error checked]
      exact traced
  | ok scope =>
      have holds : Progress.Holds (Doc.Traced old origin) (fun _ => True)
          { call.state with store := before } := ⟨traced, trivial⟩
      refine (Request.run_upholds (fun id => ?_) (fun id => ?_) call.request holds
        (ends_perform checked before)).1.records
      · exact Doc.Traced.admits (fun _ _ _ _ => trivial) fun inScope _ =>
          isOrigin _ _ ⟨scope, id, checked, inScope⟩
      · exact Doc.Traced.respects fun _ inScope _ _ =>
          isOrigin _ _ ⟨scope, id, checked, inScope⟩

/-- After any calls, every record is an old one or comes from a draft in the scope of a call. -/
theorem storeAfter_traced (calls : List Call) (old : Int → Prop) {start : Store}
    (areOld : ∀ doc ∈ start.docs, old doc.id) :
    ∀ doc ∈ (storeAfter calls start).docs, doc.Traced old fun making _ =>
      ∃ call ∈ calls, call.Drafts making.draft := by
  have run (others : List Call) (areCalls : others ⊆ calls) (before : Store)
      (traced : ∀ doc ∈ before.docs, doc.Traced old fun making _ =>
        ∃ call ∈ calls, call.Drafts making.draft) :
      ∀ doc ∈ (storeAfter others before).docs, doc.Traced old fun making _ =>
        ∃ call ∈ calls, call.Drafts making.draft := by
    induction others generalizing before with
    | nil => exact traced
    | cons call others ih =>
        rcases List.cons_subset.1 areCalls with ⟨isCall, areCallsToo⟩
        exact ih areCallsToo _ (call.store_traced (fun making _ drafts => ⟨call, isCall, drafts⟩) traced)
  exact run calls (List.Subset.refl _) start fun doc isStored => Or.inl (areOld doc isStored)

/-- Every record that calls leave in an empty store comes from a draft in the scope of a call. -/
theorem exists_sources (calls : List Call) {doc : Doc}
    (isStored : doc ∈ (storeAfter calls {}).docs) : ∃ (draft : Draft) (category : Category),
      (∃ call ∈ calls, call.Drafts draft) ∧ draft.Sources category doc := by
  have traced := storeAfter_traced calls (fun _ => False) (by simp) doc isStored
  rcases traced.resolve_left id with ⟨making, drafted, sources⟩
  exact ⟨making.draft, making.category, drafted, sources⟩

end Call

end Module

end DocHarvest
