import DocHarvest.Proofs.Module.Planning
import DocHarvest.Proofs.Module.Thinning

/-!
# Plans that agree

An export is planned for stores that show the same records. What the two plans make of a record that
is seen is the same, and so are the records that they add, as far as both stores should hold them:
this is `Agree`. Only the instance of a class whose record has been filtered out is planned for on
the one side alone, and then the variable that holds it has to be one that is missed.
-/

namespace DocHarvest

open Run

/-- What a mutation makes of the record of an id, if it is about this record. -/
def Mutation.revision? (id : Int) : Mutation → Option (Doc → Doc)
  | .update target change => if target = id then some change.apply else none
  | .append target text => if target = id then some (Doc.describeMore text) else none
  | .insert _ => none

/-- The record that a mutation adds. -/
def Mutation.record? : Mutation → Option Doc
  | .update _ _ | .append _ _ => none
  | .insert doc => some doc

/-- Two plans that treat counterparts alike and add the same records to what is seen. -/
structure Agree (sieve : Sieve) (whole thin : Store) (plan planToo : List Mutation) : Prop where
  revisions : ∀ ⦃doc docToo⦄, sieve.Counterparts whole thin doc docToo →
    plan.filterMap (Mutation.revision? doc.id) = planToo.filterMap (Mutation.revision? docToo.id)
  records : (plan.filterMap Mutation.record?).filter sieve.admits =
    (planToo.filterMap Mutation.record?).filter sieve.admits

namespace Agree

variable {sieve : Sieve} {whole thin : Store} {plan planToo more moreToo : List Mutation}

theorem nil : Agree sieve whole thin [] [] :=
  ⟨fun _ _ _ => rfl, rfl⟩

theorem append (first : Agree sieve whole thin plan planToo)
    (second : Agree sieve whole thin more moreToo) :
    Agree sieve whole thin (plan ++ more) (planToo ++ moreToo) where
  revisions doc docToo counterparts := by
    rw [List.filterMap_append, List.filterMap_append, first.revisions counterparts,
      second.revisions counterparts]
  records := by
    rw [List.filterMap_append, List.filterMap_append, List.filter_append, List.filter_append,
      first.records, second.records]

theorem flatten {plans plansToo : List (List Mutation)}
    (each : List.Forall₂ (Agree sieve whole thin) plans plansToo) :
    Agree sieve whole thin plans.flatten plansToo.flatten := by
  induction each with
  | nil => exact .nil
  | cons first _ ih => exact first.append ih

/-- A record is added on the sides on which nothing is found, unless it should not be stored. -/
theorem insert {doc : Doc} {found foundToo : Option Doc}
    (same : sieve.admits doc → found.isSome = foundToo.isSome) :
    Agree sieve whole thin (if found.isNone then [.insert doc] else [])
      (if foundToo.isNone then [.insert doc] else []) where
  revisions _ _ _ := by
    split <;> split <;> rfl
  records := by
    cases isAdmitted : sieve.admits doc with
    | true =>
        have together := same isAdmitted
        cases found <;> cases foundToo <;> simp at together ⊢
    | false =>
        have nothing (found : Option Doc) :
            ((if found.isNone then [Mutation.insert doc] else []).filterMap
              Mutation.record?).filter sieve.admits = [] := by
          cases found <;> simp [Mutation.record?, isAdmitted]
        rw [nothing, nothing]

/-- The record of a variable that is missed can be added on the one side alone. -/
theorem unwanted {doc : Doc} {found : Option Doc} (isMissed : sieve.misses doc) :
    Agree sieve whole thin (if found.isNone then [.insert doc] else []) [] := by
  have added : Agree sieve whole thin (if found.isNone then [.insert doc] else [])
      (if (some doc).isNone then [.insert doc] else []) := .insert fun isAdmitted => by
    simp [Sieve.admits, isMissed] at isAdmitted
  exact added

section Found

variable {changes : List (Doc → Doc)}

/-- A change aimed at what a look-up finds reaches a record exactly if it is found. -/
theorem revisions_found {floor : Int} {store : Store} (layered : store.Layered floor) {doc : Doc}
    (isStored : doc ∈ store.docs) (category : Category) (name filePath : String)
    (aim : Int → List Mutation)
    (aims : ∀ target id,
      (aim target).filterMap (Mutation.revision? id) = if target = id then changes else []) :
    (store.lookup? category name filePath = some doc →
      ((store.lookup? category name filePath).toList.flatMap fun doc => aim doc.id).filterMap
        (Mutation.revision? doc.id) = changes) ∧
    (store.lookup? category name filePath ≠ some doc →
      ((store.lookup? category name filePath).toList.flatMap fun doc => aim doc.id).filterMap
        (Mutation.revision? doc.id) = []) := by
  cases found : store.lookup? category name filePath with
  | none => simp
  | some target =>
      rw [Option.toList_some, List.flatMap_singleton, aims]
      constructor
      · intro same
        cases same
        rw [if_pos rfl]
      · intro different
        refine if_neg fun same => different ?_
        rw [layered.eq_of_id (Store.mem_of_lookup? found).1 isStored same]

/-- Changes aimed at what a look-up finds agree, whether something is found or not. -/
theorem found (sifted : whole.Sifted sieve thin) (category : Category) (name filePath : String)
    (aim : Int → List Mutation)
    (aims : ∀ target id,
      (aim target).filterMap (Mutation.revision? id) = if target = id then changes else [])
    (bare : ∀ target, (aim target).filterMap Mutation.record? = []) :
    Agree sieve whole thin
      ((whole.lookup? category name filePath).toList.flatMap fun doc => aim doc.id)
      ((thin.lookup? category name filePath).toList.flatMap fun doc => aim doc.id) where
  revisions doc docToo counterparts := by
    have areSeen := List.of_mem_zip counterparts
    have left := revisions_found sifted.layered (List.mem_of_mem_filter areSeen.1) category name
      filePath aim aims
    have right := revisions_found sifted.layeredToo (List.mem_of_mem_filter areSeen.2) category name
      filePath aim aims
    by_cases isFound : whole.lookup? category name filePath = some doc
    · rw [left.1 isFound, right.1 ((sifted.lookup?_iff counterparts).1 isFound)]
    · rw [left.2 isFound, right.2 (mt (sifted.lookup?_iff counterparts).2 isFound)]
  records := by
    have nothing (found : Option Doc) :
        (found.toList.flatMap fun doc => aim doc.id).filterMap Mutation.record? = [] := by
      cases found with
      | none => rfl
      | some doc => rw [Option.toList_some, List.flatMap_singleton, bare]
    rw [nothing, nothing]

theorem update (sifted : whole.Sifted sieve thin) (category : Category) (name filePath : String)
    (change : ExportChange) :
    Agree sieve whole thin
      ((whole.lookup? category name filePath).toList.map fun doc => .update doc.id change)
      ((thin.lookup? category name filePath).toList.map fun doc => .update doc.id change) := by
  have aims (target id : Int) : [Mutation.update target change].filterMap (Mutation.revision? id) =
      if target = id then [change.apply] else [] := by
    by_cases same : target = id <;> simp [Mutation.revision?, same]
  rw [List.map_eq_flatMap, List.map_eq_flatMap]
  exact found sifted category name filePath _ aims fun _ => rfl

/-- A change of a record that is missed on the one side agrees with none on the other. -/
theorem missed (layered : whole.Layered sieve.floor) {category : Category} {name filePath : String}
    (isMissed : ∀ doc : Doc, doc.isCalled category name filePath → sieve.misses doc)
    (aim : Int → List Mutation)
    (aims : ∀ target id,
      (aim target).filterMap (Mutation.revision? id) = if target = id then changes else [])
    (bare : ∀ target, (aim target).filterMap Mutation.record? = []) :
    Agree sieve whole thin
      ((whole.lookup? category name filePath).toList.flatMap fun doc => aim doc.id) [] where
  revisions doc docToo counterparts := by
    have areSeen := List.of_mem_zip counterparts
    rcases List.mem_filter.1 areSeen.1 with ⟨isStored, isSeen⟩
    refine (revisions_found layered isStored category name filePath aim aims).2 fun found => ?_
    have called := Doc.isCalled_iff.2 (Store.mem_of_lookup? found).2
    simp [Sieve.sees, isMissed doc called] at isSeen
  records := by
    cases whole.lookup? category name filePath with
    | none => rfl
    | some doc => rw [Option.toList_some, List.flatMap_singleton, bare]; rfl

end Found

end Agree

namespace Export

/-- What two planning steps start from: a store each, which planning does not change. -/
def Reading (whole thin : Store) (left right : Progress) : Prop :=
  left.store = whole ∧ right.store = thin

/-- Two planning steps that make plans which agree. -/
abbrev PlannedAlike (sieve : Sieve) (whole thin : Store) (left right : Run (List Mutation)) :
    Prop :=
  Paired (Reading whole thin) (Agree sieve whole thin) left right

variable {scope : Scope} {keeps : Category → Option String → Bool} {sieve : Sieve}
  {whole thin : Store}

theorem lift_paired {α β : Type} {action : StateM Progress α} {actionToo : StateM Progress β}
    (quiet : Quiet action) (quietToo : Quiet actionToo) :
    Paired (Reading whole thin) (fun _ _ => True) (liftM action) (liftM actionToo) :=
  Paired.lift fun before beforeToo reading =>
    ⟨trivial, (quiet before).1.trans reading.1, (quietToo beforeToo).1.trans reading.2⟩

theorem find?_paired (category : Category) (name : String) :
    Paired (Reading whole thin) (fun found foundToo =>
        found = whole.lookup? category name scope.filePath ∧
          foundToo = thin.lookup? category name scope.filePath)
      (find? scope category name) (find? (scope.filtered keeps) category name) := by
  refine Paired.get.bind fun progress progressToo reading => Paired.pure ?_
  rw [← reading.1, ← reading.2]
  exact ⟨rfl, rfl⟩

theorem planName_paired (sifted : whole.Sifted sieve thin) (name importStyle : String) :
    PlannedAlike sieve whole thin (planName scope name importStyle)
      (planName (scope.filtered keeps) name importStyle) := by
  have each (category : Category) : Paired (Reading whole thin) (fun found foundToo =>
      ∃ category, found = whole.lookup? category name scope.filePath ∧
        foundToo = thin.lookup? category name scope.filePath)
      (find? scope category name) (find? (scope.filtered keeps) category name) :=
    (find?_paired category name).mono fun _ _ same => ⟨category, same⟩
  refine (Paired.mapM each _).bind fun found foundToo same => Paired.pure ?_
  induction same with
  | nil => exact .nil
  | @cons first firstToo rest restToo related _ ih =>
      rcases related with ⟨category, isFound, isFoundToo⟩
      have together := (Agree.update sifted category name scope.filePath
        ⟨some importStyle, none⟩).append ih
      rw [← isFound, ← isFoundToo] at together
      cases first <;> cases firstToo <;> simpa using together

/-! ## Companions -/

/-- The type that the comments of an export give to what it exports. -/
def declaredType (exportNode : Node) : Except Fault (Option Param) :=
  match Tag.lastValue? ["@type"] (Comment.docTags exportNode.leading) with
  | none => .ok none
  | some value => some <$> Param.parse { type := true, name := false, description := false } value

/-- What an export changes in the record of the variable that holds its instance. -/
def companionChange (filePath : String) (exportNode : Node) (variableName className : String) :
    ExportChange :=
  ⟨(styledCompanion exportNode variableName).style, some (instanceType filePath className)⟩

/-- The changes of the record of a variable: texts are added to it before it is exported. -/
def companionChanges (texts : List String) (change : ExportChange) (target : Int) : List Mutation :=
  texts.map (.append target) ++ [.update target change]

/-- The record that is added for a variable of which there is none. -/
def companionRecord (change : ExportChange) (companion : Doc) : Doc :=
  { change.apply companion with pseudoExport := true }

/-- The plan for the variable that holds an exported instance, for what is found of it. -/
def companionPlan (change : ExportChange) (companion : Doc) (found : Option Doc) :
    List Mutation :=
  (if found.isNone then [.insert (companionRecord change companion)] else []) ++
    found.toList.flatMap fun doc =>
      companionChanges (companion.description.filter (!·.isEmpty)).toList change doc.id

/-- The draft of the record of the variable that holds an exported instance. -/
def companionDraft (scope : Scope) (links : Links) (first : NodeId)
    (variableName className : String) (exportNode : Node) : Draft :=
  ⟨scope, links, unassignedId, Node.instanceDeclaration first variableName className exportNode,
    Comment.docTags exportNode.leading⟩

theorem planCompanion_eq (scope : Scope) (exportNode : Node) (variableName className : String) :
    planCompanion scope exportNode variableName className =
      (liftM (freshNodes Node.instanceDeclarationSize) >>= fun first =>
        liftM (setParent (Node.instanceDeclaration first variableName className exportNode)
          (some scope.program)) >>= fun _ =>
        build scope unassignedId .moduleVariable
          (Node.instanceDeclaration first variableName className exportNode)
          (Comment.docTags exportNode.leading) >>= fun companion =>
        find? scope .moduleVariable variableName >>= fun found =>
        pure (companionPlan (companionChange scope.filePath exportNode variableName className)
          companion found)) := by
  unfold planCompanion
  refine bind_congr fun first => bind_congr fun _ => bind_congr fun companion =>
    bind_congr fun found => ?_
  cases found with
  | none => rfl
  | some doc =>
      simp only [companionPlan, Option.isNone_some, Bool.false_eq_true, if_false, List.nil_append,
        Option.toList_some, List.flatMap_singleton]
      rfl

/-- Apart from the type, the record is made without asking the comments. -/
theorem build_companionDraft (scope : Scope) (links : Links) (first : NodeId)
    (variableName className : String) (exportNode : Node) :
    (companionDraft scope links first variableName className exportNode).build .moduleVariable =
      declaredType exportNode >>= fun type => pure
        { (companionDraft scope links first variableName className exportNode).moduleDoc
            .moduleVariable (some variableName) with
          type := type.or (some (.ofType ((Draft.classLongname?
            ⟨scope, {}, unassignedId, exportNode, []⟩ className).getD "*"))) } := by
  have unfolded :
      (companionDraft scope links first variableName className exportNode).build .moduleVariable =
        Except.bind (Except.bind (declaredType exportNode) _) _ := rfl
  rw [unfolded]
  cases declaredType exportNode with
  | error fault => rfl
  | ok type => cases type <;> rfl

/-- Two records of one variable that differ only in what exports change, and not in their words. -/
structure Companions (variableName filePath : String) (companion companionToo : Doc) : Prop where
  outline : companionToo.outline = companion.outline
  description : companionToo.description = companion.description
  called : companion.isCalled .moduleVariable variableName filePath

/-- The record does not depend on what has happened before, but for what the export sets in it. -/
theorem companions_alike (links linksToo : Links) (first firstToo : NodeId)
    (variableName className : String) (exportNode : Node) :
    Alike (Companions variableName scope.filePath)
      ((companionDraft scope links first variableName className exportNode).build .moduleVariable)
      ((companionDraft (scope.filtered keeps) linksToo firstToo variableName className
        exportNode).build .moduleVariable) := by
  rw [build_companionDraft, build_companionDraft]
  cases declaredType exportNode with
  | error fault => exact .error fault
  | ok type => exact .ok ⟨rfl, rfl, Doc.isCalled_iff.2 ⟨rfl, rfl, rfl⟩⟩

theorem Companions.apply_eq {variableName filePath : String} {companion companionToo : Doc}
    (same : Companions variableName filePath companion companionToo) (exportNode : Node)
    (className : String) :
    (companionChange filePath exportNode variableName className).apply companionToo =
      (companionChange filePath exportNode variableName className).apply companion := by
  have of_outline (doc : Doc) :
      (companionChange filePath exportNode variableName className).apply doc =
        { doc.outline with
          exported := true
          importStyle := (styledCompanion exportNode variableName).style
          type := some (instanceType filePath className)
          description := doc.description } := rfl
  rw [of_outline, of_outline, same.outline, same.description]

theorem companion_aims (texts : List String) (change : ExportChange) (target id : Int) :
    (companionChanges texts change target).filterMap (Mutation.revision? id) =
      if target = id then texts.map Doc.describeMore ++ [change.apply] else [] := by
  unfold companionChanges
  rw [List.filterMap_append, List.filterMap_map]
  by_cases same : target = id
  · have described : (Mutation.revision? id ∘ Mutation.append target) =
        fun text => some (Doc.describeMore text) := by
      funext text
      simp [Mutation.revision?, same]
    rw [described, List.filterMap_eq_map', if_pos same]
    simp [Mutation.revision?, same]
  · have spared : (Mutation.revision? id ∘ Mutation.append target) = fun _ => none := by
      funext text
      simp [Mutation.revision?, same]
    rw [spared, if_neg same]
    simp [Mutation.revision?, same]

theorem companion_bare (texts : List String) (change : ExportChange) (target : Int) :
    (companionChanges texts change target).filterMap Mutation.record? = [] := by
  simp [companionChanges, Mutation.record?]

/-- The plan for a variable is the same on both sides, whatever is found of it there. -/
theorem companionPlan_agree (sifted : whole.Sifted sieve thin)
    {variableName filePath className : String} {exportNode : Node} {companion companionToo : Doc}
    (same : Companions variableName filePath companion companionToo) :
    Agree sieve whole thin
      (companionPlan (companionChange filePath exportNode variableName className) companion
        (whole.lookup? .moduleVariable variableName filePath))
      (companionPlan (companionChange filePath exportNode variableName className) companionToo
        (thin.lookup? .moduleVariable variableName filePath)) := by
  unfold companionPlan companionRecord
  rw [same.apply_eq, same.description]
  refine (Agree.insert fun isAdmitted => ?_).append ?_
  · refine sifted.isSome_lookup? fun doc called => ?_
    -- the record that would be added has this name as well
    rwa [Sieve.admits_of_isCalled same.called called, ← Sieve.admits_of_isCalled same.called]
    exact same.called
  · exact Agree.found sifted _ _ _ _ (companion_aims _ _) (companion_bare _ _)

theorem planCompanion_paired (sifted : whole.Sifted sieve thin) (exportNode : Node)
    (variableName className : String) :
    PlannedAlike sieve whole thin (planCompanion scope exportNode variableName className)
      (planCompanion (scope.filtered keeps) exportNode variableName className) := by
  rw [planCompanion_eq, planCompanion_eq]
  refine (lift_paired (Quiet.freshNodes _) (Quiet.freshNodes _)).bind fun first firstToo _ => ?_
  refine (lift_paired (Quiet.setParent _ _) (Quiet.setParent _ _)).bind fun _ _ _ => ?_
  have builds : Paired (Reading whole thin) (Companions variableName scope.filePath)
      (build scope unassignedId .moduleVariable
        (Node.instanceDeclaration first variableName className exportNode)
        (Comment.docTags exportNode.leading))
      (build (scope.filtered keeps) unassignedId .moduleVariable
        (Node.instanceDeclaration firstToo variableName className exportNode)
        (Comment.docTags exportNode.leading)) := by
    intro before beforeToo outcome after reading making
    have makingToo : Ends (build (scope.filtered keeps) unassignedId .moduleVariable
      (Node.instanceDeclaration firstToo variableName className exportNode)
      (Comment.docTags exportNode.leading)) beforeToo _ _ := rfl
    rcases ends_build making with ⟨messages, rfl, rfl⟩
    rcases ends_build makingToo with ⟨messagesToo, left, made⟩
    refine ⟨_, _, makingToo, made ▸ companions_alike _ _ _ _ _ _ _, reading.1, ?_⟩
    rw [left]
    exact reading.2
  refine builds.bind fun companion companionToo same => ?_
  refine (find?_paired _ _).bind fun found foundToo looked => Paired.pure ?_
  rcases looked with ⟨rfl, rfl⟩
  exact companionPlan_agree sifted same

/-- A variable that is missed can be planned for on the one side alone. -/
theorem planCompanion_missed (layered : whole.Layered sieve.floor)
    (located : sieve.filePath = scope.filePath) {exportNode : Node} {variableName : String}
    (className : String) (isLost : variableName ∈ sieve.lost)
    (readable : (declaredType exportNode).isOk) :
    PlannedAlike sieve whole thin (planCompanion scope exportNode variableName className)
      (pure []) := by
  have isMissed (doc : Doc) (called : doc.isCalled .moduleVariable variableName scope.filePath) :
      sieve.misses doc := by
    rcases Doc.isCalled_iff.1 called with ⟨isVariable, named, isLocated⟩
    simp [Sieve.misses, isVariable, named, isLocated, located, isLost]
  intro before beforeToo outcome after reading ended
  have left : after.store = before.store := (planCompanion_drafts _ _ _).store ended
  refine ⟨.ok [], beforeToo, ends_pure.2 ⟨rfl, rfl⟩, ?_, left.trans reading.1, reading.2⟩
  rw [planCompanion_eq] at ended
  have drawn := ends_lift_bind.1 ended
  have linked := ends_lift_bind.1 drawn
  rcases ends_bind.1 linked with ⟨companion, built, making, rest⟩ | ⟨fault, failed, -⟩
  · rcases ends_build making with ⟨messages, rfl, made⟩
    rcases build_instanceDeclaration rfl made.symm with ⟨isVariable, named⟩
    rcases (build_sound making).2.2.1 companion rfl with ⟨links, heads⟩
    have unwanted : sieve.misses (companionRecord
        (companionChange scope.filePath exportNode variableName className) companion) :=
      isMissed companion (Doc.isCalled_iff.2 ⟨isVariable, named, heads.filePath⟩)
    rcases ends_bind.1 rest with ⟨found, looked, looking, planned⟩ | ⟨fault, failed, -⟩
    · rcases ends_find? looking with ⟨isFound, rfl⟩
      rcases ends_pure.1 planned with ⟨rfl, -⟩
      have recorded : found = whole.lookup? .moduleVariable variableName scope.filePath := by
        rw [← reading.1]
        exact isFound
      have changed : Agree sieve whole thin _ [] := Agree.missed layered isMissed _
        (companion_aims (companion.description.filter (!·.isEmpty)).toList
          (companionChange scope.filePath exportNode variableName className))
        (companion_bare _ _)
      rw [← recorded] at changed
      exact .ok ((Agree.unwanted unwanted).append changed)
    · rcases ends_bind.1 failed with ⟨_, _, _, rested⟩ | ⟨_, got, -⟩
      · cases (ends_pure.1 rested).1
      · cases (ends_get.1 got).1
  · rcases ends_build failed with ⟨messages, -, made⟩
    have impossible := made.trans (build_companionDraft scope after.links before.nextNode
      variableName className exportNode)
    cases declared : declaredType exportNode with
    | error other => simp [declared, Except.isOk, Except.toBool] at readable
    | ok type =>
        rw [declared] at impossible
        cases impossible

/-! ## Plans of exports -/

/-- The class and the name of the instance that an export may export as the default. -/
def defaultInstance? (program exportNode : Node) : Option (String × String) :=
  if isIgnored exportNode then none
  else
    match exportNode.shape with
    | .exportDefault declaration =>
        match declaration.map Node.shape with
        | some (.construct callee _) =>
            some (Node.calleeName callee, lowerFirst (Node.calleeName callee))
        | some (.identifier name) =>
            (program.findInstance? name).map fun declared => (instanceClass declared, name)
        | _ => none
    | _ => none

/-- A default instance is planned for on both sides, or its variable is one that is missed. -/
def Covered (scope : Scope) (lost : List String) (whole thin : Store) (exportNode : Node)
    (className variableName : String) : Prop :=
  (whole.lookup? .moduleClass className scope.filePath).isSome →
    thin.lookup? .moduleClass className scope.filePath = none →
    variableName ∈ lost ∧ (declaredType exportNode).isOk

theorem planInstance_paired (sifted : whole.Sifted sieve thin)
    (located : sieve.filePath = scope.filePath) {exportNode : Node}
    {className variableName : String}
    (covered : Covered scope sieve.lost whole thin exportNode className variableName) :
    PlannedAlike sieve whole thin (planInstance scope exportNode className variableName)
      (planInstance (scope.filtered keeps) exportNode className variableName) := by
  have marks := Agree.update sifted .moduleClass className scope.filePath ⟨none, none⟩
  refine (find?_paired _ _).bind fun found foundToo looked => ?_
  rcases looked with ⟨isFound, isFoundToo⟩
  rw [← isFound, ← isFoundToo] at marks
  cases found with
  | none =>
      cases foundToo with
      | none => exact Paired.pure .nil
      | some docToo =>
          have known := sifted.isSome_lookup?_moduleClass_of_thin isFoundToo.symm
          rw [← isFound] at known
          cases known
  | some doc =>
      cases foundToo with
      | some docToo =>
          exact (planCompanion_paired sifted exportNode variableName className).bind
            fun companion companionToo agree => Paired.pure (marks.append agree)
      | none =>
          -- the class is found on the one side alone, and its variable is missed there
          have known : (whole.lookup? .moduleClass className scope.filePath).isSome := by
            rw [← isFound]
            rfl
          rcases covered known isFoundToo.symm with ⟨isLost, readable⟩
          have alone : PlannedAlike sieve whole thin
              (planCompanion scope exportNode variableName className) (pure []) :=
            planCompanion_missed sifted.layered located className isLost readable
          exact alone.bind fun companion nothing agree => Paired.pure (marks.append agree)

theorem planDefault_paired (sifted : whole.Sifted sieve thin)
    (located : sieve.filePath = scope.filePath) {exportNode : Node} {declaration : Option Node}
    (isDefault : exportNode.shape = .exportDefault declaration)
    (heeded : isIgnored exportNode = false)
    (covered : ∀ className variableName,
      defaultInstance? scope.program exportNode = some (className, variableName) →
        Covered scope sieve.lost whole thin exportNode className variableName) :
    PlannedAlike sieve whole thin (planDefault scope exportNode declaration)
      (planDefault (scope.filtered keeps) exportNode declaration) := by
  simp only [defaultInstance?, heeded, isDefault] at covered
  unfold planDefault
  split
  · rename_i callee arguments shape
    rw [shape] at covered
    exact planInstance_paired sifted located (covered _ _ rfl)
  · rename_i name shape
    rw [shape] at covered
    have named := @planName_paired scope keeps sieve whole thin sifted name name
    have program : (scope.filtered keeps).program = scope.program := rfl
    rw [program]
    cases declared : scope.program.findInstance? name with
    | some declaration =>
        have instances := @planInstance_paired scope keeps sieve whole thin sifted located
          exportNode _ _ (covered (instanceClass declaration) name (by simp [declared]))
        exact instances.bind fun _ _ first => named.bind fun _ _ second =>
          Paired.pure (first.append second)
    | none =>
        have nothing : PlannedAlike sieve whole thin (pure []) (pure []) := Paired.pure .nil
        exact nothing.bind fun _ _ first => named.bind fun _ _ second =>
          Paired.pure (first.append second)
  · exact (lift_paired (Quiet.say _ _) (Quiet.say _ _)).bind fun _ _ _ => Paired.pure .nil

theorem planDeclarator_paired (sifted : whole.Sifted sieve thin) (exportNode declarator : Node) :
    PlannedAlike sieve whole thin (planDeclarator scope exportNode declarator)
      (planDeclarator (scope.filtered keeps) exportNode declarator) := by
  unfold planDeclarator
  split
  · exact Paired.pure .nil
  · rename_i callee constructed
    have marks := Agree.update sifted .moduleClass (Node.calleeName callee) scope.filePath
      ⟨none, none⟩
    refine (find?_paired _ _).bind fun found foundToo looked => ?_
    rcases looked with ⟨isFound, isFoundToo⟩
    rw [← isFound, ← isFoundToo] at marks
    split
    · exact Paired.pure marks
    · exact (planCompanion_paired sifted exportNode _ _).bind fun _ _ agree =>
        Paired.pure (marks.append agree)

theorem planSpecifier_paired (sifted : whole.Sifted sieve thin) (specifier : Node) :
    PlannedAlike sieve whole thin (planSpecifier scope specifier)
      (planSpecifier (scope.filtered keeps) specifier) := by
  unfold planSpecifier
  split
  · exact Paired.pure .nil
  · exact planName_paired sifted _ _

theorem planNamed_paired (sifted : whole.Sifted sieve thin) (exportNode : Node)
    (declaration : Option Node) (specifiers : List Node) (origin : Option Node) :
    PlannedAlike sieve whole thin (planNamed scope exportNode declaration specifiers origin)
      (planNamed (scope.filtered keeps) exportNode declaration specifiers origin) := by
  refine (Paired.mapM (planDeclarator_paired sifted exportNode) _).bind fun _ _ instances => ?_
  split
  · exact Paired.pure (.flatten instances)
  · refine (Paired.mapM (planSpecifier_paired sifted) _).bind fun _ _ named => ?_
    exact Paired.pure ((Agree.flatten instances).append (.flatten named))

/-- An export is planned for alike in both runs, as far as its default instance is covered. -/
theorem plan_paired (sifted : whole.Sifted sieve thin) (located : sieve.filePath = scope.filePath)
    {exportNode : Node}
    (covered : ∀ className variableName,
      defaultInstance? scope.program exportNode = some (className, variableName) →
        Covered scope sieve.lost whole thin exportNode className variableName) :
    PlannedAlike sieve whole thin (plan scope exportNode)
      (plan (scope.filtered keeps) exportNode) := by
  unfold plan
  split
  · exact Paired.pure .nil
  · rename_i notIgnored
    have heeded : isIgnored exportNode = false := by simpa [isIgnored] using notIgnored
    split
    · rename_i declaration shape
      exact planDefault_paired sifted located shape heeded covered
    · exact planNamed_paired sifted _ _ _ _
    · exact Paired.pure .nil

end Export

end DocHarvest
