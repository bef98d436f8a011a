import DocHarvest.Proofs.Module.Agreement

/-!
# Which names an export looks up

Planning an export reads the store by looking up names. `Export.lookedUp` lists these names, and
`Export.Planning` relates two plannings over stores that answer alike for them: the plans are the
same, whatever else the stores hold. Of the links and the identities of nodes a plan has nothing.
-/

namespace DocHarvest

open Run

namespace Export

/-- The names that planning an export looks up. No name at all is never looked up. -/
def lookedUp (scope : Scope) (store : Store) (exportNode : Node) : List String :=
  (instanceClasses scope.program exportNode ++ (names scope store exportNode).map Prod.snd).filter
    fun name => !name.isEmpty

variable {scope : Scope} {base baseToo : Progress}

/-- A name under which two stores have the same records of the module. -/
def SameFor (scope : Scope) (base baseToo : Progress) (name : String) : Prop :=
  ∀ category, baseToo.store.lookup? category name scope.filePath =
    base.store.lookup? category name scope.filePath

theorem SameFor.empty {name : String} (nameless : name.isEmpty) :
    SameFor scope base baseToo name := by
  intro category
  rw [Store.lookup?, if_pos nameless, Store.lookup?, if_pos nameless]

/--
Two states on the way of two plannings. The stores and the lists of invalid code are those of the
starts, and the same messages have been added.
-/
structure Planning (base baseToo now nowToo : Progress) : Prop where
  store : now.store = base.store
  storeToo : nowToo.store = baseToo.store
  invalid : now.invalid = base.invalid
  invalidToo : nowToo.invalid = baseToo.invalid
  messages : ∃ texts, now.messages = base.messages ++ texts ∧
    nowToo.messages = baseToo.messages ++ texts

/-- Two steps that make one plan. -/
abbrev PlannedOnce {α : Type} (base baseToo : Progress) (step : Run α) : Prop :=
  Paired (Planning base baseToo) (· = ·) step step

theorem Planning.start : Planning base baseToo base baseToo where
  store := rfl
  storeToo := rfl
  invalid := rfl
  invalidToo := rfl
  messages := ⟨[], by simp, by simp⟩

/-- Changes of links and of identities of nodes do not matter. -/
theorem Planning.relink {now nowToo : Progress} (planning : Planning base baseToo now nowToo)
    (links linksToo : Links) (nextNode nextNodeToo : NodeId) :
    Planning base baseToo { now with links, nextNode }
      { nowToo with links := linksToo, nextNode := nextNodeToo } :=
  { planning with }

theorem say_once (level : Level) (text : String) :
    PlannedOnce base baseToo (liftM (say level text)) := by
  refine Paired.lift fun now nowToo planning => ⟨rfl, ?_⟩
  rcases planning.messages with ⟨texts, said, saidToo⟩
  refine { planning with messages := ⟨texts ++ [⟨level, text⟩], ?_, ?_⟩ }
  · exact (congrArg (· ++ [⟨level, text⟩]) said).trans (List.append_assoc _ _ _)
  · exact (congrArg (· ++ [⟨level, text⟩]) saidToo).trans (List.append_assoc _ _ _)

theorem find?_once {name : String} (same : SameFor scope base baseToo name) (category : Category) :
    PlannedOnce base baseToo (find? scope category name) := by
  refine Paired.get.bind fun now nowToo planning => Paired.pure ?_
  rw [planning.store, planning.storeToo, same]

theorem mapM_once {α β : Type} {work : α → Run β} {parts : List α}
    (each : ∀ part ∈ parts, PlannedOnce base baseToo (work part)) :
    PlannedOnce base baseToo (parts.mapM work) :=
  (Paired.mapM_of_mem each).mono fun _ _ same => List.forall₂_eq_eq_eq ▸ same

theorem bind_once {α β : Type} {step : Run α} {next : α → Run β}
    (first : PlannedOnce base baseToo step)
    (second : ∀ value, PlannedOnce base baseToo (next value)) :
    PlannedOnce base baseToo (step >>= next) :=
  first.bind fun value _ same => same ▸ second value

theorem planName_once {name : String} (same : SameFor scope base baseToo name)
    (importStyle : String) : PlannedOnce base baseToo (planName scope name importStyle) :=
  bind_once (mapM_once fun category _ => find?_once same category) fun _ => Paired.pure rfl

/-- Making the record of a variable says nothing. -/
theorem build_variable (id : Int) (node : Node) (tags : List Tag) :
    build scope id .moduleVariable node tags = (get >>= fun progress : Progress =>
      liftM (Draft.build ⟨scope, progress.links, id, node, tags⟩ .moduleVariable)) :=
  rfl

/-- Two records that the same plan is made with. -/
def MakesOnePlan (scope : Scope) (exportNode : Node) (variableName className : String)
    (companion companionToo : Doc) : Prop :=
  ∀ found, companionPlan (companionChange scope.filePath exportNode variableName className)
    companionToo found =
    companionPlan (companionChange scope.filePath exportNode variableName className) companion found

/-- The record of a variable is made from the links, but the plan has nothing of them. -/
theorem companions_make_one_plan (links linksToo : Links) (first firstToo : NodeId)
    (variableName className : String) (exportNode : Node) :
    Alike (MakesOnePlan scope exportNode variableName className)
      ((companionDraft scope links first variableName className exportNode).build .moduleVariable)
      ((companionDraft scope linksToo firstToo variableName className exportNode).build
        .moduleVariable) := by
  rw [build_companionDraft, build_companionDraft]
  cases declaredType exportNode with
  | error fault => exact .error fault
  | ok type => exact .ok fun _ => rfl

theorem planCompanion_once {variableName : String}
    (same : SameFor scope base baseToo variableName) (exportNode : Node) (className : String) :
    PlannedOnce base baseToo (planCompanion scope exportNode variableName className) := by
  rw [planCompanion_eq]
  have drawn : Paired (Planning base baseToo) (fun _ _ => True)
      (liftM (freshNodes Node.instanceDeclarationSize) : Run NodeId)
      (liftM (freshNodes Node.instanceDeclarationSize)) :=
    Paired.lift fun _ _ planning => ⟨trivial, planning.relink _ _ _ _⟩
  refine drawn.bind fun first firstToo _ => ?_
  have linked : Paired (Planning base baseToo) (fun _ _ => True)
      (liftM (setParent (Node.instanceDeclaration first variableName className exportNode)
        (some scope.program)) : Run Unit)
      (liftM (setParent (Node.instanceDeclaration firstToo variableName className exportNode)
        (some scope.program))) :=
    Paired.lift fun _ _ planning => ⟨trivial, planning.relink _ _ _ _⟩
  refine linked.bind fun _ _ _ => ?_
  have made : Paired (Planning base baseToo) (MakesOnePlan scope exportNode variableName className)
      (build scope unassignedId .moduleVariable
        (Node.instanceDeclaration first variableName className exportNode)
        (Comment.docTags exportNode.leading))
      (build scope unassignedId .moduleVariable
        (Node.instanceDeclaration firstToo variableName className exportNode)
        (Comment.docTags exportNode.leading)) := by
    rw [build_variable, build_variable]
    refine Paired.get.bind fun now nowToo _ => Paired.liftExcept ?_
    exact companions_make_one_plan _ _ _ _ _ _ _
  refine made.bind fun companion companionToo onePlan => ?_
  refine (find?_once same _).bind fun found _ alike => Paired.pure ?_
  rw [← alike, onePlan]

/-- The variable of an instance is looked up only if its class is recorded. -/
theorem planInstance_once {className variableName : String}
    (sameClass : SameFor scope base baseToo className)
    (sameNames : ∀ key ∈ namedInstance scope base.store className variableName,
      SameFor scope base baseToo key.2) (exportNode : Node) :
    PlannedOnce base baseToo (planInstance scope exportNode className variableName) := by
  have looked : Paired (Planning base baseToo) (fun found foundToo => found = foundToo ∧
      found = base.store.lookup? .moduleClass className scope.filePath)
      (find? scope .moduleClass className) (find? scope .moduleClass className) := by
    refine Paired.get.bind fun now nowToo planning => Paired.pure ?_
    rw [planning.store, planning.storeToo, sameClass]
    exact ⟨rfl, rfl⟩
  refine looked.bind fun found foundToo alike => ?_
  obtain ⟨rfl, isFound⟩ := alike
  cases found with
  | none => exact Paired.pure rfl
  | some doc =>
      rw [namedInstance, ← isFound, Option.isSome_some, if_pos rfl] at sameNames
      have sameVariable := sameNames (.moduleVariable, variableName) (by simp)
      exact bind_once (planCompanion_once sameVariable _ _) fun _ => Paired.pure rfl

theorem planDefault_once (exportNode : Node) {declaration : Option Node}
    (sameClasses : ∀ name ∈ classesOfDefault scope.program declaration,
      SameFor scope base baseToo name)
    (sameNames : ∀ key ∈ namedDefault scope base.store declaration,
      SameFor scope base baseToo key.2) :
    PlannedOnce base baseToo (planDefault scope exportNode declaration) := by
  unfold planDefault
  unfold classesOfDefault at sameClasses
  unfold namedDefault at sameNames
  split
  · rename_i callee arguments shape
    rw [shape] at sameClasses sameNames
    exact planInstance_once (sameClasses _ (List.mem_singleton_self _)) sameNames _
  · rename_i name shape
    rw [shape] at sameClasses sameNames
    dsimp only at sameClasses sameNames
    have named : SameFor scope base baseToo name :=
      sameNames (.moduleClass, name)
        (List.mem_append_right _ (by simp [namedAnywhere, lookupCategories]))
    cases isDeclared : scope.program.findInstance? name with
    | some declared =>
        rw [isDeclared] at sameClasses sameNames
        have instances := planInstance_once (sameClasses _ (by simp))
          (fun key isKey => sameNames key (List.mem_append_left _ isKey)) exportNode
        exact bind_once instances fun _ => bind_once (planName_once named _) fun _ =>
          Paired.pure rfl
    | none =>
        exact bind_once (Paired.pure rfl) fun _ => bind_once (planName_once named _) fun _ =>
          Paired.pure rfl
  · exact bind_once (say_once _ _) fun _ => Paired.pure rfl

theorem planDeclarator_once (exportNode : Node) {declarator : Node}
    (same : ∀ key ∈ namedByDeclarator declarator, SameFor scope base baseToo key.2) :
    PlannedOnce base baseToo (planDeclarator scope exportNode declarator) := by
  unfold planDeclarator
  unfold namedByDeclarator at same
  split
  · exact Paired.pure rfl
  · rename_i callee constructed
    rw [constructed] at same
    dsimp only at same
    refine bind_once (find?_once (same _ (List.mem_cons_self ..)) _) fun found => ?_
    split
    · exact Paired.pure rfl
    · rename_i named
      rw [if_neg named] at same
      have sameVariable := same _ (List.mem_cons_of_mem _ (List.mem_singleton_self _))
      exact bind_once (planCompanion_once sameVariable _ _) fun _ => Paired.pure rfl

theorem planSpecifier_once {specifier : Node}
    (same : ∀ key ∈ namedBySpecifier specifier, SameFor scope base baseToo key.2) :
    PlannedOnce base baseToo (planSpecifier scope specifier) := by
  unfold planSpecifier
  unfold namedBySpecifier at same
  split
  · exact Paired.pure rfl
  · rename_i name outside isNamed
    rw [isNamed] at same
    exact planName_once (same (.moduleClass, name) (by simp [namedAnywhere, lookupCategories])) _

theorem planNamed_once (exportNode : Node) {declaration : Option Node} {specifiers : List Node}
    {origin : Option Node}
    (sameInstances : ∀ declarator ∈ (declaration.bind Node.declarators?).getD [],
      ∀ key ∈ namedByDeclarator declarator, SameFor scope base baseToo key.2)
    (sameNames : origin.isSome = false → ∀ specifier ∈ specifiers,
      ∀ key ∈ namedBySpecifier specifier, SameFor scope base baseToo key.2) :
    PlannedOnce base baseToo (planNamed scope exportNode declaration specifiers origin) := by
  refine bind_once (mapM_once fun declarator isDeclarator =>
    planDeclarator_once exportNode (sameInstances declarator isDeclarator)) fun instances => ?_
  split
  · exact Paired.pure rfl
  · rename_i own
    refine bind_once (mapM_once fun specifier isSpecifier => planSpecifier_once ?_) fun _ =>
      Paired.pure rfl
    exact sameNames (by simpa using own) specifier isSpecifier

/-- Over stores that answer alike for the names that an export looks up, it is planned for in one
way. -/
theorem plan_once_of_same {exportNode : Node}
    (same : ∀ name ∈ lookedUp scope base.store exportNode, SameFor scope base baseToo name) :
    PlannedOnce base baseToo (plan scope exportNode) := by
  have every (name : String) (isLookedUp : name ∈ instanceClasses scope.program exportNode ++
      (names scope base.store exportNode).map Prod.snd) : SameFor scope base baseToo name := by
    cases nameless : name.isEmpty with
    | true => exact .empty nameless
    | false => exact same name (List.mem_filter.2 ⟨isLookedUp, by simp [nameless]⟩)
  have sameClasses (name : String) (isClass : name ∈ instanceClasses scope.program exportNode) :=
    every name (List.mem_append_left _ isClass)
  have sameNames (key : Category × String) (isNamed : key ∈ names scope base.store exportNode) :=
    every key.2 (List.mem_append_right _ (List.mem_map_of_mem isNamed))
  unfold plan
  unfold instanceClasses isIgnored at sameClasses
  unfold names isIgnored at sameNames
  split
  · exact Paired.pure rfl
  · rename_i heeded
    rw [if_neg heeded] at sameClasses sameNames
    split
    · rename_i declaration shape
      rw [shape] at sameClasses sameNames
      exact planDefault_once exportNode sameClasses sameNames
    · rename_i declaration specifiers origin shape
      rw [shape] at sameNames
      refine planNamed_once exportNode ?_ ?_
      · intro declarator isDeclarator key isKey
        exact sameNames key (List.mem_append_left _
          (List.mem_flatMap.2 ⟨declarator, isDeclarator, isKey⟩))
      · intro own specifier isSpecifier key isKey
        refine sameNames key (List.mem_append_right _ ?_)
        rw [own]
        exact List.mem_flatMap.2 ⟨specifier, isSpecifier, isKey⟩
    · exact Paired.pure rfl

end Export

end DocHarvest
