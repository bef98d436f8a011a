import DocHarvest.Proofs.Module.Agreement
import DocHarvest.Proofs.Module.Naming

/-!
# Companions that exports ask for

An export of an instance asks for a record of the variable that holds it, its companion.
`Export.companionsAsked` lists what an export asks for, and `Export.Serves` says how a plan answers:
the record that is found is changed, and a record is made only where none is found. The types in a
plan are those of the instances that are asked for.
-/

namespace DocHarvest

open Run

/-- The variable of which a mutation adds a record. -/
def Mutation.addedName? (mutation : Mutation) : Option String :=
  mutation.record?.bind Doc.name

namespace Export

/-! ## What exports ask for -/

/-- The name that a declarator binds to a `new` expression. -/
def constructedName? (declarator : Node) : Option String :=
  if (declarator.initial?.bind Node.constructed?).isSome then
    declarator.bound?.bind Node.identifier?
  else none

/-- The names that the `new` declarators of an export bind. -/
def constructedNames (exportNode : Node) : List String :=
  match exportNode.shape with
  | .exportNamed declaration _ _ =>
      ((declaration.bind Node.declarators?).getD []).filterMap constructedName?
  | _ => []

/-- The class and the name of the instance for which a declarator asks for a companion. -/
def declaratorInstance? (declarator : Node) : Option (String × String) :=
  (declarator.initial?.bind Node.constructed?).bind fun callee =>
    let variableName := (declarator.bound?.bind Node.identifier?).getD ""
    if (Node.calleeName callee).isEmpty || variableName.isEmpty then none
    else some (Node.calleeName callee, variableName)

/-- The classes and the names of the instances that a named export declares. -/
def namedInstances (exportNode : Node) : List (String × String) :=
  if isIgnored exportNode then []
  else
    match exportNode.shape with
    | .exportNamed declaration _ _ =>
        ((declaration.bind Node.declarators?).getD []).filterMap declaratorInstance?
    | _ => []

/--
The instances, by class and name, for which an export asks for a companion when it is planned for a
store. A default export asks for one only if there is a record of the class.
-/
def companionsAsked (scope : Scope) (store : Store) (exportNode : Node) : List (String × String) :=
  ((defaultInstance? scope.program exportNode).toList.filter fun instanceOf =>
    (store.lookup? .moduleClass instanceOf.1 scope.filePath).isSome) ++ namedInstances exportNode

theorem lowerFirst_ne_empty {name : String} (named : name.isEmpty = false) :
    (lowerFirst name).isEmpty = false := by
  have lowered (first : Char) : Text.lowerChar first ≠ [] := by
    unfold Text.lowerChar
    dsimp only
    split
    · simp
    · split <;> simp
  unfold lowerFirst
  cases letters : name.toList with
  | nil => simp_all
  | cons first rest => simp [lowered]

/-- Whoever asks for a companion has a name for it. -/
theorem isEmpty_of_asked {scope : Scope} {store : Store} {exportNode : Node}
    {className variableName : String}
    (asked : (className, variableName) ∈ companionsAsked scope store exportNode) :
    variableName.isEmpty = false := by
  rcases List.mem_append.1 asked with isDefault | isNamed
  · rcases List.mem_filter.1 isDefault with ⟨exported, known⟩
    have instanceOf := Option.mem_toList.1 exported
    unfold defaultInstance? at instanceOf
    split at instanceOf
    · cases instanceOf
    · split at instanceOf
      · split at instanceOf
        · cases instanceOf
          refine lowerFirst_ne_empty ?_
          cases nameless : (Node.calleeName _).isEmpty with
          | false => rfl
          | true => simp [Store.lookup?_of_isEmpty _ _ nameless] at known
        · rcases Option.map_eq_some_iff.1 instanceOf with ⟨declared, found, same⟩
          cases same
          unfold Node.findInstance? at found
          split at found
          · cases found
          · rename_i named
            simpa using named
        · cases instanceOf
      · cases instanceOf
  · unfold namedInstances at isNamed
    split at isNamed
    · cases isNamed
    · split at isNamed
      · rcases List.mem_filterMap.1 isNamed with ⟨declarator, -, declares⟩
        rcases Option.bind_eq_some_iff.1 declares with ⟨callee, -, bound⟩
        dsimp only at bound
        split at bound
        · cases bound
        · rename_i named
          cases bound
          simp only [Bool.or_eq_true, not_or, Bool.not_eq_true] at named
          exact named.2
      · cases isNamed

/-- Who asks for a companion has an import style for it. -/
theorem styledCompanion_mem_stylings {scope : Scope} {store : Store} {exportNode : Node}
    {className variableName : String}
    (asked : (className, variableName) ∈ companionsAsked scope store exportNode) :
    styledCompanion exportNode variableName ∈ stylings scope store exportNode := by
  rcases List.mem_append.1 asked with isDefault | isNamed
  · rcases List.mem_filter.1 isDefault with ⟨exported, known⟩
    have instanceOf := Option.mem_toList.1 exported
    have styled : styledCompanion exportNode variableName ∈
        styledInstance scope store exportNode className variableName := by
      rw [styledInstance, if_pos known]
      simp
    unfold defaultInstance? at instanceOf
    split at instanceOf
    · cases instanceOf
    · rename_i heeded
      cases shape : exportNode.shape with
      | exportDefault declaration =>
          rw [stylings, if_neg heeded, shape]
          rw [shape] at instanceOf
          dsimp only at instanceOf ⊢
          unfold styledDefault
          cases isShape : declaration.map Node.shape with
          | none =>
              rw [isShape] at instanceOf
              cases instanceOf
          | some expression =>
              rw [isShape] at instanceOf
              cases expression with
              | construct callee arguments =>
                  cases instanceOf
                  exact styled
              | identifier name =>
                  rcases Option.map_eq_some_iff.1 instanceOf with ⟨declared, found, same⟩
                  cases same
                  dsimp only
                  rw [found]
                  exact List.mem_append_left _ styled
              | _ => cases instanceOf
      | _ =>
          rw [shape] at instanceOf
          cases instanceOf
  · unfold namedInstances at isNamed
    split at isNamed
    · cases isNamed
    · rename_i heeded
      cases shape : exportNode.shape with
      | exportNamed declaration specifiers origin =>
          rw [shape] at isNamed
          rw [stylings, if_neg heeded, shape]
          rcases List.mem_filterMap.1 isNamed with ⟨declarator, isDeclarator, declares⟩
          apply List.mem_append_left
          refine List.mem_flatMap.2 ⟨declarator, isDeclarator, ?_⟩
          rcases Option.bind_eq_some_iff.1 declares with ⟨callee, constructed, bound⟩
          dsimp only at bound
          split at bound
          · cases bound
          · rename_i named
            cases bound
            rw [styledByDeclarator, constructed]
            dsimp only
            rw [if_neg named]
            simp
      | _ =>
          rw [shape] at isNamed
          cases isNamed

/-! ## How plans answer -/

/--
A plan changes the records that are found of some instances, by class and name, and makes records of
those, and of no others, for which none are found. The types that it gives are those of instances.
-/
structure Serves (filePath : String) (exportNode : Node) (store : Store)
    (asked : List (String × String)) (plan : List Mutation) : Prop where
  inserted : plan.filterMap Mutation.addedName? = (asked.map Prod.snd).filter fun name =>
    (store.lookup? .moduleVariable name filePath).isNone
  updated : ∀ className name, (className, name) ∈ asked → ∀ doc,
    store.lookup? .moduleVariable name filePath = some doc →
      .update doc.id (companionChange filePath exportNode name className) ∈ plan
  typed : ∀ id change type, .update id change ∈ plan → change.type = some type →
    ∃ className name doc, (className, name) ∈ asked ∧
      store.lookup? .moduleVariable name filePath = some doc ∧ doc.id = id ∧
        type = instanceType filePath className
  made : ∀ doc, .insert doc ∈ plan → ∃ className name, (className, name) ∈ asked ∧
    doc.name = some name ∧ doc.type = some (instanceType filePath className) ∧
      doc.importStyle = (styledCompanion exportNode name).style

namespace Serves

variable {filePath : String} {exportNode : Node} {store : Store}
  {asked others : List (String × String)} {plan more : List Mutation}

/-- Changes that give no types answer nobody who asks for a companion. -/
theorem nothing (bare : ∀ mutation ∈ plan, ∃ id style, mutation = .update id ⟨style, none⟩) :
    Serves filePath exportNode store [] plan where
  inserted := by
    rw [List.map_nil, List.filter_nil, List.filterMap_eq_nil_iff]
    intro mutation planned
    rcases bare mutation planned with ⟨id, style, rfl⟩
    rfl
  updated className name isAsked := by cases isAsked
  typed id change type planned isTyped := by
    rcases bare _ planned with ⟨_, style, ⟨⟩⟩
    cases isTyped
  made doc planned := by
    rcases bare _ planned with ⟨_, style, ⟨⟩⟩

theorem nil : Serves filePath exportNode store [] [] :=
  nothing (by simp)

theorem append (first : Serves filePath exportNode store asked plan)
    (second : Serves filePath exportNode store others more) :
    Serves filePath exportNode store (asked ++ others) (plan ++ more) where
  inserted := by
    rw [List.filterMap_append, List.map_append, List.filter_append, first.inserted,
      second.inserted]
  updated className name isAsked doc found := by
    rcases List.mem_append.1 isAsked with inFirst | inSecond
    · exact List.mem_append_left _ (first.updated className name inFirst doc found)
    · exact List.mem_append_right _ (second.updated className name inSecond doc found)
  typed id change type planned isTyped := by
    rcases List.mem_append.1 planned with inFirst | inSecond
    · rcases first.typed id change type inFirst isTyped with ⟨className, name, doc, asks, gives⟩
      exact ⟨className, name, doc, List.mem_append_left _ asks, gives⟩
    · rcases second.typed id change type inSecond isTyped with ⟨className, name, doc, asks, gives⟩
      exact ⟨className, name, doc, List.mem_append_right _ asks, gives⟩
  made doc planned := by
    rcases List.mem_append.1 planned with inFirst | inSecond
    · rcases first.made doc inFirst with ⟨className, name, asks, gives⟩
      exact ⟨className, name, List.mem_append_left _ asks, gives⟩
    · rcases second.made doc inSecond with ⟨className, name, asks, gives⟩
      exact ⟨className, name, List.mem_append_right _ asks, gives⟩

/-- The record that is found of a variable is changed. -/
theorem found {className name : String} {doc : Doc} (texts : List String)
    (isFound : store.lookup? .moduleVariable name filePath = some doc) :
    Serves filePath exportNode store [(className, name)]
      (companionChanges texts (companionChange filePath exportNode name className) doc.id) where
  inserted := by
    have bare : ∀ mutation ∈ companionChanges texts
        (companionChange filePath exportNode name className) doc.id,
          mutation.addedName? = none := by
      intro mutation planned
      rcases List.mem_append.1 planned with described | changed
      · rcases List.mem_map.1 described with ⟨text, -, rfl⟩
        rfl
      · cases List.mem_singleton.1 changed
        rfl
    simpa [isFound] using bare
  updated other otherName isAsked known isKnown := by
    cases List.mem_singleton.1 isAsked
    cases isFound.symm.trans isKnown
    simp [companionChanges]
  typed id change type planned isTyped := by
    rcases List.mem_append.1 planned with described | changed
    · rcases List.mem_map.1 described with ⟨text, -, ⟨⟩⟩
    · cases List.mem_singleton.1 changed
      cases isTyped
      exact ⟨className, name, doc, List.mem_singleton_self _, isFound, rfl, rfl⟩
  made record planned := by
    rcases List.mem_append.1 planned with described | changed
    · rcases List.mem_map.1 described with ⟨text, -, ⟨⟩⟩
    · cases List.mem_singleton.1 changed

/-- A record is made of a variable of which none is found. -/
theorem missing {className name : String} {made : Doc} (named : made.name = some name)
    (isMissing : store.lookup? .moduleVariable name filePath = none) :
    Serves filePath exportNode store [(className, name)]
      [.insert (companionRecord (companionChange filePath exportNode name className) made)] where
  inserted := by
    simp [companionRecord, ExportChange.apply, Mutation.addedName?, Mutation.record?, isMissing,
      named]
  updated other otherName isAsked doc isFound := by
    cases List.mem_singleton.1 isAsked
    cases isMissing.symm.trans isFound
  typed id change type planned := by
    cases List.mem_singleton.1 planned
  made record planned := by
    cases List.mem_singleton.1 planned
    exact ⟨className, name, List.mem_singleton_self _, named, rfl, rfl⟩

theorem companion {className name : String} {made : Doc} (named : made.name = some name) :
    Serves filePath exportNode store [(className, name)]
      (companionPlan (companionChange filePath exportNode name className) made
        (store.lookup? .moduleVariable name filePath)) := by
  cases isFound : store.lookup? .moduleVariable name filePath with
  | none => simpa [companionPlan] using missing named isFound
  | some doc => simpa [companionPlan] using found _ isFound

end Serves

/-- A step that makes plans which answer to what is asked for over a store. -/
def Answers (scope : Scope) (exportNode : Node) (askedOf : Store → List (String × String))
    (step : Run (List Mutation)) : Prop :=
  ∀ ⦃before plan after⦄, Ends step before (.ok plan) after →
    Serves scope.filePath exportNode before.store (askedOf before.store) plan

namespace Answers

variable {scope : Scope} {exportNode : Node} {askedOf othersOf : Store → List (String × String)}

theorem nothing : Answers scope exportNode (fun _ => []) (pure []) :=
  Meets.nothing fun _ => Serves.nil

theorem append {first second : Run (List Mutation)}
    (answers : Answers scope exportNode askedOf first) (reads : Reads first)
    (answersToo : Answers scope exportNode othersOf second) :
    Answers scope exportNode (fun store => askedOf store ++ othersOf store)
      (first >>= fun plan => second >>= fun more => pure (plan ++ more)) :=
  Meets.append Serves.append answers reads answersToo

theorem mapM {askedBy : Node → List (String × String)} {work : Node → Run (List Mutation)}
    (each : ∀ part, Answers scope exportNode (fun _ => askedBy part) (work part))
    (reads : ∀ part, Reads (work part)) (parts : List Node) :
    Answers scope exportNode (fun _ => parts.flatMap askedBy)
      (parts.mapM work >>= fun plans => pure plans.flatten) :=
  Meets.mapM (@Serves.nil scope.filePath exportNode) Serves.append each reads parts

end Answers

variable {scope : Scope}

theorem planName_answers (exportNode : Node) (name importStyle : String) :
    Answers scope exportNode (fun _ => []) (planName scope name importStyle) := by
  intro before plan after ended
  rcases ends_bind_ok.1 ended with ⟨found, middle, -, rested⟩
  rcases ends_pure.1 rested with ⟨same, -⟩
  cases same
  refine .nothing fun mutation planned => ?_
  rcases List.mem_filterMap.1 planned with ⟨doc?, -, changes⟩
  rcases Option.map_eq_some_iff.1 changes with ⟨doc, -, rfl⟩
  exact ⟨_, _, rfl⟩

theorem planSpecifier_answers (exportNode specifier : Node) :
    Answers scope exportNode (fun _ => []) (planSpecifier scope specifier) := by
  unfold planSpecifier
  split
  · exact Answers.nothing
  · exact planName_answers _ _ _

theorem planCompanion_answers (exportNode : Node) (variableName className : String) :
    Answers scope exportNode (fun _ => [(className, variableName)])
      (planCompanion scope exportNode variableName className) := by
  intro before plan after ended
  rw [planCompanion_eq] at ended
  have drawn := ends_lift_bind.1 ended
  have linked := ends_lift_bind.1 drawn
  rcases ends_bind_ok.1 linked with ⟨companion, built, making, rest⟩
  rcases ends_build making with ⟨messages, rfl, made⟩
  rcases build_instanceDeclaration rfl made.symm with ⟨-, named⟩
  rcases ends_bind_ok.1 rest with ⟨found, looked, looking, planned⟩
  rcases ends_find? looking with ⟨rfl, rfl⟩
  rcases ends_pure.1 planned with ⟨same, -⟩
  cases same
  exact .companion named

/-- An instance asks for a companion if there is a record of its class. -/
theorem planInstance_answers (exportNode : Node) (className variableName : String) :
    Answers scope exportNode (fun store => [(className, variableName)].filter fun instanceOf =>
        (store.lookup? .moduleClass instanceOf.1 scope.filePath).isSome)
      (planInstance scope exportNode className variableName) := by
  intro before plan after ended
  rcases ends_bind_ok.1 ended with ⟨found, looked, looking, rest⟩
  rcases ends_find? looking with ⟨isFound, rfl⟩
  simp only [List.filter_cons, List.filter_nil, ← isFound]
  cases found with
  | none =>
      rcases ends_pure.1 rest with ⟨same, -⟩
      cases same
      exact .nothing (by simp)
  | some doc =>
      rcases ends_bind_ok.1 rest with ⟨companion, planned, planning, rested⟩
      rcases ends_pure.1 rested with ⟨same, -⟩
      cases same
      have marks : Serves scope.filePath exportNode looked.store []
          [.update doc.id ⟨none, none⟩] := .nothing (by simp)
      exact marks.append (planCompanion_answers exportNode variableName className planning)

theorem planDeclarator_answers (exportNode declarator : Node) :
    Answers scope exportNode (fun _ => (declaratorInstance? declarator).toList)
      (planDeclarator scope exportNode declarator) := by
  unfold planDeclarator declaratorInstance?
  cases constructed : declarator.initial?.bind Node.constructed? with
  | none => exact Answers.nothing
  | some callee =>
      intro before plan after ended
      rcases ends_bind_ok.1 ended with ⟨found, looked, looking, rest⟩
      rcases ends_find? looking with ⟨rfl, rfl⟩
      have marks : Serves scope.filePath exportNode looked.store []
          ((looked.store.lookup? .moduleClass (Node.calleeName callee)
            scope.filePath).toList.map fun doc => .update doc.id ⟨none, none⟩) := by
        refine .nothing fun mutation planned => ?_
        rcases List.mem_map.1 planned with ⟨doc, -, rfl⟩
        exact ⟨_, _, rfl⟩
      simp only [Option.bind_some]
      split at rest
      · rename_i unnamed
        rcases ends_pure.1 rest with ⟨same, -⟩
        cases same
        rw [if_pos unnamed]
        exact marks
      · rename_i named
        rcases ends_bind_ok.1 rest with ⟨companion, planned, planning, rested⟩
        rcases ends_pure.1 rested with ⟨same, -⟩
        cases same
        rw [if_neg named]
        exact marks.append (planCompanion_answers exportNode _ _ planning)

theorem planDefault_answers {exportNode : Node} {declaration : Option Node}
    (isDefault : exportNode.shape = .exportDefault declaration)
    (heeded : isIgnored exportNode = false) :
    Answers scope exportNode (fun store => companionsAsked scope store exportNode)
      (planDefault scope exportNode declaration) := by
  have noneNamed : namedInstances exportNode = [] := by
    rw [namedInstances, heeded, isDefault]
    rfl
  simp only [companionsAsked, noneNamed, List.append_nil, defaultInstance?, heeded, isDefault,
    Bool.false_eq_true, if_false]
  have unknown (text : String) : Answers scope exportNode (fun _ => [])
      (liftM (say .warning text) >>= fun _ => pure []) := by
    intro before plan after ended
    have said := ends_lift_bind.1 ended
    rcases ends_pure.1 said with ⟨same, -⟩
    cases same
    exact .nothing (by simp)
  unfold planDefault
  cases declaration.map Node.shape with
  | none => exact unknown _
  | some shape =>
      cases shape with
      | construct callee arguments => exact planInstance_answers _ _ _
      | identifier name =>
          have named : Answers scope exportNode _ (planName scope name name) :=
            planName_answers exportNode name name
          cases found : scope.program.findInstance? name with
          | none =>
              simp only [found]
              exact Answers.nothing.append (Reads.pure _) named
          | some declared =>
              have instances : Answers scope exportNode _ _ :=
                planInstance_answers exportNode (instanceClass declared) name
              have together := instances.append (planInstance_drafts _ _ _).reads named
              simpa [found] using together
      | _ => exact unknown _

theorem planNamed_answers {exportNode : Node} {declaration : Option Node} {specifiers : List Node}
    {origin : Option Node} (isNamed : exportNode.shape = .exportNamed declaration specifiers origin)
    (heeded : isIgnored exportNode = false) :
    Answers scope exportNode (fun store => companionsAsked scope store exportNode)
      (planNamed scope exportNode declaration specifiers origin) := by
  have noDefault : defaultInstance? scope.program exportNode = none := by
    rw [defaultInstance?, heeded, isNamed]
    rfl
  simp only [companionsAsked, noDefault, namedInstances, heeded, isNamed, Option.toList_none,
    List.filter_nil, List.nil_append, Bool.false_eq_true, if_false]
  unfold planNamed
  generalize (declaration.bind Node.declarators?).getD [] = declarators
  have instances : Answers scope exportNode _ _ := Answers.mapM (planDeclarator_answers exportNode)
    (fun _ => (planDeclarator_drafts exportNode _).reads) declarators
  have named : Answers scope exportNode _ _ := Answers.mapM (planSpecifier_answers exportNode)
    (fun _ => (planSpecifier_drafts _).reads) specifiers
  have nobody : specifiers.flatMap (fun _ => ([] : List (String × String))) = [] :=
    List.flatMap_eq_nil_iff.2 fun _ _ => rfl
  rw [← List.filterMap_eq_flatMap_toList] at instances
  cases origin with
  | some source => simpa using instances
  | none =>
      have planned : Reads (declarators.mapM (planDeclarator scope exportNode)) :=
        (Drafts.mapM (planDeclarator_drafts exportNode) _).reads
      have reads := planned.bind fun plans => Reads.pure plans.flatten
      have together := instances.append reads named
      simpa [nobody] using together

/-- A plan answers all that its export asks for. -/
theorem plan_answers (exportNode : Node) :
    Answers scope exportNode (fun store => companionsAsked scope store exportNode)
      (plan scope exportNode) := by
  unfold plan
  split
  · rename_i isOut
    have ignored : isIgnored exportNode = true := isOut
    simp only [companionsAsked, defaultInstance?, namedInstances, ignored]
    exact Answers.nothing
  · rename_i notIgnored
    have heeded : isIgnored exportNode = false := by simpa [isIgnored] using notIgnored
    split
    · rename_i declaration shape
      exact planDefault_answers shape heeded
    · rename_i declaration specifiers origin shape
      exact planNamed_answers shape heeded
    · rename_i noDefault noNamed
      have nothing (store : Store) : companionsAsked scope store exportNode = [] := by
        unfold companionsAsked defaultInstance? namedInstances
        rw [heeded]
        cases shape : exportNode.shape with
        | exportDefault declaration => exact absurd shape (noDefault declaration)
        | exportNamed declaration specifiers origin =>
            exact absurd shape (noNamed declaration specifiers origin)
        | _ => rfl
      simp only [nothing]
      exact Answers.nothing

theorem constructedName?_eq_some {declarator : Node} {className variableName : String}
    (declares : declaratorInstance? declarator = some (className, variableName)) :
    constructedName? declarator = some variableName := by
  rcases Option.bind_eq_some_iff.1 declares with ⟨callee, constructed, bound⟩
  rw [constructedName?, constructed, Option.isSome_some, if_pos rfl]
  dsimp only at bound
  split at bound
  · cases bound
  · rename_i named
    cases bound
    cases identified : declarator.bound?.bind Node.identifier? with
    | none => simp [identified] at named
    | some name => rfl

/-- What a named export asks for is among the names that its `new` declarators bind. -/
theorem namedInstances_sublist (exportNode : Node) :
    ((namedInstances exportNode).map Prod.snd).Sublist (constructedNames exportNode) := by
  unfold namedInstances constructedNames
  split
  · exact List.nil_sublist _
  · cases exportNode.shape with
    | exportNamed declaration specifiers origin =>
        dsimp only
        induction (declaration.bind Node.declarators?).getD [] with
        | nil => exact List.nil_sublist _
        | cons declarator declarators ih =>
            cases declares : declaratorInstance? declarator with
            | none =>
                rw [List.filterMap_cons_none declares]
                exact ih.trans ((List.sublist_cons_self _ _).filterMap _)
            | some instanceOf =>
                rw [List.filterMap_cons_some declares,
                  List.filterMap_cons_some (constructedName?_eq_some declares)]
                exact ih.cons_cons _
    | _ => exact List.nil_sublist _

/-- A default export declares nothing. -/
theorem namedInstances_of_default {program exportNode : Node} {instanceOf : String × String}
    (isDefault : defaultInstance? program exportNode = some instanceOf) :
    namedInstances exportNode = [] := by
  unfold defaultInstance? at isDefault
  unfold namedInstances
  split at isDefault
  · cases isDefault
  · cases shape : exportNode.shape with
    | exportNamed declaration specifiers origin =>
        rw [shape] at isDefault
        cases isDefault
    | _ => split <;> rfl

/-- No export asks twice for one companion, if its `new` declarators bind distinct names. -/
theorem nodup_asked {scope : Scope} {exportNode : Node}
    (distinct : (constructedNames exportNode).Nodup) (store : Store) :
    ((companionsAsked scope store exportNode).map Prod.snd).Nodup := by
  unfold companionsAsked
  cases isDefault : defaultInstance? scope.program exportNode with
  | none => exact distinct.sublist (namedInstances_sublist exportNode)
  | some instanceOf =>
      rw [namedInstances_of_default isDefault, List.append_nil, Option.toList_some]
      exact (List.nodup_singleton instanceOf.2).sublist (List.filter_sublist.map _)

/-- So a name is asked for with one class only. -/
theorem eq_of_asked {scope : Scope} {store : Store} {exportNode : Node}
    {className other name : String} (distinct : (constructedNames exportNode).Nodup)
    (asked : (className, name) ∈ companionsAsked scope store exportNode)
    (askedToo : (other, name) ∈ companionsAsked scope store exportNode) : other = className :=
  congrArg Prod.fst (List.inj_on_of_nodup_map (nodup_asked distinct store) askedToo asked rfl)

end Export

end DocHarvest
