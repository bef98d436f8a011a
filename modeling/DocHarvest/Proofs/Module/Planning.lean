import DocHarvest.Proofs.Module.Edits
import DocHarvest.Proofs.Module.Stylings
import DocHarvest.Proofs.Run.Leaves

/-!
# Plans of deferred exports

Planning only reads the store. What a plan changes there is told by `Export.stylings`, in the same
order, and what it adds are records of variables that the store knows nothing of. Every plan has the
form of `Edits`.
-/

namespace DocHarvest

open Run

/-! ## Planning reads the store -/

namespace Run

/-- A step that leaves the store alone, however it ends. -/
def Reads {α : Type} (step : Run α) : Prop :=
  ∀ ⦃before outcome after⦄, Ends step before outcome after → after.store = before.store

namespace Reads

variable {α β : Type}

theorem pure (value : α) : Reads (pure value) :=
  Leaves.pure value

theorem bind {step : Run α} {next : α → Run β} (first : Reads step)
    (second : ∀ value, Reads (next value)) : Reads (step >>= next) :=
  Leaves.bind first second

end Reads

theorem Drafts.reads {α : Type} {scope : Scope} {step : Run α} (drafts : Drafts scope step) :
    Reads step :=
  drafts.store

end Run

namespace Export

variable {scope : Scope}

section Views

variable {γ : Type} {view : Progress → γ}

theorem find?_leaves (category : Category) (name : String) :
    Leaves view (find? scope category name) :=
  Leaves.get.bind fun _ => Leaves.pure _

theorem planName_leaves (name importStyle : String) :
    Leaves view (planName scope name importStyle) :=
  (Leaves.mapM (fun category => find?_leaves category name) _).bind fun _ => Leaves.pure _

theorem planSpecifier_leaves (specifier : Node) : Leaves view (planSpecifier scope specifier) := by
  unfold planSpecifier
  split
  · exact Leaves.pure _
  · exact planName_leaves _ _

end Views

/-- Planning only reads the store. -/
theorem plan_reads (exportNode : Node) : Reads (plan scope exportNode) :=
  (plan_drafts exportNode).reads

end Export

/-! ## What is planned -/

/--
A plan for a store that restyles the records which some stylings find there, and adds only records of
variables that the store knows nothing of, under names that are styled.
-/
structure Carries (filePath : String) (store : Store) (stylings : List Styling)
    (plan : List Mutation) : Prop where
  restyles : plan.filterMap Mutation.restyling? =
    stylings.filterMap (Styling.restyling? filePath store)
  inserts : ∀ doc, Mutation.insert doc ∈ plan → doc.IsCompanion filePath store
  named : ∀ doc, Mutation.insert doc ∈ plan → ∃ styling ∈ stylings, doc.name = some styling.name
  edits : Edits filePath store plan

namespace Carries

variable {filePath : String} {store : Store} {stylings others : List Styling}
  {plan more : List Mutation}

theorem nil : Carries filePath store [] [] where
  restyles := rfl
  inserts doc planned := by cases planned
  named doc planned := by cases planned
  edits := .nil

theorem append (first : Carries filePath store stylings plan)
    (second : Carries filePath store others more) :
    Carries filePath store (stylings ++ others) (plan ++ more) where
  restyles := by rw [List.filterMap_append, List.filterMap_append, first.restyles, second.restyles]
  inserts doc planned := by
    rcases List.mem_append.1 planned with inFirst | inSecond
    · exact first.inserts doc inFirst
    · exact second.inserts doc inSecond
  named doc planned := by
    rcases List.mem_append.1 planned with inFirst | inSecond
    · rcases first.named doc inFirst with ⟨styling, isStyling, same⟩
      exact ⟨styling, List.mem_append_left _ isStyling, same⟩
    · rcases second.named doc inSecond with ⟨styling, isStyling, same⟩
      exact ⟨styling, List.mem_append_right _ isStyling, same⟩
  edits := first.edits.append second.edits

theorem lookup {category : Category} (name : String) {change : ExportChange}
    (suits : change.Suits filePath category) :
    Carries filePath store [⟨category, name, change.importStyle⟩]
      ((store.lookup? category name filePath).toList.map fun doc => .update doc.id change) where
  restyles := by
    simp only [List.filterMap_cons, List.filterMap_nil, Styling.restyling?]
    cases store.lookup? category name filePath <;> rfl
  inserts doc planned := by
    rcases List.mem_map.1 planned with ⟨_, _, impossible⟩
    cases impossible
  named doc planned := by
    rcases List.mem_map.1 planned with ⟨_, _, impossible⟩
    cases impossible
  edits := by
    cases found : store.lookup? category name filePath with
    | none => exact .nil
    | some doc => exact .update (Store.targets_of_lookup? found) suits .nil

/-- A variable can be described before it is changed. -/
theorem describe {name : String} {doc : Doc} {change : ExportChange}
    (found : store.lookup? .moduleVariable name filePath = some doc)
    (suits : change.Suits filePath .moduleVariable) (text : Option String) :
    Carries filePath store [⟨.moduleVariable, name, change.importStyle⟩]
      (text.toList.map (.append doc.id) ++ [.update doc.id change]) where
  restyles := by
    have bare : (text.toList.map (Mutation.append doc.id)).filterMap Mutation.restyling? = [] := by
      simp [Mutation.restyling?]
    rw [List.filterMap_append, bare, List.nil_append]
    simp [Styling.restyling?, found, Mutation.restyling?]
  inserts other planned := by simp at planned
  named other planned := by simp at planned
  edits := by
    have target := Store.targets_of_lookup? found
    cases text with
    | none => exact .update target suits .nil
    | some text => exact .describe target suits .nil

theorem make {name : String} {doc : Doc} {style : Option String}
    (missing : store.lookup? .moduleVariable name filePath = none) (named : doc.name = some name)
    (located : doc.filePath = filePath) (synthesized : doc.Synthesized) :
    Carries filePath store [⟨.moduleVariable, name, style⟩] [.insert doc] where
  restyles := by simp [Styling.restyling?, missing, Mutation.restyling?]
  inserts other planned := by
    cases List.mem_singleton.1 planned
    exact ⟨synthesized.category, name, named, missing⟩
  named other planned := by
    cases List.mem_singleton.1 planned
    exact ⟨_, List.mem_singleton_self _, named⟩
  edits := .insert located synthesized .nil

/-- The records that a plan updates are those that it restyles. -/
theorem exists_update_iff (carries : Carries filePath store stylings plan) (id : Int) :
    (∃ change, Mutation.update id change ∈ plan) ↔
      ∃ style, (id, style) ∈ stylings.filterMap (Styling.restyling? filePath store) := by
  rw [← carries.restyles]
  simp only [List.mem_filterMap]
  constructor
  · rintro ⟨change, planned⟩
    exact ⟨change.importStyle, _, planned, rfl⟩
  · rintro ⟨style, mutation, planned, restyles⟩
    cases mutation with
    | update other change =>
        cases restyles
        exact ⟨change, planned⟩
    | append other text => cases restyles
    | insert doc => cases restyles

end Carries

/-- A step that makes plans which meet a list of wishes over the store. -/
def Run.Meets {Wish : Type} (meets : Store → List Wish → List Mutation → Prop)
    (wishes : Store → List Wish) (step : Run (List Mutation)) : Prop :=
  ∀ ⦃before plan after⦄, Ends step before (.ok plan) after →
    meets before.store (wishes before.store) plan

namespace Run.Meets

variable {Wish : Type} {meets : Store → List Wish → List Mutation → Prop}

theorem nothing (nil : ∀ store, meets store [] []) : Meets meets (fun _ => []) (pure []) := by
  intro before plan after ended
  rcases ends_pure.1 ended with ⟨same, -⟩
  cases same
  exact nil before.store

/-- The second plan is made for the store of the first one, as planning only reads. -/
theorem append {wishes others : Store → List Wish} {first second : Run (List Mutation)}
    (joins : ∀ {store asked askedToo plan more}, meets store asked plan →
      meets store askedToo more → meets store (asked ++ askedToo) (plan ++ more))
    (met : Meets meets wishes first) (reads : Reads first) (metToo : Meets meets others second) :
    Meets meets (fun store => wishes store ++ others store)
      (first >>= fun plan => second >>= fun more => pure (plan ++ more)) := by
  intro before plan after ended
  rcases ends_bind_ok.1 ended with ⟨early, middle, ran, rest⟩
  rcases ends_bind_ok.1 rest with ⟨late, final, ranToo, rested⟩
  rcases ends_pure.1 rested with ⟨same, -⟩
  cases same
  have late := metToo ranToo
  rw [reads ran] at late
  exact joins (met ran) late

theorem mapM {wishesOf : Node → List Wish} {work : Node → Run (List Mutation)}
    (nil : ∀ store, meets store [] [])
    (joins : ∀ {store asked askedToo plan more}, meets store asked plan →
      meets store askedToo more → meets store (asked ++ askedToo) (plan ++ more))
    (each : ∀ part, Meets meets (fun _ => wishesOf part) (work part))
    (reads : ∀ part, Reads (work part)) (parts : List Node) :
    Meets meets (fun _ => parts.flatMap wishesOf)
      (parts.mapM work >>= fun plans => pure plans.flatten) := by
  induction parts with
  | nil => exact nothing nil
  | cons part parts ih =>
      have together := append joins (each part) (reads part) ih
      simp only [bind_assoc, pure_bind] at together
      simpa only [List.flatMap_cons, List.mapM_cons, bind_assoc, pure_bind, List.flatten_cons]
        using together

end Run.Meets

/-- A step that makes plans for some stylings. -/
def Plans (scope : Scope) (stylingsFor : Store → List Styling) (step : Run (List Mutation)) : Prop :=
  ∀ ⦃before plan after⦄, Ends step before (.ok plan) after →
    Carries scope.filePath before.store (stylingsFor before.store) plan

namespace Plans

variable {scope : Scope}

theorem nothing : Plans scope (fun _ => []) (pure []) :=
  Meets.nothing fun _ => Carries.nil

theorem append {stylingsFor othersFor : Store → List Styling} {first second : Run (List Mutation)}
    (plans : Plans scope stylingsFor first) (reads : Reads first)
    (plansToo : Plans scope othersFor second) :
    Plans scope (fun store => stylingsFor store ++ othersFor store)
      (first >>= fun plan => second >>= fun more => pure (plan ++ more)) :=
  Meets.append Carries.append plans reads plansToo

theorem mapM {stylingsOf : Node → List Styling} {work : Node → Run (List Mutation)}
    (each : ∀ part, Plans scope (fun _ => stylingsOf part) (work part))
    (reads : ∀ part, Reads (work part)) (parts : List Node) :
    Plans scope (fun _ => parts.flatMap stylingsOf)
      (parts.mapM work >>= fun plans => pure plans.flatten) :=
  Meets.mapM (@Carries.nil scope.filePath) Carries.append each reads parts

end Plans

namespace Export

variable {scope : Scope}

theorem ends_find? {category : Category} {name : String} {before after : Progress}
    {found : Option Doc} (ended : Ends (find? scope category name) before (.ok found) after) :
    found = before.store.lookup? category name scope.filePath ∧ after = before := by
  rcases ends_bind_ok.1 ended with ⟨state, middle, got, rested⟩
  rcases ends_get.1 got with ⟨same, rfl⟩
  cases same
  rcases ends_pure.1 rested with ⟨same, rfl⟩
  cases same
  exact ⟨rfl, rfl⟩

theorem ends_mapM_find? {categories : List Category} {name : String} {before after : Progress}
    {found : List (Option Doc)}
    (ended : Ends (categories.mapM fun category => find? scope category name) before (.ok found)
      after) :
    found = (categories.map fun category => before.store.lookup? category name scope.filePath) ∧
      after = before := by
  induction categories generalizing found after with
  | nil =>
      rcases ends_pure.1 ended with ⟨same, rfl⟩
      cases same
      exact ⟨rfl, rfl⟩
  | cons category categories ih =>
      rw [List.mapM_cons] at ended
      rcases ends_bind_ok.1 ended with ⟨first, middle, looked, rest⟩
      rcases ends_find? looked with ⟨rfl, rfl⟩
      rcases ends_bind_ok.1 rest with ⟨others, final, lookedToo, rested⟩
      rcases ih lookedToo with ⟨rfl, rfl⟩
      rcases ends_pure.1 rested with ⟨same, rfl⟩
      cases same
      exact ⟨rfl, rfl⟩

/-- The class of an exported instance is changed without an import style. -/
theorem suits_bare (filePath : String) :
    ExportChange.Suits ⟨none, none⟩ filePath .moduleClass where
  lookedUp := by simp [lookupCategories]
  styled isNoClass := absurd rfl isNoClass
  typed := Or.inl rfl

theorem planName_plans (name importStyle : String) :
    Plans scope (fun _ => styledAnywhere name importStyle) (planName scope name importStyle) := by
  intro before plan after ended
  rcases ends_bind_ok.1 ended with ⟨found, middle, looked, rested⟩
  rcases ends_mapM_find? looked with ⟨rfl, rfl⟩
  rcases ends_pure.1 rested with ⟨same, rfl⟩
  cases same
  unfold styledAnywhere
  have suits : ∀ category ∈ lookupCategories,
      ExportChange.Suits ⟨some importStyle, none⟩ scope.filePath category :=
    fun category lookedUp => ⟨lookedUp, fun _ => rfl, Or.inl rfl⟩
  generalize lookupCategories = categories at suits ⊢
  induction categories with
  | nil => exact .nil
  | cons category categories ih =>
      rcases List.forall_mem_cons.1 suits with ⟨suitsFirst, suitsRest⟩
      have first : Carries scope.filePath after.store _ _ := Carries.lookup name suitsFirst
      have together := first.append (ih suitsRest)
      cases found : after.store.lookup? category name scope.filePath with
      | none => simpa [found] using together
      | some doc => simpa [found] using together

theorem build_instanceDeclaration {draft : Draft} {first : NodeId}
    {variableName className : String} {exportNode : Node} {companion : Doc}
    (node : draft.node = Node.instanceDeclaration first variableName className exportNode)
    (built : draft.build .moduleVariable = .ok companion) :
    companion.category = .moduleVariable ∧ companion.name = some variableName := by
  rcases Draft.moduleVariable_renders built with ⟨declarator, name, isFirst, named, rendered⟩
  rw [node] at isFirst
  cases isFirst
  cases named
  exact ⟨rendered.category, rendered.name⟩

theorem planCompanion_plans (exportNode : Node) (variableName className : String) :
    Plans scope (fun _ => [styledCompanion exportNode variableName])
      (planCompanion scope exportNode variableName className) := by
  intro before plan after ended
  have drawn := ends_lift_bind.1 ended
  have linked := ends_lift_bind.1 drawn
  rcases ends_bind_ok.1 linked with ⟨companion, built, making, rest⟩
  rcases (build_sound making).2.2.1 companion rfl with ⟨links, heads⟩
  rcases ends_build making with ⟨messages, rfl, made⟩
  rcases build_instanceDeclaration rfl made.symm with ⟨category, named⟩
  rcases ends_bind_ok.1 rest with ⟨found, looked, looking, planned⟩
  rcases ends_find? looking with ⟨isFound, rfl⟩
  have recorded : before.store.lookup? .moduleVariable variableName scope.filePath = found :=
    isFound.symm
  cases found with
  | none =>
      rcases ends_pure.1 planned with ⟨same, -⟩
      cases same
      have typed : some (instanceType scope.filePath className) =
          some (instanceType companion.filePath className) := by
        rw [heads.filePath]
      exact .make recorded named heads.filePath ⟨category, rfl, rfl, rfl, rfl, className, typed⟩
  | some doc =>
      rcases ends_pure.1 planned with ⟨same, -⟩
      cases same
      have suits : ExportChange.Suits ⟨(styledCompanion exportNode variableName).style,
          some (instanceType scope.filePath className)⟩ scope.filePath .moduleVariable :=
        ⟨by simp [lookupCategories], fun _ => rfl, Or.inr ⟨rfl, className, rfl⟩⟩
      exact .describe recorded suits _

theorem planInstance_plans (exportNode : Node) (className variableName : String) :
    Plans scope (fun store => styledInstance scope store exportNode className variableName)
      (planInstance scope exportNode className variableName) := by
  intro before plan after ended
  rcases ends_bind_ok.1 ended with ⟨found, looked, looking, rest⟩
  rcases ends_find? looking with ⟨isFound, rfl⟩
  simp only [styledInstance, ← isFound]
  cases found with
  | none =>
      rcases ends_pure.1 rest with ⟨same, -⟩
      cases same
      exact .nil
  | some doc =>
      rcases ends_bind_ok.1 rest with ⟨companion, planned, planning, rested⟩
      rcases ends_pure.1 rested with ⟨same, -⟩
      cases same
      have marks : Carries scope.filePath looked.store _ _ :=
        Carries.lookup className (suits_bare _)
      rw [← isFound] at marks
      exact marks.append (planCompanion_plans exportNode variableName className planning)

theorem planDefault_plans (exportNode : Node) (declaration : Option Node) :
    Plans scope (fun store => styledDefault scope store exportNode declaration)
      (planDefault scope exportNode declaration) := by
  unfold planDefault
  split
  · rename_i callee arguments shape
    simp only [styledDefault, shape]
    exact planInstance_plans _ _ _
  · rename_i name shape
    simp only [styledDefault, shape]
    cases scope.program.findInstance? name with
    | some declared =>
        exact (planInstance_plans _ _ _).append (planInstance_drafts _ _ _).reads (planName_plans _ _)
    | none => exact Plans.nothing.append (Reads.pure _) (planName_plans _ _)
  · rename_i noInstance noName
    have nothing (store : Store) : styledDefault scope store exportNode declaration = [] := by
      unfold styledDefault
      split
      · rename_i callee arguments shape
        exact absurd shape (noInstance callee arguments)
      · rename_i name shape
        exact absurd shape (noName name)
      · rfl
    intro before plan after ended
    have said := ends_lift_bind.1 ended
    rcases ends_pure.1 said with ⟨same, -⟩
    cases same
    simp only [nothing]
    exact .nil

theorem planDeclarator_plans (exportNode declarator : Node) :
    Plans scope (fun _ => styledByDeclarator exportNode declarator)
      (planDeclarator scope exportNode declarator) := by
  unfold planDeclarator styledByDeclarator
  cases constructed : declarator.initial?.bind Node.constructed? with
  | none => exact Plans.nothing
  | some callee =>
      intro before plan after ended
      rcases ends_bind_ok.1 ended with ⟨found, looked, looking, rest⟩
      rcases ends_find? looking with ⟨rfl, rfl⟩
      have marks : Carries scope.filePath looked.store _ _ :=
        Carries.lookup (Node.calleeName callee) (suits_bare _)
      dsimp only
      split at rest
      · rename_i unnamed
        rcases ends_pure.1 rest with ⟨same, -⟩
        cases same
        rw [if_pos unnamed]
        exact marks
      · rename_i named
        rw [if_neg named]
        rcases ends_bind_ok.1 rest with ⟨companion, planned, planning, rested⟩
        rcases ends_pure.1 rested with ⟨same, -⟩
        cases same
        exact marks.append (planCompanion_plans exportNode _ _ planning)

theorem planSpecifier_plans (specifier : Node) :
    Plans scope (fun _ => styledBySpecifier specifier) (planSpecifier scope specifier) := by
  unfold planSpecifier styledBySpecifier
  cases specifierNames? specifier with
  | none => exact Plans.nothing
  | some names => exact planName_plans _ _

theorem planNamed_plans (exportNode : Node) (declaration : Option Node) (specifiers : List Node)
    (origin : Option Node) :
    Plans scope (fun _ =>
      ((declaration.bind Node.declarators?).getD []).flatMap (styledByDeclarator exportNode) ++
        if origin.isSome then [] else specifiers.flatMap styledBySpecifier)
      (planNamed scope exportNode declaration specifiers origin) := by
  unfold planNamed
  generalize (declaration.bind Node.declarators?).getD [] = declarators
  have instances : Plans scope _ _ := Plans.mapM (planDeclarator_plans exportNode)
    (fun _ => (planDeclarator_drafts exportNode _).reads) declarators
  have named : Plans scope _ _ := Plans.mapM planSpecifier_plans
    (fun _ => (planSpecifier_drafts _).reads) specifiers
  cases origin with
  | some source => simpa using instances
  | none =>
      have planned : Reads (declarators.mapM (planDeclarator scope exportNode)) :=
        (Drafts.mapM (planDeclarator_drafts exportNode) _).reads
      have reads := planned.bind fun plans => Reads.pure plans.flatten
      have together := instances.append reads named
      simpa using together

/-- An export is planned for by the styles that it gives. -/
theorem plan_plans (exportNode : Node) :
    Plans scope (fun store => stylings scope store exportNode) (plan scope exportNode) := by
  unfold plan stylings isIgnored
  split
  · exact Plans.nothing
  · cases exportNode.shape with
    | exportDefault declaration => exact planDefault_plans _ _
    | exportNamed declaration specifiers origin => exact planNamed_plans _ _ _ _
    | _ => exact Plans.nothing

end Export

end DocHarvest
