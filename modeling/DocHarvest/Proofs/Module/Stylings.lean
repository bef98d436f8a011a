import DocHarvest.Proofs.Module.Naming

/-!
# What deferred exports say about import styles

A deferred export gives an import style to everything that it names, and to nothing else.
`Export.stylings` lists these styles in the order in which they are planned; only the class of an
exported instance is left without one.
-/

namespace DocHarvest

/-- The import style that an export gives to the records of a category and a name. -/
structure Styling where
  category : Category
  name : String
  style : Option String

/-- The category and the name that a styling is for. -/
def Styling.key (styling : Styling) : Category × String :=
  (styling.category, styling.name)

/-- The record that a styling is about, by its id, and the import style for it. -/
def Styling.restyling? (filePath : String) (store : Store) (styling : Styling) :
    Option (Int × Option String) :=
  (store.lookup? styling.category styling.name filePath).map fun doc => (doc.id, styling.style)

/-- The record that a mutation gives an import style to, by its id, and the import style. -/
def Mutation.restyling? : Mutation → Option (Int × Option String)
  | .update id change => some (id, change.importStyle)
  | .append _ _ => none
  | .insert _ => none

namespace Export

/-- A style for a name in all categories in which exported names are looked up. -/
def styledAnywhere (name importStyle : String) : List Styling :=
  lookupCategories.map fun category => ⟨category, name, some importStyle⟩

/-- The style of the variable that holds an exported instance. -/
def styledCompanion (exportNode : Node) (variableName : String) : Styling :=
  ⟨.moduleVariable, variableName,
    some (if isDefault exportNode then variableName else braced variableName)⟩

/-- The styles of an exported instance: its class gets none. -/
def styledInstance (scope : Scope) (store : Store) (exportNode : Node)
    (className variableName : String) : List Styling :=
  if (store.lookup? .moduleClass className scope.filePath).isSome then
    [⟨.moduleClass, className, none⟩, styledCompanion exportNode variableName]
  else []

/-- The styles that a default export gives. -/
def styledDefault (scope : Scope) (store : Store) (exportNode : Node) (declaration : Option Node) :
    List Styling :=
  match declaration.map Node.shape with
  | some (.construct callee _) =>
      let className := Node.calleeName callee
      styledInstance scope store exportNode className (lowerFirst className)
  | some (.identifier name) =>
      let instances := match scope.program.findInstance? name with
        | some declared => styledInstance scope store exportNode (instanceClass declared) name
        | none => []
      instances ++ styledAnywhere name name
  | _ => []

/-- The styles that a declarator of a named export gives. -/
def styledByDeclarator (exportNode declarator : Node) : List Styling :=
  match declarator.initial?.bind Node.constructed? with
  | none => []
  | some callee =>
      let className := Node.calleeName callee
      let variableName := (declarator.bound?.bind Node.identifier?).getD ""
      ⟨.moduleClass, className, none⟩ ::
        if className.isEmpty || variableName.isEmpty then []
        else [styledCompanion exportNode variableName]

/-- The styles that a specifier of a named export gives. -/
def styledBySpecifier (specifier : Node) : List Styling :=
  match specifierNames? specifier with
  | none => []
  | some (name, outside) => styledAnywhere name (braced outside)

/-- The styles that a deferred export gives, in order, when it is planned for a store. -/
def stylings (scope : Scope) (store : Store) (exportNode : Node) : List Styling :=
  if isIgnored exportNode then []
  else
    match exportNode.shape with
    | .exportDefault declaration => styledDefault scope store exportNode declaration
    | .exportNamed declaration specifiers origin =>
        ((declaration.bind Node.declarators?).getD []).flatMap (styledByDeclarator exportNode) ++
          if origin.isSome then [] else specifiers.flatMap styledBySpecifier
    | _ => []

/-- The styles that a deferred export gives to the records of a store. -/
def restylings (scope : Scope) (store : Store) (exportNode : Node) : List (Int × Option String) :=
  (stylings scope store exportNode).filterMap (Styling.restyling? scope.filePath store)

/-- The classes that a default export makes instances of. -/
def classesOfDefault (program : Node) (declaration : Option Node) : List String :=
  match declaration.map Node.shape with
  | some (.construct callee _) => [Node.calleeName callee]
  | some (.identifier name) => ((program.findInstance? name).map instanceClass).toList
  | _ => []

/-- The class that a declarator makes an instance of. -/
def classOfDeclarator? (declarator : Node) : Option String :=
  (declarator.initial?.bind Node.constructed?).map Node.calleeName

/-- The classes that a deferred export makes instances of. -/
def instanceClasses (program exportNode : Node) : List String :=
  if isIgnored exportNode then []
  else
    match exportNode.shape with
    | .exportDefault declaration => classesOfDefault program declaration
    | .exportNamed declaration _ _ =>
        ((declaration.bind Node.declarators?).getD []).filterMap classOfDeclarator?
    | _ => []

/-! ## Names and styles -/

theorem namedAnywhere_eq (name importStyle : String) :
    namedAnywhere name = (styledAnywhere name importStyle).map Styling.key := by
  simp only [namedAnywhere, styledAnywhere, List.map_map]
  rfl

theorem namedInstance_eq (scope : Scope) (store : Store) (exportNode : Node)
    (className variableName : String) :
    namedInstance scope store className variableName =
      (styledInstance scope store exportNode className variableName).map Styling.key := by
  unfold namedInstance styledInstance
  split <;> rfl

theorem namedDefault_eq (scope : Scope) (store : Store) (exportNode : Node)
    (declaration : Option Node) :
    namedDefault scope store declaration =
      (styledDefault scope store exportNode declaration).map Styling.key := by
  unfold namedDefault styledDefault
  cases declaration.map Node.shape with
  | none => rfl
  | some shape =>
      cases shape with
      | construct callee arguments => exact namedInstance_eq _ _ _ _ _
      | identifier name =>
          dsimp only
          rw [List.map_append, ← namedAnywhere_eq]
          cases scope.program.findInstance? name with
          | some declared =>
              dsimp only
              rw [namedInstance_eq scope store exportNode]
          | none => rfl
      | _ => rfl

theorem namedByDeclarator_eq (exportNode declarator : Node) :
    namedByDeclarator declarator = (styledByDeclarator exportNode declarator).map Styling.key := by
  unfold namedByDeclarator styledByDeclarator
  cases declarator.initial?.bind Node.constructed? with
  | none => rfl
  | some callee =>
      dsimp only
      split <;> rfl

theorem namedBySpecifier_eq (specifier : Node) :
    namedBySpecifier specifier = (styledBySpecifier specifier).map Styling.key := by
  unfold namedBySpecifier styledBySpecifier
  cases specifierNames? specifier with
  | none => rfl
  | some names => exact namedAnywhere_eq _ _

/-- An export gives a style to everything that it names, and to nothing else. -/
theorem names_eq (scope : Scope) (store : Store) (exportNode : Node) :
    names scope store exportNode = (stylings scope store exportNode).map Styling.key := by
  unfold names stylings
  split
  · rfl
  · cases exportNode.shape with
    | exportDefault declaration => exact namedDefault_eq _ _ _ _
    | exportNamed declaration specifiers origin =>
        have byDeclarator : namedByDeclarator =
            fun declarator => (styledByDeclarator exportNode declarator).map Styling.key :=
          funext (namedByDeclarator_eq exportNode)
        have bySpecifier : namedBySpecifier =
            fun specifier => (styledBySpecifier specifier).map Styling.key :=
          funext namedBySpecifier_eq
        dsimp only
        rw [List.map_append, List.map_flatMap, ← byDeclarator]
        split
        · rfl
        · rw [List.map_flatMap, ← bySpecifier]
    | _ => rfl

/-- The records of a store that an export has styles for are those that it refers to. -/
theorem exists_restyling_iff (scope : Scope) (store : Store) (exportNode : Node) (id : Int) :
    (∃ style, (id, style) ∈ restylings scope store exportNode) ↔
      store.Refers scope.filePath (names scope store exportNode) id := by
  simp only [restylings, List.mem_filterMap, names_eq, Store.Refers, List.mem_map]
  constructor
  · rintro ⟨style, styling, isStyling, restyles⟩
    rcases Option.map_eq_some_iff.1 restyles with ⟨doc, found, same⟩
    exact ⟨_, _, doc, ⟨styling, isStyling, rfl⟩, found, (Prod.mk.inj same).1⟩
  · rintro ⟨_, _, doc, ⟨styling, isStyling, same⟩, found, rfl⟩
    cases same
    exact ⟨_, styling, isStyling, Option.map_eq_some_iff.2 ⟨doc, found, rfl⟩⟩

/-! ## Classes without a style -/

section Bare

variable {scope : Scope} {store : Store} {exportNode : Node} {styling : Styling}

theorem style_of_mem_styledAnywhere {name importStyle : String}
    (isStyling : styling ∈ styledAnywhere name importStyle) : styling.style = some importStyle := by
  rcases List.mem_map.1 isStyling with ⟨category, -, rfl⟩
  rfl

theorem instantiated_of_mem_styledInstance {className variableName : String}
    (isStyling : styling ∈ styledInstance scope store exportNode className variableName)
    (bare : styling.style = none) : styling.category = .moduleClass ∧ styling.name = className := by
  unfold styledInstance at isStyling
  split at isStyling
  · rcases List.mem_cons.1 isStyling with rfl | isCompanion
    · exact ⟨rfl, rfl⟩
    · rw [List.mem_singleton.1 isCompanion] at bare
      cases bare
  · cases isStyling

theorem instantiated_of_mem_styledDefault {declaration : Option Node}
    (isStyling : styling ∈ styledDefault scope store exportNode declaration)
    (bare : styling.style = none) : styling.category = .moduleClass ∧
      styling.name ∈ classesOfDefault scope.program declaration := by
  simp only [styledDefault] at isStyling
  split at isStyling
  · rename_i callee arguments constructs
    rcases instantiated_of_mem_styledInstance isStyling bare with ⟨category, named⟩
    exact ⟨category, by simp [classesOfDefault, constructs, named]⟩
  · rename_i name refers
    rcases List.mem_append.1 isStyling with isInstance | isName
    · split at isInstance
      · rename_i declared found
        rcases instantiated_of_mem_styledInstance isInstance bare with ⟨category, named⟩
        exact ⟨category, by simp [classesOfDefault, refers, found, named]⟩
      · cases isInstance
    · rw [style_of_mem_styledAnywhere isName] at bare
      cases bare
  · cases isStyling

theorem instantiated_of_mem_styledByDeclarator {declarator : Node}
    (isStyling : styling ∈ styledByDeclarator exportNode declarator)
    (bare : styling.style = none) :
    styling.category = .moduleClass ∧ classOfDeclarator? declarator = some styling.name := by
  unfold styledByDeclarator at isStyling
  unfold classOfDeclarator?
  split at isStyling
  · cases isStyling
  · rename_i callee constructed
    rcases List.mem_cons.1 isStyling with rfl | isCompanion
    · exact ⟨rfl, by rw [constructed, Option.map_some]⟩
    · split at isCompanion
      · cases isCompanion
      · rw [List.mem_singleton.1 isCompanion] at bare
        cases bare

theorem isSome_style_of_mem_styledBySpecifier {specifier : Node}
    (isStyling : styling ∈ styledBySpecifier specifier) : styling.style.isSome := by
  unfold styledBySpecifier at isStyling
  split at isStyling
  · cases isStyling
  · rw [style_of_mem_styledAnywhere isStyling]
    rfl

/-- Only classes of exported instances get no import style. -/
theorem instantiated_of_bare (isStyling : styling ∈ stylings scope store exportNode)
    (bare : styling.style = none) :
    styling.category = .moduleClass ∧ styling.name ∈ instanceClasses scope.program exportNode := by
  unfold stylings at isStyling
  unfold instanceClasses
  split at isStyling
  · cases isStyling
  · rename_i respected
    rw [if_neg respected]
    cases shape : exportNode.shape with
    | exportDefault declaration =>
        rw [shape] at isStyling
        exact instantiated_of_mem_styledDefault isStyling bare
    | exportNamed declaration specifiers origin =>
        rw [shape] at isStyling
        rcases List.mem_append.1 isStyling with isInstance | isName
        · rcases List.mem_flatMap.1 isInstance with ⟨declarator, isDeclarator, styles⟩
          rcases instantiated_of_mem_styledByDeclarator styles bare with ⟨category, isClass⟩
          exact ⟨category, List.mem_filterMap.2 ⟨declarator, isDeclarator, isClass⟩⟩
        · split at isName
          · cases isName
          · rcases List.mem_flatMap.1 isName with ⟨specifier, -, styles⟩
            have styled := isSome_style_of_mem_styledBySpecifier styles
            rw [bare] at styled
            cases styled
    | _ =>
        rw [shape] at isStyling
        cases isStyling

end Bare

end Export

end DocHarvest
