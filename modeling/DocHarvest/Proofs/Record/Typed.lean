import DocHarvest.Proofs.Param.Unions
import DocHarvest.Proofs.Record.Built

/-!
# Records with types

Whatever a record gives a type is made of the parts of a tag, or only its type is known; parameters may
also be guessed. Hence a parameter, a result or anything else that has a type has at least one, and none
that is empty. Only an entry that is guessed for a node that cannot be a parameter has none. There is one
lemma for each way in which types come about, and one for each builder of records.
-/

namespace DocHarvest

namespace Param

/-- A parameter with a type, of whose types none is empty. -/
def IsTyped (param : Param) : Prop :=
  param.types ≠ [] ∧ "" ∉ param.types

theorem isTyped_ofType {type : String} (isSome : type ≠ "") : (ofType type).IsTyped :=
  ⟨by simp [ofType], by simpa [ofType] using isSome.symm⟩

/-! ## Tags -/

/-- An empty alternative is a fault, so what is made of the parts of a tag has types. -/
theorem isTyped_of_ofParts {type name description : Option String} {param : Param}
    (made : ofParts type name description = .ok param) : param.IsTyped := by
  unfold ofParts at made
  dsimp only at made
  split at made
  · cases made
  · rename_i noneEmpty
    cases made
    refine ⟨by simpa using types_withType_ne_nil type {}, fun isEmpty => noneEmpty ?_⟩
    simp only [types_withName] at isEmpty
    exact List.any_eq_true.2 ⟨"", isEmpty, rfl⟩

/-- A parameter that is made of the parts of a tag, or of which only the type is known. -/
inductive IsDescribed : Param → Prop
  | parts {type name description : Option String} {param : Param}
      (made : ofParts type name description = .ok param) : IsDescribed param
  | ofType {type : String} (isSome : type ≠ "") : IsDescribed (ofType type)

theorem IsDescribed.isTyped {param : Param} (described : param.IsDescribed) : param.IsTyped := by
  cases described with
  | parts made => exact isTyped_of_ofParts made
  | ofType isSome => exact isTyped_ofType isSome

theorem isDescribed_of_parse {wanted : Wanted} {value : String} {param : Param}
    (parsed : parse wanted value = .ok param) : param.IsDescribed :=
  .parts parsed

theorem isDescribed_anything : anything.IsDescribed :=
  .ofType (by decide)

/-! ## Guesses -/

theorem typeName_ne_empty (value : Value) : value.typeName ≠ "" := by
  cases value <;> simp [Value.typeName]

theorem append_ne_empty {text : String} (other : String) (isSome : text ≠ "") :
    other ++ text ≠ "" := by
  simp [isSome]

theorem listType_ne_empty (elements : List Node) : listType elements ≠ "" := by
  cases elements with
  | nil => decide
  | cons first rest => exact append_ne_empty _ (by decide)

theorem objectType_ne_empty (entries : List String) : objectType entries ≠ "" :=
  append_ne_empty _ (by decide)

theorem typeOf_ne_empty (expression : Option Node) : typeOf expression ≠ "" := by
  unfold typeOf
  split
  · decide
  · decide
  · decide
  · exact typeName_ne_empty _
  · exact listType_ne_empty _
  · exact objectType_ne_empty _
  · decide

theorem isDescribed_of_guessType {expression : Option Node} {param : Param}
    (guessed : guessType expression = .ok param) : param.IsDescribed := by
  unfold guessType at guessed
  split at guessed
  · cases guessed
    exact .ofType (typeOf_ne_empty expression)
  · cases guessed

theorem isDescribed_of_guessResult {body : Option Node} {param : Param}
    (guessed : guessResult body = .ok (some param)) : param.IsDescribed := by
  unfold guessResult at guessed
  dsimp only at guessed
  split at guessed
  · rcases Option.map_eq_some_iff.1 (Except.ok.inj guessed) with ⟨argument, -, rfl⟩
    exact .ofType (typeOf_ne_empty _)
  · cases guessed

theorem isTyped_withDefault (left right : Option Node) (param : Param) :
    (withDefault left right param).IsTyped := by
  have single {param : Param} {type : String} (types : param.types = [type]) (isSome : type ≠ "") :
      param.IsTyped := ⟨by simp [types], by simpa [types] using isSome.symm⟩
  unfold withDefault
  split
  · split
    · exact single rfl (by decide)
    · exact single rfl (typeName_ne_empty _)
  · exact single rfl (listType_ne_empty _)
  · exact single rfl (objectType_ne_empty _)
  · exact single rfl (by decide)
  · exact single rfl (by decide)

/-- What is guessed for a node has types if the node can be a parameter, and none otherwise. -/
theorem types_ofNode (index : Nat) (node : Node) :
    (ofNode index node).IsTyped ∨ isParamNode node = false ∧ (ofNode index node).types = [] := by
  unfold ofNode isParamNode
  split
  · exact Or.inl ⟨by simp, by simp⟩
  · exact Or.inl (isTyped_withDefault _ _ _)
  · exact Or.inl ⟨by simp, by simp⟩
  · exact Or.inl ⟨by simp [ofObjectPattern],
      by simpa [ofObjectPattern] using (objectType_ne_empty _).symm⟩
  · exact Or.inl ⟨by simp [ofArrayPattern], by simp [ofArrayPattern]⟩
  · exact Or.inr ⟨rfl, rfl⟩

theorem types_guessAll {nodes : List Node} {index : Nat} {param : Param}
    (guessed : (guessAll nodes)[index]? = some param) :
    param.IsTyped ∨ ∃ node, nodes[index]? = some node ∧ isParamNode node = false ∧
      param.types = [] := by
  rw [guessAll, List.getElem?_mapIdx] at guessed
  rcases Option.map_eq_some_iff.1 guessed with ⟨node, isNode, rfl⟩
  exact (types_ofNode index node).imp_right fun ⟨noParam, noTypes⟩ =>
    ⟨node, isNode, noParam, noTypes⟩

end Param

/-! ## Records -/

/-- Whether the parameters of the records of a category may be guessed. -/
def Category.isFunction : Category → Bool
  | .moduleFunction | .classMethod => true
  | _ => false

namespace Doc

/-- Everything that a record gives a type, apart from parameters. -/
def typedParts (doc : Doc) : List Param :=
  doc.result.toList ++ doc.type.toList ++ doc.properties.getD [] ++ doc.throws.getD [] ++
    doc.emits.getD [] ++ doc.listens.getD []

/--
A parameter without types stands in the guess for a function, at the place of a node that cannot be
a parameter.
-/
def IsUnguessed (functions : Node → Prop) (params : List Param) (index : Nat) (param : Param) :
    Prop :=
  param.types = [] ∧ ∃ function node, functions function ∧
    params = Param.guessAll (Draft.paramNodes function) ∧
    (Draft.paramNodes function)[index]? = some node ∧ Param.isParamNode node = false

/-- Everything in a record has types, save for the parameters that cannot be guessed. -/
structure IsTyped (functions : Node → Prop) (doc : Doc) : Prop where
  parts : ∀ part ∈ doc.typedParts, part.IsTyped
  params : ∀ params, doc.params = some params → ∀ index param, params[index]? = some param →
    param.IsTyped ∨ IsUnguessed functions params index param

end Doc

namespace Draft

variable {draft : Draft} {doc : Doc}

/-- Everything that there is is described by a tag, or only its type is known. -/
def AllDescribed (params : List Param) : Prop :=
  ∀ param ∈ params, param.IsDescribed

theorem some_map_eq_ok {α : Type} {result : Except Fault α} {found : Option α}
    (same : some <$> result = .ok found) : ∃ value, result = .ok value ∧ found = some value := by
  cases result with
  | error fault => cases same
  | ok value =>
      cases same
      exact ⟨value, rfl, rfl⟩

theorem allDescribed_of_mapM {wanted : Param.Wanted} {values : List String} {params : List Param}
    (parsed : values.mapM (Param.parse wanted) = .ok params) : AllDescribed params := by
  induction values generalizing params with
  | nil =>
      cases parsed
      simp [AllDescribed]
  | cons value rest ih =>
      rw [List.mapM_cons] at parsed
      rcases bind_eq_ok.1 parsed with ⟨first, parsedFirst, later⟩
      rcases bind_eq_ok.1 later with ⟨others, parsedRest, same⟩
      cases same
      exact List.forall_mem_cons.2 ⟨Param.isDescribed_of_parse parsedFirst, ih parsedRest⟩

theorem paramsOf_described {tag : String} {named : Bool} {found : Option (List Param)}
    (parsed : draft.paramsOf tag named = .ok found) : AllDescribed (found.getD []) := by
  unfold paramsOf at parsed
  split at parsed
  · cases parsed
    simp [AllDescribed]
  · rcases some_map_eq_ok parsed with ⟨params, parsedAll, rfl⟩
    exact allDescribed_of_mapM parsedAll

theorem resultOf_described {found : Option Param} (parsed : draft.resultOf = .ok found) :
    AllDescribed found.toList := by
  unfold resultOf at parsed
  split at parsed
  · cases parsed
    simp [AllDescribed]
  · rcases some_map_eq_ok parsed with ⟨param, parsedParam, rfl⟩
    simpa [AllDescribed] using Param.isDescribed_of_parse parsedParam

theorem typeOf_described {found : Option Param} (parsed : draft.typeOf = .ok found) :
    AllDescribed found.toList := by
  unfold typeOf at parsed
  split at parsed
  · cases parsed
    simp [AllDescribed]
  · rcases some_map_eq_ok parsed with ⟨param, parsedParam, rfl⟩
    simpa [AllDescribed] using Param.isDescribed_of_parse parsedParam

/-- A result or a type is described if all guesses that may take its place are. -/
theorem resultOr_described {guess : Except Fault (Option Param)} {found : Option Param}
    (typed : ∀ guessed, guess = .ok guessed → AllDescribed guessed.toList)
    (made : draft.resultOr guess = .ok found) : AllDescribed found.toList := by
  rcases bind_eq_ok.1 made with ⟨tagged, parsed, rest⟩
  have isDescribed := resultOf_described parsed
  cases tagged with
  | none => exact typed found rest
  | some result =>
      cases rest
      exact isDescribed

theorem typeOr_described {guess : Except Fault (Option Param)} {found : Option Param}
    (typed : ∀ guessed, guess = .ok guessed → AllDescribed guessed.toList)
    (made : draft.typeOr guess = .ok found) : AllDescribed found.toList := by
  rcases bind_eq_ok.1 made with ⟨tagged, parsed, rest⟩
  have isDescribed := typeOf_described parsed
  cases tagged with
  | none => exact typed found rest
  | some type =>
      cases rest
      exact isDescribed

/-- Parameters are described by tags, or they are the guess for the node of the draft. -/
theorem paramsOr_described {params : List Param}
    (made : draft.paramsOr (Param.guess (paramNodes draft.node)) = .ok params) :
    AllDescribed params ∨ params = Param.guessAll (paramNodes draft.node) := by
  rcases bind_eq_ok.1 made with ⟨tagged, parsed, rest⟩
  have isDescribed := paramsOf_described parsed
  cases tagged with
  | none =>
      have guessed : Param.guess (paramNodes draft.node) = .ok params := rest
      unfold Param.guess at guessed
      split at guessed <;> cases guessed
      exact Or.inr rfl
  | some described =>
      cases rest
      exact Or.inl isDescribed

/-! ## Guesses of the shape of a node -/

theorem guessedType_described {expression : Option Node} {found : Option Param}
    (guessed : some <$> Param.guessType expression = .ok found) : AllDescribed found.toList := by
  rcases some_map_eq_ok guessed with ⟨param, guessedParam, rfl⟩
  simpa [AllDescribed] using Param.isDescribed_of_guessType guessedParam

theorem assignedType_described {node : Node} {found : Option Param}
    (guessed : assignedType node = .ok found) : AllDescribed found.toList := by
  unfold assignedType at guessed
  split at guessed
  · exact guessedType_described guessed
  · cases guessed
    simp [AllDescribed]

theorem guessResult_described {body : Option Node} {found : Option Param}
    (guessed : Param.guessResult body = .ok found) : AllDescribed found.toList := by
  cases found with
  | none => simp [AllDescribed]
  | some param => simpa [AllDescribed] using Param.isDescribed_of_guessResult guessed

theorem guessedResult_described {node : Node} {found : Option Param}
    (guessed : guessedResult node = .ok found) : AllDescribed found.toList := by
  unfold guessedResult at guessed
  split at guessed
  · cases guessed
  · exact guessResult_described guessed

theorem methodResult_described {node : Node} {found : Option Param}
    (guessed : methodResult node = .ok found) : AllDescribed found.toList := by
  unfold methodResult at guessed
  split at guessed
  any_goals
    cases guessed
    simp [AllDescribed]
  all_goals exact guessedResult_described guessed

theorem accessorType_described {node : Node} {found : Option Param}
    (guessed : accessorType node = .ok found) : AllDescribed found.toList := by
  unfold accessorType at guessed
  split at guessed
  · exact guessResult_described guessed
  · cases guessed
    simpa [AllDescribed] using Param.isDescribed_anything
  all_goals
    cases guessed
    simp [AllDescribed]

theorem propertyParts_described {node : Node} {found : Option Param}
    (guessed : (propertyParts node).2 = .ok found) : AllDescribed found.toList := by
  unfold propertyParts at guessed
  split at guessed
  · exact guessedType_described guessed
  · cases guessed
    simp [AllDescribed]

/-- The full name of a class is not empty, so an instance has a type. -/
theorem classLongname?_ne_empty {name longname : String}
    (found : draft.classLongname? name = some longname) : longname ≠ "" := by
  unfold classLongname? at found
  dsimp only at found
  split at found
  · cases found
  · split at found
    · cases found
      simp
    · rcases Option.map_eq_some_iff.1 found with ⟨specifier, -, rfl⟩
      simp

theorem variableType_described {initial : Option Node} {found : Option Param}
    (guessed : some <$> draft.variableType initial = .ok found) : AllDescribed found.toList := by
  unfold variableType at guessed
  split at guessed
  · rename_i callee constructed
    rcases some_map_eq_ok guessed with ⟨param, made, rfl⟩
    cases made
    have isSome : (draft.classLongname? (Node.calleeName callee)).getD "*" ≠ "" := by
      cases found : draft.classLongname? (Node.calleeName callee) with
      | none => decide
      | some longname => exact classLongname?_ne_empty found
    simpa [AllDescribed] using Param.IsDescribed.ofType isSome
  · exact guessedType_described guessed

/-! ## Builders -/

/-- All that has a type in a record is described, save for parameters guessed for its node. -/
structure Describes (draft : Draft) (category : Category) (doc : Doc) : Prop where
  parts : AllDescribed doc.typedParts
  params : ∀ params, doc.params = some params → AllDescribed params ∨
    category.isFunction ∧ params = Param.guessAll (paramNodes draft.node)

/-- A record that gives nothing but a type, if anything. -/
theorem Describes.ofType {category : Category} {found : Option Param} (typed : AllDescribed found.toList)
    (parts : doc.typedParts = found.toList) (params : doc.params = none) :
    draft.Describes category doc where
  parts := by rwa [parts]
  params := by simp [params]

theorem moduleFunction_described (built : draft.moduleFunction = .ok doc) :
    draft.Describes .moduleFunction doc := by
  simp only [moduleFunction, bind_eq_ok, pure, Except.pure, Except.ok.injEq] at built
  rcases built with ⟨params, described, result, returned, throws, thrown, emits, emitted, listens,
    heard, rfl⟩
  have isDescribed := resultOr_described (fun _ => guessedResult_described) returned
  refine ⟨?_, ?_⟩
  · simp only [AllDescribed, Doc.typedParts, List.forall_mem_append]
    exact ⟨⟨⟨⟨⟨isDescribed, by rintro _ ⟨⟩⟩, by rintro _ ⟨⟩⟩, paramsOf_described thrown⟩,
      paramsOf_described emitted⟩, paramsOf_described heard⟩
  · rintro _ ⟨⟩
    exact (paramsOr_described described).imp_right fun guessed => ⟨rfl, guessed⟩

theorem methodParams_described {found : Option (List Param)} (made : draft.methodParams = .ok found) :
    ∀ params, found = some params → AllDescribed params ∨
      params = Param.guessAll (paramNodes draft.node) := by
  unfold methodParams at made
  split at made
  · rintro params rfl
    exact Or.inl (paramsOf_described made)
  · rcases some_map_eq_ok made with ⟨params, described, rfl⟩
    rintro _ ⟨⟩
    exact paramsOr_described described

theorem classMethod_described (built : draft.classMethod = .ok doc) :
    draft.Describes .classMethod doc := by
  simp only [classMethod, bind_eq_ok, pure, Except.pure, Except.ok.injEq] at built
  rcases built with ⟨name, -, params, described, result, returned, type, typed, throws, thrown,
    emits, emitted, listens, heard, decorators, -, rfl⟩
  have isDescribed := resultOr_described (fun _ => methodResult_described) returned
  have isDescribedToo := typeOr_described (fun _ => accessorType_described) typed
  refine ⟨?_, ?_⟩
  · simp only [AllDescribed, Doc.typedParts, List.forall_mem_append]
    exact ⟨⟨⟨⟨⟨isDescribed, isDescribedToo⟩, by rintro _ ⟨⟩⟩, paramsOf_described thrown⟩,
      paramsOf_described emitted⟩, paramsOf_described heard⟩
  · intro others same
    exact (methodParams_described described others same).imp_right fun guessed => ⟨rfl, guessed⟩

theorem typedef_described (built : draft.typedef = .ok doc) : draft.Describes .virtualTypedef doc := by
  have types {type : Option Param} {properties : Option (List Param)} {name : Option String}
      (typed : AllDescribed type.toList) (described : draft.paramsOf "@property" true = .ok properties) :
      draft.Describes .virtualTypedef
        { draft.doc .virtualTypedef name draft.typedefMemberof true with type, properties } := by
    refine ⟨?_, by rintro _ ⟨⟩⟩
    simp only [AllDescribed, Doc.typedParts, List.forall_mem_append]
    exact ⟨⟨⟨⟨⟨by rintro _ ⟨⟩, typed⟩, paramsOf_described described⟩, by rintro _ ⟨⟩⟩,
      by rintro _ ⟨⟩⟩, by rintro _ ⟨⟩⟩
  simp only [typedef] at built
  split at built
  all_goals
    simp only [bind_eq_ok, pure, Except.pure, Except.ok.injEq] at built
    rcases built with ⟨type, typed, properties, described, rfl⟩
  · cases typed
    exact types (by simp [AllDescribed]) described
  · rcases some_map_eq_ok typed with ⟨param, made, rfl⟩
    exact types (by simpa [AllDescribed] using Param.IsDescribed.parts made) described

/-- All that has a type in a built record is described, save for parameters that it guesses. -/
theorem build_described {category : Category} (built : draft.build category = .ok doc) :
    draft.Describes category doc := by
  have nothing : AllDescribed (none : Option Param).toList := by
    rintro _ ⟨⟩
  have untyped {category : Category} (parts : doc.typedParts = []) (params : doc.params = none) :
      draft.Describes category doc := .ofType nothing parts params
  cases category with
  | file =>
      rcases bind_eq_ok.1 built with ⟨content, -, same⟩
      cases same
      exact untyped rfl rfl
  | memory =>
      cases built
      exact untyped rfl rfl
  | testFile =>
      replace built : draft.testFile = .ok doc := built
      unfold testFile at built
      split at built
      · cases built
        exact untyped rfl rfl
      · rcases bind_eq_ok.1 built with ⟨content, -, same⟩
        cases same
        exact untyped rfl rfl
  | module => cases built
  | moduleClass =>
      replace built : draft.moduleClass = .ok doc := built
      simp only [moduleClass, bind_eq_ok, pure, Except.pure, Except.ok.injEq] at built
      rcases built with ⟨decorators, -, rfl⟩
      exact untyped rfl rfl
  | moduleFunction => exact moduleFunction_described built
  | moduleVariable =>
      replace built : draft.moduleVariable = .ok doc := built
      unfold moduleVariable at built
      split at built
      · cases built
      · simp only [bind_eq_ok, pure, Except.pure, Except.ok.injEq] at built
        rcases built with ⟨name, -, type, typed, rfl⟩
        refine .ofType (typeOr_described (fun _ => variableType_described) typed) ?_ rfl
        simp [Doc.typedParts, moduleDoc, Draft.doc, fileDoc]
  | moduleAssignment =>
      rcases bind_eq_ok.1 built with ⟨type, typed, same⟩
      cases same
      refine .ofType (typeOr_described (fun _ => assignedType_described) typed) ?_ rfl
      simp [Doc.typedParts, moduleDoc, Draft.doc, fileDoc]
  | classMethod => exact classMethod_described built
  | classMember =>
      rcases bind_eq_ok.1 built with ⟨type, typed, same⟩
      cases same
      refine .ofType (typeOr_described (fun _ => assignedType_described) typed) ?_ rfl
      simp [Doc.typedParts, Draft.doc, fileDoc]
  | classProperty =>
      replace built : draft.classProperty = .ok doc := built
      simp only [classProperty, bind_eq_ok, pure, Except.pure, Except.ok.injEq] at built
      rcases built with ⟨name, -, type, typed, decorators, -, rfl⟩
      refine .ofType (typeOr_described (fun _ => propertyParts_described) typed) ?_ rfl
      simp [Doc.typedParts, Draft.doc, fileDoc]
  | virtualTypedef => exact typedef_described built
  | virtualExternal =>
      cases built
      exact untyped rfl rfl
  | test =>
      rcases bind_eq_ok.1 built with ⟨kind, -, same⟩
      cases same
      exact untyped rfl rfl

end Draft

end DocHarvest
