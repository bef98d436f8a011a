import DocHarvest.Proofs.Module.Provenance
import DocHarvest.Proofs.Record.Typed

/-!
# Types of stored records

Whatever calls fill a store, everything in it that has a type field has types. Each record has been
built from a draft, which gives it types, and exports only ever put the type of an instance in place of
another one. The parameters that a draft guesses are those of a function of the program.
-/

namespace DocHarvest

open Run

variable {made doc : Doc} {draft : Draft} {category : Category}

/-- Only a function of the program has a record with guessed parameters. -/
theorem Draft.Sources.contained_of_isFunction (sources : draft.Sources category doc)
    (isFunction : category.isFunction) : draft.scope.program.Contains draft.node := by
  have isCode : category = .moduleFunction ∨ category = .classMethod := by
    cases category with
    | moduleFunction => exact Or.inl rfl
    | classMethod => exact Or.inr rfl
    | _ => cases isFunction
  rcases isCode with rfl | rfl <;> exact (sources.isPlaced rfl rfl (by simp) (by simp)).1

theorem Param.isTyped_instanceType (filePath className : String) :
    (instanceType filePath className).IsTyped :=
  isTyped_ofType (by simp)

theorem Doc.Continues.typedParts (continues : made.Continues doc) :
    ∀ part ∈ doc.typedParts, part ∈ made.typedParts ∨
      ∃ filePath className, part = instanceType filePath className := by
  have result : doc.result = made.result := (congrArg Doc.result continues.outline :)
  have properties : doc.properties = made.properties :=
    (congrArg Doc.properties continues.outline :)
  have throws : doc.throws = made.throws := (congrArg Doc.throws continues.outline :)
  have emits : doc.emits = made.emits := (congrArg Doc.emits continues.outline :)
  have listens : doc.listens = made.listens := (congrArg Doc.listens continues.outline :)
  intro part isPart
  rcases continues.typed with same | ⟨filePath, className, typed⟩
  · left
    simpa only [Doc.typedParts, result, properties, throws, emits, listens, same] using isPart
  · simp only [Doc.typedParts, result, properties, throws, emits, listens, typed] at isPart ⊢
    simp only [List.mem_append, Option.toList_some, List.mem_singleton] at isPart ⊢
    rcases isPart with ((((isResult | isType) | others) | others) | others) | others
    · exact Or.inl (by simp [isResult])
    · exact Or.inr ⟨filePath, className, isType⟩
    all_goals exact Or.inl (by simp [others])

/-- A record that comes from a draft has types, save for parameters that cannot be guessed. -/
theorem Draft.Sources.isTyped {functions : Node → Prop} (sources : draft.Sources category doc)
    (known : draft.scope.program.Contains draft.node → functions draft.node) :
    doc.IsTyped functions := by
  rcases sources.built with ⟨made, built, continues⟩
  have describes := build_described built
  refine ⟨fun part isPart => ?_, fun params described index param isParam => ?_⟩
  · rcases continues.typedParts part isPart with wasPart | ⟨filePath, className, rfl⟩
    · exact (describes.parts part wasPart).isTyped
    · exact Param.isTyped_instanceType filePath className
  · have same : doc.params = made.params := (congrArg Doc.params continues.outline :)
    rcases describes.params params (same.symm.trans described) with tagged | ⟨isFunction, rfl⟩
    · exact Or.inl (tagged param (List.mem_of_getElem? isParam)).isTyped
    · refine (Param.types_guessAll isParam).imp_right ?_
      rintro ⟨node, isNode, noParam, noTypes⟩
      exact ⟨noTypes, draft.node, node,
        known (sources.contained_of_isFunction isFunction), rfl, isNode, noParam⟩

namespace Module.Call

/-- The nodes in the programs of calls that are about a file. -/
def HasNode (calls : List Call) (filePath : String) (node : Node) : Prop :=
  ∃ call ∈ calls, ∃ scope, call.scope = .ok scope ∧ scope.filePath = filePath ∧
    scope.program.Contains node

/--
Types over whole runs: after any calls whatever, with or without faults, everything in a record that
has a type field has types, of which none is empty. Only the guess for a parameter that is none has no
types, and it stands in the parameters of a function of the file.
-/
theorem storeAfter_typed (calls : List Call) :
    ∀ doc ∈ (storeAfter calls {}).docs, doc.IsTyped (HasNode calls doc.filePath) := by
  intro doc isStored
  rcases exists_sources calls isStored with
    ⟨draft, category, ⟨call, isCall, scope, id, checked, inScope⟩, sources⟩
  refine sources.isTyped fun contained => ⟨call, isCall, scope, checked, ?_, ?_⟩
  · rw [sources.filePath, inScope]
    rfl
  · have sameProgram : draft.scope.program = scope.program := (congrArg Scope.program inScope :)
    rwa [← sameProgram]

/-- A call that documents a function whose second parameter is none that can be guessed. -/
def strangeParameter : Call :=
  ofModule "strange.js" [.mk { id := 1 } (.function .declaration
    (some (.mk { id := 2 } (.identifier "run")))
    [.mk { id := 3 } (.identifier "first"), .mk { id := 4 } .this]
    (some (.mk { id := 5 } (.block []))) false false)]

/-- The record of that function has types, save for the one parameter that may have none. -/
theorem storeAfter_strangeParameter_typed : ∃ doc ∈ (storeAfter [strangeParameter] {}).docs,
    doc.params.map (List.map Param.types) = some [["*"], []] ∧
      doc.IsTyped (HasNode [strangeParameter] doc.filePath) := by
  have documented : ∃ doc ∈ (storeAfter [strangeParameter] {}).docs,
      doc.params.map (List.map Param.types) = some [["*"], []] := by
    decide +kernel
  rcases documented with ⟨doc, isStored, params⟩
  exact ⟨doc, isStored, params, storeAfter_typed [strangeParameter] doc isStored⟩

end Module.Call

end DocHarvest
