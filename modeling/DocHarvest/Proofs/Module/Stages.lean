import DocHarvest.Proofs.Module.Calls
import DocHarvest.Proofs.Module.FirstPass

/-!
# The stages of the work on a module

The work on a module that ends well goes through three states: the record of the module is stored and
the comments of an empty module are documented, the walk is over, and the exports are resolved.
`Stages` names them, so that the results about the passes can be stated about whole runs.
-/

namespace DocHarvest.Module

open Run

variable {scope : Scope} {start opened walked after : Progress} {id : Int}

/-- What is done for a module before the walk. -/
def prepare (scope : Scope) : Run Int :=
  opening scope (if scope.code.isSome then .memory else .file) fun id =>
    documentInner (within scope id) >>= fun _ => pure id

/-- The states that the work on a module comes through. -/
structure Stages (scope : Scope) (id : Int) (start opened walked after : Progress) : Prop where
  opens : Ends (prepare scope) start (.ok id) opened
  walks : Ends (firstPass (within scope id)) opened (.ok ()) walked
  resolves : ∃ messages,
    Ends (secondPass (within scope id)) walked (.ok ()) { after with messages }

theorem generate_eq_prepare (scope : Scope) :
    generate scope = prepare scope >>= fun id => do
      firstPass (within scope id)
      secondPass (within scope id)
      Run.say .info
        ("Generated docs for " ++ scope.filePath ++ " (module id " ++ Value.integerText id ++ ")")
      return id := by
  rw [generate_eq]
  simp only [prepare, opening, passes, bind_assoc, pure_bind]

/-- Work that ends well has come through all stages. -/
theorem exists_stages (ended : Ends (generate scope) start (.ok id) after) :
    ∃ opened walked, Stages scope id start opened walked after := by
  rw [generate_eq_prepare] at ended
  rcases ends_bind_ok.1 ended with ⟨given, opened, opens, rest⟩
  rcases ends_bind_ok.1 rest with ⟨_, walked, walks, later⟩
  rcases ends_bind_ok.1 later with ⟨_, resolved, resolves, last⟩
  have said := ends_lift_bind.1 last
  rcases ends_pure.1 said with ⟨same, rfl⟩
  cases same
  exact ⟨opened, walked, opens, walks, resolved.messages, resolves⟩

theorem ends_storeModule {category : Category} (isFile : category.isFile)
    (ended : Ends (storeModule scope category id) start (.ok ()) after)
    (unfiltered : scope.filter = none) :
    ∃ doc messages, doc.category.isFile ∧ after = { start with
      messages
      store := { start.store with docs := start.store.docs ++ [doc] } } := by
  have other : category ≠ .moduleClass := by
    rintro rfl
    cases isFile
  rcases ends_record ended with ⟨added, messages, rfl, ⟨doc, rfl, -, made⟩ | ⟨rfl, refused⟩⟩
  · refine ⟨doc, messages, ?_, by rw [Links.naming_of_ne _ _ _ other]⟩
    rcases (Draft.build_heads made).category with same | ⟨rfl, -⟩
    · rwa [same]
    · cases isFile
  · rcases refused unfiltered with ⟨fault, impossible⟩
    cases impossible

/-- Before the walk nothing happens but what can happen on the walk, apart from the first record. -/
theorem prepare_reaches (ended : Ends (prepare scope) start (.ok id) opened) :
    Reaches (within scope start.store.nextId) (fun _ => True) start opened := by
  have drawn := ends_lift_bind.1 ended
  rcases ends_bind_ok.1 drawn with ⟨_, stored, storing, rest⟩
  rcases ends_bind_ok.1 rest with ⟨_, documented, inner, rested⟩
  rcases ends_pure.1 rested with ⟨-, rfl⟩
  have isFile : (if scope.code.isSome then Category.memory else .file).isFile := by
    split <;> rfl
  have first : Reaches (within scope start.store.nextId) _ start stored :=
    .single (storeModule_drawn isFile storing).1
  have second := (documentInner_sound _).reaches inner
  exact (first.mono fun _ _ => trivial).trans (second.mono fun _ _ => trivial)

/-- Where nothing is noted on the whole, nothing is noted in any of the stages. -/
theorem Stages.invalid (stages : Stages scope id start opened walked after)
    (faultless : after.invalid = start.invalid) :
    opened.invalid = start.invalid ∧ walked.invalid = opened.invalid ∧
      after.invalid = walked.invalid := by
  rcases stages.resolves with ⟨messages, resolves⟩
  have walks := ((firstPass_sound _).reaches stages.walks).keeps_invalid
  have resolved := ((secondPass_sound _).reaches resolves).keeps_invalid
  rcases invalid_unchanged (prepare_reaches stages.opens).keeps_invalid (walks.trans resolved)
    faultless with ⟨same, sameToo⟩
  exact ⟨same, invalid_unchanged walks resolved sameToo⟩

theorem ends_documentInner (ended : Ends (documentInner scope) start (.ok ()) after)
    (plain : scope.program.IsPlain) (faultless : after.invalid = start.invalid) :
    Aside start after := by
  unfold documentInner at ended
  split at ended
  · have documented :=
      ends_guarded_of_invalid (documentComments_sound _ _ _ _) ended faultless
    exact ends_documentComments_none plain.inner documented
  · rcases ends_pure.1 ended with ⟨-, rfl⟩
    exact .refl _

theorem ends_prepare (plain : scope.program.IsPlain) (unfiltered : scope.filter = none)
    (ended : Ends (prepare scope) start (.ok id) opened)
    (faultless : opened.invalid = start.invalid) :
    ∃ doc, doc.category.isFile ∧ opened.store.docs = start.store.docs ++ [doc] ∧
      id = start.store.nextId ∧ ∃ drawn, Aside drawn opened ∧ drawn.links = start.links ∧
        drawn.visited = start.visited ∧ drawn.classes = start.classes ∧
        drawn.nextNode = start.nextNode := by
  rw [prepare, opening] at ended
  have drawn := ends_lift_bind.1 ended
  rcases ends_bind_ok.1 drawn with ⟨_, stored, storing, rest⟩
  rcases ends_bind_ok.1 rest with ⟨_, documented, inner, rested⟩
  rcases ends_pure.1 rested with ⟨same, rfl⟩
  have isNext : id = start.store.nextId := Except.ok.inj same
  have isFile : (if scope.code.isSome then Category.memory else .file).isFile := by
    split <;> rfl
  rcases ends_storeModule isFile storing unfiltered with ⟨doc, messages, docIsFile, rfl⟩
  have aside := ends_documentInner inner plain faultless
  refine ⟨doc, docIsFile, ?_, isNext, _, aside, rfl, rfl, rfl, rfl⟩
  rw [aside.store]
  rfl

/-- Work that ends well and without a fault has recorded the findings of the program. -/
theorem exists_walked {store : Store} {nextNode : NodeId} (plain : scope.program.IsPlain)
    (below : scope.program.Below nextNode) (unfiltered : scope.filter = none)
    (ended : Ends (generate scope) (Program.start ⟨scope.program, nextNode⟩ store) (.ok id) after)
    (faultless : after.invalid = []) :
    ∃ opened walked docs,
      Stages scope id (Program.start ⟨scope.program, nextNode⟩ store) opened walked after ∧
      (∃ doc, doc.category.isFile ∧ opened.store.docs = store.docs ++ [doc]) ∧
      Walked (within scope id) opened scope.program.walked walked docs := by
  rcases exists_stages ended with ⟨opened, walked, stages⟩
  rcases stages.invalid faultless with ⟨openedFaultless, walkedFaultless, -⟩
  rcases ends_prepare plain unfiltered stages.opens openedFaultless with
    ⟨doc, isFile, stored, -, drawn, aside, links, visited, classes, sameNext⟩
  have lower : nextNode ≤ opened.nextNode := by
    have := aside.nextNode
    rwa [sameNext] at this
  have fresh : Fresh scope.program opened := by
    refine ⟨fun place isPlace => ?_, fun id => ?_, aside.classes.trans classes⟩
    · rw [aside.parents _ (sameNext ▸ below place isPlace), links]
      exact Std.TreeMap.getElem?_emptyc
    · rw [aside.visited, visited]
      exact Std.TreeSet.contains_emptyc
  have belowToo : scope.program.Below opened.nextNode :=
    fun place isPlace => Nat.lt_of_lt_of_le (below place isPlace) lower
  have walks : Ends (firstPass (within scope id)) opened (.ok ()) walked := stages.walks
  rcases @ends_firstPass (within scope id) opened walked plain unfiltered belowToo fresh walks
    walkedFaultless with ⟨docs, recorded⟩
  exact ⟨opened, walked, docs, stages, ⟨doc, isFile, stored⟩, recorded⟩

end DocHarvest.Module
