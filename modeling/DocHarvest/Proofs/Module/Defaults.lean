import DocHarvest.Proofs.Module.Typing
import DocHarvest.Proofs.Record.Plain

/-!
# Defaults of stored records

If the literals in the programs of calls are plain, then so is every record that the calls store:
what the draft of a record guesses it takes from the program, and exports bring no defaults along.
-/

namespace DocHarvest

variable {draft : Draft} {category : Category} {doc : Doc}

/-- A record that comes from a draft is plain if the program of the draft is. -/
theorem Draft.Sources.isPlain (sources : draft.Sources category doc)
    (plain : draft.scope.program.HasPlainLiterals) : doc.IsPlain := by
  rcases sources.built with ⟨made, built, continues⟩
  have describes := build_described built
  refine ⟨fun part isPart => ?_, fun params described param isParam => ?_⟩
  · rcases continues.typedParts part isPart with wasPart | ⟨filePath, className, rfl⟩
    · exact (describes.parts part wasPart).isPlain
    · trivial
  · have same : doc.params = made.params := (congrArg Doc.params continues.outline :)
    rcases describes.params params (same.symm.trans described) with tagged | ⟨isFunction, rfl⟩
    · exact (tagged param isParam).isPlain
    · have inside := plain.contained (sources.contained_of_isFunction isFunction)
      refine Param.isPlain_of_mem_guessAll (fun node isNode => ?_) param isParam
      exact inside.child (Draft.paramNodes_subset_children _ isNode)

namespace Module.Call

theorem isPlain_of_mem_storeAfter {calls : List Call}
    (plain : ∀ call ∈ calls, call.request.program.root.HasPlainLiterals) :
    ∀ doc ∈ (storeAfter calls {}).docs, doc.IsPlain := by
  intro doc isStored
  rcases exists_sources calls isStored with
    ⟨draft, category, ⟨call, isCall, scope, id, checked, inScope⟩, sources⟩
  refine sources.isPlain ?_
  have sameProgram : draft.scope.program = scope.program := (congrArg Scope.program inScope :)
  rw [sameProgram, (scope_eq_ok checked).1]
  exact plain call isCall

end Module.Call

end DocHarvest
