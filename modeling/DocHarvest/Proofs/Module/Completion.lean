import DocHarvest.Proofs.Module.Undocumented

/-!
# Undocumented code never aborts a module

An export without comments is planned for by names and by the code of instances alone, so the second pass
succeeds as the first one does, and with both of them the work on a module.
-/

namespace DocHarvest

open Run

/-! ## The second pass -/

/-- Without comments an export declares no type for what it exports. -/
theorem Export.declaredType_of_uncommented {exportNode : Node}
    (uncommented : ∀ comment ∈ exportNode.leading, comment.isDoc = false) :
    declaredType exportNode = .ok none := by
  have nothing : exportNode.leading.filter Comment.isDoc = [] :=
    List.filter_eq_nil_iff.2 fun comment isComment => by simp [uncommented comment isComment]
  have noTags : Comment.docTags exportNode.leading = [] := by
    rw [Comment.docTags, nothing]
    rfl
  rw [declaredType, noTags]
  rfl

namespace Run.Succeeds

variable {scope : Scope} {before : Progress} {exportNode : Node}

theorem resolve (total : scope.IsTotal) (faultless : before.IsFaultless)
    (uncommented : ∀ comment ∈ exportNode.leading, comment.isDoc = false) :
    Succeeds (Module.resolve scope exportNode) before := by
  have readable : (Export.declaredType exportNode).isOk := by
    rw [Export.declaredType_of_uncommented uncommented]
    rfl
  refine guarded ((plan readable faultless).bind fun mutations _ _ faultlessToo => ?_)
  rcases Export.exists_applied total mutations faultlessToo.below with ⟨store, ended, below⟩
  exact ⟨(), _, ended, below, faultlessToo.invalid⟩

theorem secondPass (undocumented : scope.program.IsUndocumented) (total : scope.IsTotal)
    (faultless : before.IsFaultless)
    (queued : ∀ exportNode ∈ before.pending, scope.program.Contains exportNode) :
    Succeeds (Module.secondPass scope) before := by
  have resolved : Succeeds (before.pending.forM (Module.resolve scope)) before := by
    refine forM faultless fun exportNode isQueued _ faultlessToo => resolve total faultlessToo ?_
    intro comment isComment
    exact undocumented.uncommented comment ⟨exportNode, queued exportNode isQueued, by simp [isComment]⟩
  rcases resolved with ⟨⟨⟩, after, ended, faultlessToo⟩
  exact ⟨(), _, Module.ends_secondPass_of_forM ended, faultlessToo.congr rfl rfl⟩

end Run.Succeeds

/-! ## Whole runs -/

namespace Run.Succeeds

variable {scope : Scope} {before : Progress}

/-- The record of a source in memory is stored, and the comments of an empty module say nothing. -/
theorem prepare (undocumented : scope.program.IsUndocumented) (total : scope.IsTotal)
    (inMemory : scope.code.isSome) (faultless : before.IsFaultless) :
    Succeeds (Module.prepare scope) before := by
  let drawn : Progress := { before with store := before.store.draw.2 }
  let inner := Module.within scope before.store.nextId
  have recorded : Succeeds (build inner before.store.nextId .memory scope.program [] >>=
      Run.insert inner) drawn :=
    @stored inner before total faultless drawn rfl rfl .memory scope.program [] fun _ => ⟨_, rfl⟩
  have prepared : Succeeds (Module.storeModule inner .memory before.store.nextId >>= fun _ =>
      Module.documentInner inner >>= fun _ => Pure.pure before.store.nextId) drawn := by
    rw [Module.storeModule_eq]
    refine (recorded.andReturn _).bind ?_
    intro _ middle _ faultlessToo
    have documented : Succeeds (Module.documentInner inner) middle :=
      documentInner undocumented faultlessToo
    exact documented.andReturn _
  rw [Module.prepare, if_pos inMemory]
  exact after prepared

theorem generate (undocumented : scope.program.IsUndocumented) (total : scope.IsTotal)
    (inMemory : scope.code.isSome) (faultless : before.IsFaultless) (idle : before.pending = []) :
    Succeeds (Module.generate scope) before := by
  rw [Module.generate_eq_prepare]
  refine (prepare undocumented total inMemory faultless).bind fun id opened opens faultlessToo => ?_
  have walks : Succeeds (Module.firstPass (Module.within scope id)) opened :=
    firstPass undocumented total faultlessToo
  refine walks.bind fun _ walked isWalked faultlessLater => ?_
  have queued : ∀ exportNode ∈ walked.pending, scope.program.Contains exportNode := by
    have queue := Module.firstPass_queues isWalked
    rw [Module.prepare_leaves scope opens, idle, List.nil_append] at queue
    intro exportNode isQueued
    rw [queue] at isQueued
    rcases List.mem_map.1 (List.mem_of_mem_filter isQueued) with ⟨place, isReached, rfl⟩
    exact ⟨place, Node.walked_subset_places isReached, rfl⟩
  have resolves : Succeeds (Module.secondPass (Module.within scope id)) walked :=
    secondPass undocumented total faultlessLater queued
  refine resolves.bind fun _ resolved _ faultlessLast => ?_
  have said (text : String) : ((say .info text).run resolved).2.IsFaultless :=
    faultlessLast.congr rfl rfl
  exact after (pure (said _) id)

end Run.Succeeds

namespace Module

/--
Undocumented code never aborts a module. A program that no comment documents, in which decorators and
the first variables of statements have names and integers can be written out, is documented to the end
from its source in memory: the id of its record is returned and neither pass notes a fault, whatever the
policy, for every total filter and every store whose ids are below its counter.
-/
theorem undocumented_code_recorded {scope : Scope} {store : Store}
    (undocumented : scope.program.IsUndocumented) (inMemory : scope.code.isSome)
    (total : scope.IsTotal) (below : store.Below) (nextNode : NodeId) :
    ∃ after, Ends (generate scope) (Program.start ⟨scope.program, nextNode⟩ store)
      (.ok store.nextId) after ∧ after.invalid = [] := by
  have fresh : (Program.start ⟨scope.program, nextNode⟩ store).IsFaultless := ⟨below, rfl⟩
  rcases Succeeds.generate undocumented total inMemory fresh rfl with ⟨id, after, ended, faultless⟩
  have isFile : (if scope.code.isSome then Category.memory else .file).isFile := by
    split <;> rfl
  have given : id = store.nextId :=
    (ends_opening isFile (passes_sound scope) (passes_yields scope) ended).2.2 id rfl
  rw [given] at ended
  exact ⟨after, ended, faultless.invalid⟩

/-- A class with a decorator and a method. -/
def decoratedClass : Node :=
  let decorator : Node := .mk { id := 2 }
    (.decorator (some (.mk { id := 3 } (.identifier "logged"))))
  let count : Node := .mk { id := 8 } (.assignmentPattern
    (some (.mk { id := 9 } (.identifier "count")))
    (some (.mk { id := 10 } (.literal (.integer 1) .number))))
  let body : Node := .mk { id := 11 } (.block [.mk { id := 12 } (.returnStatement
    (some (.mk { id := 13 } (.literal (.integer 2) .number))))])
  let method : Node := .mk { id := 6 } (.method [] (some (.mk { id := 7 } (.identifier "run")))
    [count] (some body) .method false false false false)
  .mk { id := 1, leading := [⟨.block, " A note. ", none⟩] } (.classLike .declaration [decorator]
    (some (.mk { id := 4 } (.identifier "Engine"))) none (.mk { id := 5 } (.classBody [method])))

/-- An exported variable that binds an object pattern. -/
def patternExport : Node :=
  let name : Node := .mk { id := 19 } (.identifier "limit")
  let pattern : Node := .mk { id := 17 } (.objectPattern
    [.mk { id := 18 } (.objectProperty (some name) (some (.mk { id := 20 } name.shape)) false)])
  .mk { id := 14 } (.exportNamed (some (.mk { id := 15 } (.variables "const" [.mk { id := 16 }
    (.declarator (some pattern) (some (.mk { id := 21 } (.array []))))]))) [] none)

/-- A module of a class, an exported pattern, and an instance as the default export. -/
def bareScope : Scope where
  program := .mk { id := 0 }
    (.program [decoratedClass, patternExport, freshDefault 22 [] "Engine"] [])
  filePath := "engine.js"
  code := some ""

/-- Every part of that module is recorded, and the variable of the instance is made up. -/
theorem bare_code_recorded :
    ∃ after, Ends (generate bareScope) (Program.start ⟨bareScope.program, 25⟩ {}) (.ok 0) after ∧
      after.invalid = [] ∧ after.store.docs.length = 5 := by
  have tree : bareScope.program.IsTree := by decide +kernel
  have uncommented : ∀ place ∈ bareScope.program.places, ∀ comment ∈ place.node.leading ++
      place.node.trailing ++ place.node.innerComments, comment.isDoc = false := by decide +kernel
  have writable : ∀ place ∈ bareScope.program.places, ∀ value ∈ place.node.literal?,
      value.isWritable := by decide +kernel
  have decorators : ∀ place ∈ bareScope.program.places, ∀ decorator ∈ place.node.shape.decorators,
      decorator.isNamedDecorator := by decide +kernel
  have bindings : ∀ statement ∈ bareScope.program.body, ∀ declaration ∈ statement.declarations,
      ∀ first ∈ declaration.firstDeclarator?, first.bindsName := by decide +kernel
  have undocumented : bareScope.program.IsUndocumented :=
    { isProgram := rfl
      coherent := tree.isCoherent
      uncommented := by
        rintro comment ⟨_, ⟨place, isPlace, rfl⟩, isComment⟩
        exact uncommented place isPlace comment isComment
      writable := by
        rintro _ ⟨place, isPlace, rfl⟩
        exact writable place isPlace
      decorators := by
        rintro _ ⟨place, isPlace, rfl⟩
        exact decorators place isPlace
      bindings }
  have below : ({} : Store).Below := List.forall_mem_nil _
  rcases undocumented_code_recorded undocumented rfl (fun _ => ⟨true, rfl⟩) below 25 with
    ⟨after, ended, faultless⟩
  have same : after = ((generate bareScope).run.run (Program.start ⟨bareScope.program, 25⟩ {})).2 :=
    congrArg Prod.snd ended.symm
  refine ⟨after, ended, faultless, ?_⟩
  rw [same]
  decide +kernel

end Module

end DocHarvest
