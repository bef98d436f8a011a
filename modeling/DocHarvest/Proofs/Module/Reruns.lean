import DocHarvest.Proofs.Module.Frame
import DocHarvest.Proofs.Module.Heeding
import DocHarvest.Proofs.Module.Isolation

/-!
# Records of earlier calls

What later calls can do to the records that earlier calls have stored. The first pass only adds
records, as it takes the same course behind old records as on an empty store. The second pass looks
records up by their file and not by their module, so a call that documents a file once more can
revise records of an earlier call, and then those of its own module with the same names are left
alone.
-/

namespace DocHarvest

open Run

theorem Doc.moved_zero (doc : Doc) : doc.moved 0 = doc := by
  simp [Doc.moved]

theorem Scope.moved_zero (scope : Scope) : scope.moved 0 = scope := by
  simp [Scope.moved]

theorem Scope.indifferent_zero (scope : Scope) : scope.Indifferent 0 :=
  fun _ _ doc => by rw [doc.moved_zero]

/-! ## Steps that spare old records -/

namespace Run

variable {scope : Scope} {files others : String → Prop} {α β : Type}

/-- However the step ends on a store in good order, old records are kept, save for some files. -/
def Spares (files : String → Prop) (step : Run α) : Prop :=
  ∀ ⦃before outcome after⦄, before.store.Disciplined → Ends step before outcome after →
    before.store.Keeps files after.store ∧ after.store.Disciplined

namespace Spares

theorem mono {step : Run α} (spares : Spares files step)
    (more : ∀ path, files path → others path) : Spares others step := by
  intro before outcome after disciplined ended
  exact (spares disciplined ended).imp_left fun keeps => keeps.mono more

theorem bind {step : Run α} {next : α → Run β} (first : Spares files step)
    (second : ∀ value, Spares files (next value)) : Spares files (step >>= next) := by
  intro before outcome after disciplined ended
  rcases ends_bind.1 ended with ⟨value, middle, start, rest⟩ | ⟨fault, failed, -⟩
  · rcases first disciplined start with ⟨keeps, disciplinedToo⟩
    rcases second value disciplinedToo rest with ⟨keepsToo, disciplinedAfter⟩
    exact ⟨keeps.trans keepsToo, disciplinedAfter⟩
  · exact first disciplined failed

/-- The work on a module closes with a message and its id. -/
theorem close (text : String) (id : Int) :
    Spares files (liftM (say .info text) >>= fun _ => pure id) := by
  intro before outcome after disciplined ended
  have said := ends_lift_bind.1 ended
  rcases ends_pure.1 said with ⟨-, rfl⟩
  exact ⟨.refl before.store, disciplined⟩

/--
A step that takes the same course behind old records as on an empty store only adds records: it is
compared with itself where all old records are taken away.
-/
theorem of_follows (step : Scope → Run α) {kinds : Category → Prop}
    (sound : Sound scope kinds (step scope))
    (follows : ∀ base floor, Follows base floor 0 (step scope) (step (scope.moved 0))) :
    Spares files (step scope) := by
  intro before outcome after disciplined ended
  let alone : Progress := { before with store := ⟨[], before.store.nextId⟩ }
  have behind : alone.store.Behind before.store.docs before.store.nextId 0 before.store := by
    refine ⟨by simp [alone], by simp [alone], ?_, by simp [alone], Int.le_refl _⟩
    simpa using disciplined.below
  have aligned : Over (Store.Behind before.store.docs before.store.nextId 0) alone before :=
    ⟨rfl, behind⟩
  have ran : Ends (step scope) alone _ _ := rfl
  rcases follows _ _ aligned ran with ⟨outcomeToo, afterToo, endedToo, -, alignedAfter⟩
  rw [scope.moved_zero] at endedToo
  rcases ended.unique endedToo with ⟨-, rfl⟩
  have added := alignedAfter.related.docs
  exact ⟨.of_added (added ▸ List.prefix_append _ _), (sound.reaches ended).disciplined disciplined⟩

end Spares

end Run

namespace Module

variable {scope : Scope} {files : String → Prop}

/-- The second pass revises records of the file only. -/
theorem secondPass_spares (scope : Scope) : Spares (· = scope.filePath) (secondPass scope) := by
  intro before outcome after disciplined ended
  refine ⟨(secondPass_framed disciplined.distinct ended).kept, ?_⟩
  exact ((secondPass_sound scope).reaches ended).disciplined disciplined

theorem passes_spares (scope : Scope) (id : Int) :
    Spares (· = scope.filePath) (passes scope id) := by
  have indifferent := (within scope id).indifferent_zero
  refine (Spares.of_follows documentInner (documentInner_sound _) fun _ _ =>
    documentInner_follows indifferent).bind fun _ => ?_
  refine (Spares.of_follows firstPass (firstPass_sound _) fun _ _ =>
    firstPass_follows indifferent).bind fun _ => ?_
  exact (secondPass_spares (within scope id)).bind fun _ => Spares.close _ id

theorem testPass_spares (scope : Scope) (id : Int) : Spares files (testPass scope id) := by
  have indifferent := (within scope id).indifferent_zero
  refine (Spares.of_follows (fun scope => scope.program.walk (enterTest scope))
    (Node.walkStack_sound (enterTest_sound _) _) fun _ _ =>
      Lockstep.walkStack (enterTest_follows indifferent) _).bind fun _ => Spares.close _ id

/-- The record of a module is only added. -/
theorem opening_spares {category : Category} {rest : Int → Run Int} (isFile : category.isFile)
    (each : ∀ id, Spares files (rest id)) : Spares files (opening scope category rest) := by
  intro before outcome after disciplined ended
  have opens {result : Except Fault Unit} {stored : Progress}
      (storing : Ends (storeModule (within scope before.store.nextId) category before.store.nextId)
        { before with store := before.store.draw.2 } result stored) :
      before.store.Keeps files stored.store ∧ stored.store.Disciplined := by
    have effect := (storeModule_drawn isFile storing).1
    refine ⟨.of_added ?_, effect.grows.disciplined disciplined⟩
    rcases (build_stores storing).stored with ⟨_, doc, -, -, -, added⟩ | ⟨same, -⟩
    · rw [added]
      exact List.prefix_append _ _
    · exact same ▸ List.prefix_rfl
  have drawn := ends_lift_bind.1 ended
  rcases ends_bind.1 drawn with ⟨_, stored, storing, rested⟩ | ⟨fault, failed, -⟩
  · rcases opens storing with ⟨keeps, disciplinedToo⟩
    rcases each _ disciplinedToo rested with ⟨keepsToo, disciplinedAfter⟩
    exact ⟨keeps.trans keepsToo, disciplinedAfter⟩
  · exact opens failed

/-! ## Sequences of calls -/

/-- Only a request that is not for tests can revise old records, and only those of its file. -/
theorem Request.spares (request : Request) (scope : Scope) :
    Spares (fun path => request.isTest = false ∧ path = scope.filePath) (request.run scope) := by
  unfold Request.run
  split
  · rw [generateTests_eq]
    exact opening_spares rfl (testPass_spares scope)
  · rename_i isNoTest
    rw [generate_eq]
    have isFile : (if scope.code.isSome then Category.memory else .file).isFile := by
      split <;> rfl
    refine opening_spares isFile fun id => (passes_spares scope id).mono fun path inFile => ?_
    exact ⟨by simpa using isNoTest, inFile⟩

namespace Call

/-- A call documents the module of a path, and not its tests. -/
def Documents (call : Call) (path : String) : Prop :=
  call.request.isTest = false ∧ ∃ scope, call.scope = .ok scope ∧ path = scope.filePath

/-- A call revises only records of the file that it documents. -/
theorem store_keeps (call : Call) {before : Store} (disciplined : before.Disciplined) :
    before.Keeps call.Documents (call.store before) := by
  cases checked : call.scope with
  | error fault =>
      have unchanged : call.store before = before := by
        simp only [store, perform_of_error checked before]
      rw [unchanged]
      exact .refl before
  | ok scope =>
      have ended := ends_perform checked before
      have keeps := (call.request.spares scope disciplined ended).1
      exact keeps.mono fun path inFile => ⟨inFile.1, scope, checked, inFile.2⟩

theorem storeAfter_keeps (calls : List Call) {start : Store} (disciplined : start.Disciplined) :
    start.Keeps (fun path => ∃ call ∈ calls, call.Documents path) (storeAfter calls start) := by
  induction calls generalizing start with
  | nil => exact .refl start
  | cons call calls ih =>
      have early := call.store_keeps disciplined
      have late := ih (call.orderly_of_disciplined disciplined).disciplined
      refine (early.mono fun path documents => ?_).trans (late.mono fun path documented => ?_)
      · exact ⟨call, List.mem_cons_self .., documents⟩
      · rcases documented with ⟨other, isLater, documents⟩
        exact ⟨other, List.mem_cons_of_mem call isLater, documents⟩

/--
Records of earlier calls. Whatever calls follow, every record that some calls have left in the store
keeps its place. It can be revised only when a later call documents its file once more, only as
exports revise records, and only if it is the first one of its category and name in the file.
-/
theorem earlier_records_kept (start : Store) (disciplined : start.Disciplined)
    (earlier later : List Call) :
    (storeAfter earlier start).Keeps (fun path => ∃ call ∈ later, call.Documents path)
      (storeAfter (earlier ++ later) start) := by
  have stored : storeAfter (earlier ++ later) start = storeAfter later (storeAfter earlier start) :=
    List.foldl_append ..
  rw [stored]
  exact storeAfter_keeps later (disciplined_storeAfter earlier disciplined)

/-- A call that documents a snippet of code; snippets without a name share one path. -/
def snippet (code : String) (statements : List Node) : Call where
  request :=
    { program := ⟨.mk { id := 0 } (.program statements []), 6⟩
      filePath := .text "memory.js"
      root := "/"
      code := some code }
  workspace := {}
  directory := ⟨.single, []⟩
  state := { nextNode := 6 }

/-- A snippet that declares a class and keeps it to itself. -/
def plainSnippet : Call :=
  snippet "class Foo {}" [emptyClass 1 "Foo"]

/-- A snippet that declares a class of the same name and exports it. -/
def exportingSnippet : Call :=
  snippet "class Foo {} export default Foo;" [emptyClass 1 "Foo",
    .mk { id := 4 } (.exportDefault (some (.mk { id := 5 } (.identifier "Foo"))))]

theorem older_snippet_kept : ({} : Store).Disciplined ∧
    (storeAfter ([plainSnippet] ++ [loneClass, exportingSnippet]) {}).docs.map
        (fun doc => (doc.moduleId, doc.name, doc.exported)) =
      [(some 0, some "memory.js", false), (some 0, some "Foo", true),
        (some 2, some "lone.js", false), (some 2, some "Lone", false),
        (some 4, some "memory.js", false), (some 4, some "Foo", false)] ∧
    (storeAfter [plainSnippet] {}).Keeps
      (fun path => ∃ call ∈ [loneClass, exportingSnippet], call.Documents path)
      (storeAfter ([plainSnippet] ++ [loneClass, exportingSnippet]) {}) := by
  have empty : ({} : Store).Disciplined := ⟨by simp, by simp⟩
  refine ⟨empty, ?_, earlier_records_kept {} empty [plainSnippet] [loneClass, exportingSnippet]⟩
  decide +kernel

/-- The class of the first snippet is revised in place of the one that the second one exports. -/
theorem older_snippet_revised :
    (storeAfter [plainSnippet] {}).docs.map (fun doc => (doc.id, doc.moduleId, doc.exported)) =
      [(0, some 0, false), (1, some 0, false)] ∧
    (storeAfter [plainSnippet, exportingSnippet] {}).docs.map
        (fun doc => (doc.id, doc.moduleId, doc.exported)) =
      [(0, some 0, false), (1, some 0, true), (2, some 2, false), (3, some 2, false)] ∧
    ¬ (storeAfter [plainSnippet] {}).docs <+:
      (storeAfter [plainSnippet, exportingSnippet] {}).docs := by
  have before : (storeAfter [plainSnippet] {}).docs.map
      (fun doc => (doc.id, doc.moduleId, doc.exported)) =
        [(0, some 0, false), (1, some 0, false)] := by
    decide +kernel
  have after : (storeAfter [plainSnippet, exportingSnippet] {}).docs.map
      (fun doc => (doc.id, doc.moduleId, doc.exported)) =
        [(0, some 0, false), (1, some 0, true), (2, some 2, false), (3, some 2, false)] := by
    decide +kernel
  refine ⟨before, after, fun unchanged => ?_⟩
  have views := unchanged.map fun doc => (doc.id, doc.moduleId, doc.exported)
  rw [before, after] at views
  revert views
  decide

end Call

end Module

end DocHarvest
