import DocHarvest.Module.Request
import DocHarvest.Proofs.Module.Sound

/-!
# Ids over calls

A store is filled by calls: each documents one module, or the tests of one file, and may end in a
fault. The record of the module comes first, under the first id that the call draws; everything else
that the call stores comes later and under later ids. As every effect keeps the ids in order, so
does every call, and no call is refused for an id.
-/

namespace DocHarvest

open Run

namespace Module

variable {before after : Progress}

/-- The scope of a module whose record has an id. -/
def within (scope : Scope) (id : Int) : Scope :=
  { scope with moduleId := some id }

/-- A record of a module with an id: the record of the file has this id, and no other record has. -/
structure Places (scope : Scope) (id : Int) (doc : Doc) : Prop where
  moduleId : doc.moduleId = some id
  filePath : doc.filePath = scope.filePath
  isFile : doc.id = id ↔ doc.category.isFile

/-- To store the record of a module is to build it and to insert it. -/
theorem storeModule_eq (scope : Scope) (category : Category) (id : Int) :
    storeModule scope category id =
      (build scope id category scope.program [] >>= Run.insert scope) >>= fun _ => pure () := by
  simp only [storeModule, bind_assoc]

/-- The record of the module is stored under the id drawn for it, or the id is lost. -/
theorem storeModule_drawn {scope : Scope} {category : Category} {outcome : Except Fault Unit}
    (isFile : category.isFile)
    (ended : Ends (storeModule scope category before.store.nextId)
      { before with store := before.store.draw.2 } outcome after) :
    Effect scope (fun kind => kind.isFile) before after ∧
      after.store.nextId = before.store.nextId + 1 ∧
      (before.store.Disciplined → Fair scope before outcome after) := by
  have allowed {draft : Draft} {doc : Doc} (heads : draft.Heads category doc) :
      doc.category.isFile := by
    rcases heads.category with same | ⟨rfl, -⟩
    · rwa [same]
    · cases isFile
  rw [storeModule_eq] at ended
  rcases ends_bind.1 ended with ⟨stored, middle, made, rest⟩ | ⟨fault, failed, rfl⟩
  · rcases ends_pure.1 rest with ⟨rfl, rfl⟩
    rcases build_drawn (fun kind => kind.isFile) before allowed made rfl rfl with
      ⟨effect, counter, fair⟩
    exact ⟨effect, counter, fun disciplined => (fair disciplined).recast (by simp)⟩
  · rcases build_drawn (fun kind => kind.isFile) before allowed failed rfl rfl with
      ⟨effect, counter, fair⟩
    exact ⟨effect, counter, fun disciplined => (fair disciplined).recast (by simp)⟩

/-- The common form of the work on a module: an id, the record of the module, and the rest. -/
def opening (scope : Scope) (category : Category) (rest : Int → Run Int) : Run Int :=
  liftM drawId >>= fun id => storeModule (within scope id) category id >>= fun _ => rest id

theorem ends_opening {scope : Scope} {category : Category} {rest : Int → Run Int}
    {outcome : Except Fault Int} (isFile : category.isFile)
    (sound : ∀ id, Sound (within scope id) Category.Entity (rest id))
    (returns : ∀ id, Yields (rest id) (· = id))
    (ended : Ends (opening scope category rest) before outcome after) :
    before.store.Grows (Places scope before.store.nextId) after.store ∧
      (before.store.Disciplined →
        Fair (within scope before.store.nextId) before outcome after) ∧
      ∀ id, outcome = .ok id → id = before.store.nextId := by
  have first := ends_lift_bind.1 ended
  have opened {middle : Progress}
      (effect : Effect (within scope before.store.nextId) (fun kind => kind.isFile) before middle)
      (counter : middle.store.nextId = before.store.nextId + 1) :
      before.store.Grows (Places scope before.store.nextId) middle.store := by
    refine effect.grows.mono fun doc low high fits => ⟨fits.moduleId, fits.filePath, ?_⟩
    simp only [fits.kind, iff_true]
    omega
  rcases ends_bind.1 first with ⟨_, middle, stored, rested⟩ | ⟨fault, failed, rfl⟩
  · rcases storeModule_drawn isFile stored with ⟨effect, counter, fair⟩
    have reached := (sound before.store.nextId).reaches rested
    refine ⟨(opened effect counter).trans (reached.grows.mono fun doc low _ fits => ?_), ?_, ?_⟩
    · refine ⟨fits.moduleId, fits.filePath, ?_⟩
      have entity : doc.category.isFile = false := fits.kind
      simp only [entity, Bool.false_eq_true, iff_false]
      omega
    · intro disciplined
      exact .trans (fair disciplined).notes
        ((sound _).fair rested (effect.grows.disciplined disciplined))
    · rintro id rfl
      exact returns _ _ _ _ rested
  · rcases storeModule_drawn isFile failed with ⟨effect, counter, fair⟩
    refine ⟨opened effect counter, fun disciplined => (fair disciplined).recast ?_, by simp⟩
    rintro other ⟨⟩
    rfl

/-- What is done for a module after its record: both passes, and a message. -/
def passes (scope : Scope) (id : Int) : Run Int := do
  documentInner (within scope id)
  firstPass (within scope id)
  secondPass (within scope id)
  Run.say .info
    ("Generated docs for " ++ scope.filePath ++ " (module id " ++ Value.integerText id ++ ")")
  return id

theorem generate_eq (scope : Scope) :
    generate scope = opening scope (if scope.code.isSome then .memory else .file) (passes scope) :=
  rfl

theorem passes_sound (scope : Scope) (id : Int) :
    Sound (within scope id) Category.Entity (passes scope id) := by
  refine (documentInner_sound _).bind fun _ => ?_
  refine (firstPass_sound _).bind fun _ => ?_
  refine ((secondPass_sound _).mono ?_).bind fun _ => ?_
  · rintro _ rfl
    rfl
  · exact (Sound.lift (Quiet.say _ _)).bind fun _ => Sound.pure _

theorem passes_yields (scope : Scope) (id : Int) : Yields (passes scope id) (· = id) :=
  Yields.bind fun _ => Yields.bind fun _ => Yields.bind fun _ => Yields.bind fun _ => Yields.pure rfl

/-- What is done for a file of tests after its record: the walk, and a message. -/
def testPass (scope : Scope) (id : Int) : Run Int := do
  scope.program.walk (enterTest (within scope id))
  Run.say .info
    ("Generated test docs for " ++ scope.filePath ++ " (module id " ++
      Value.integerText id ++ ")")
  return id

theorem generateTests_eq (scope : Scope) :
    generateTests scope = opening scope .testFile (testPass scope) :=
  rfl

theorem testPass_sound (scope : Scope) (id : Int) :
    Sound (within scope id) Category.Entity (testPass scope id) := by
  have walked : Sound (within scope id) (· = .test)
      (scope.program.walk (enterTest (within scope id))) :=
    Node.walkStack_sound (enterTest_sound (within scope id)) _
  refine (walked.mono ?_).bind fun _ => ?_
  · rintro _ rfl
    rfl
  · exact (Sound.lift (Quiet.say _ _)).bind fun _ => Sound.pure _

theorem testPass_yields (scope : Scope) (id : Int) : Yields (testPass scope id) (· = id) :=
  Yields.bind fun _ => Yields.bind fun _ => Yields.pure rfl

/-- The work of a request keeps the ids in order, and complains about one only with an excuse. -/
theorem Request.ends_run {request : Request} {scope : Scope} {outcome : Except Fault Int}
    (ended : Ends (request.run scope) before outcome after) :
    before.store.Grows (Places scope before.store.nextId) after.store ∧
      (before.store.Disciplined →
        Fair (within scope before.store.nextId) before outcome after) ∧
      ∀ id, outcome = .ok id → id = before.store.nextId := by
  unfold Request.run at ended
  split at ended
  · rw [generateTests_eq] at ended
    exact ends_opening rfl (testPass_sound scope) (testPass_yields scope) ended
  · rw [generate_eq] at ended
    have isFile : (if scope.code.isSome then Category.memory else .file).isFile := by
      split <;> rfl
    exact ends_opening isFile (passes_sound scope) (passes_yields scope) ended

/-- Under the strict policy nothing is noted while a module is worked on. -/
theorem opening_invalid_of_stop {scope : Scope} {category : Category} {rest : Int → Run Int}
    {outcome : Except Fault Int} (strict : scope.policy = .stop) (isFile : category.isFile)
    (sound : ∀ id, Sound (within scope id) Category.Entity (rest id))
    (ended : Ends (opening scope category rest) before outcome after) :
    after.invalid = before.invalid := by
  have inside : (within scope before.store.nextId).policy = .stop := strict
  have opened {middle : Progress} {stored : Except Fault Unit}
      (stores : Ends (storeModule (within scope before.store.nextId) category before.store.nextId)
        { before with store := before.store.draw.2 } stored middle) :
      middle.invalid = before.invalid := by
    have reaches : Reaches (within scope before.store.nextId) _ before middle :=
      .single (storeModule_drawn isFile stores).1
    exact reaches.invalid_of_stop inside
  have first := ends_lift_bind.1 ended
  rcases ends_bind.1 first with ⟨_, middle, stores, rested⟩ | ⟨fault, failed, rfl⟩
  · have reached := (sound before.store.nextId).reaches rested
    exact (reached.invalid_of_stop inside).trans (opened stores)
  · exact opened failed

theorem Request.invalid_of_stop {request : Request} {scope : Scope} {outcome : Except Fault Int}
    (strict : scope.policy = .stop) (ended : Ends (request.run scope) before outcome after) :
    after.invalid = before.invalid := by
  unfold Request.run at ended
  split at ended
  · rw [generateTests_eq] at ended
    exact opening_invalid_of_stop strict rfl (testPass_sound scope) ended
  · rw [generate_eq] at ended
    have isFile : (if scope.code.isSome then Category.memory else .file).isFile := by
      split <;> rfl
    exact opening_invalid_of_stop strict isFile (passes_sound scope) ended

/-! ## Sequences of calls -/

/-- A request with the surroundings in which it is made and what its generator has come to. -/
structure Call where
  request : Request
  workspace : Workspace
  directory : Path
  state : Progress

namespace Call

/-- The scope of a call, if the request passes its checks. -/
def scope (call : Call) : Except Fault Scope :=
  call.request.scope call.workspace call.directory

/-- Makes a call on a store; a request that does not pass its checks leaves the store alone. -/
def perform (call : Call) (store : Store) : Except Fault Int × Progress :=
  match call.scope with
  | .error fault => (.error fault, { call.state with store })
  | .ok scope => (call.request.run scope).run.run { call.state with store }

/-- The store after a call. -/
def store (call : Call) (before : Store) : Store :=
  (call.perform before).2.store

/-- The store after calls that are made one after the other. -/
def storeAfter (calls : List Call) (start : Store) : Store :=
  calls.foldl (fun store call => call.store store) start

/-- A complaint about an id that the filter of a call makes itself. -/
def Raises (call : Call) (fault : Fault) : Prop :=
  ∃ filter doc, call.request.filter = some filter ∧ filter doc = .error fault

/-- What a call does to a store, as far as ids are concerned. -/
structure Orderly (call : Call) (before : Store) : Prop where
  disciplined : (call.store before).Disciplined
  keyed : ∀ doc ∈ (call.store before).docs, (call.store before).get? doc.id = some doc
  grows : before.Grows
    (fun doc => ∃ scope, call.scope = .ok scope ∧ Places scope before.nextId doc)
    (call.store before)
  returned : ∀ id, (call.perform before).1 = .ok id → id = before.nextId
  accepted : ∀ id, (call.perform before).1 = .error (.duplicateId id) →
    call.Raises (.duplicateId id)
  noted : ∀ entry ∈ (call.perform before).2.invalid, entry ∈ call.state.invalid ∨
    ∀ id, entry.fault = .duplicateId id → call.Raises (.duplicateId id)

theorem scope_acceptsId (call : Call) (id : Int) : AcceptsId id call.scope := by
  simp only [Call.scope, Request.scope]
  split
  · exact AcceptsId.error (by simp)
  · split
    · split
      · exact AcceptsId.error (by simp)
      · refine AcceptsId.bind ?_ fun place => AcceptsId.ok _
        simp only [Request.place, ModulePath.of]
        split
        · exact AcceptsId.error (by simp)
        · exact AcceptsId.ok _
    · exact AcceptsId.error (by simp)

/-- A scope that passes the checks is about the program of the request, with its filter. -/
theorem scope_eq_ok {call : Call} {scope : Scope} (checked : call.scope = .ok scope) :
    scope.program = call.request.program.root ∧ scope.filter = call.request.filter ∧
      ∃ path, scope.fileText = call.workspace.text? path := by
  simp only [Call.scope, Request.scope] at checked
  split at checked
  · cases checked
  · split at checked
    · split at checked
      · cases checked
      · rcases bind_eq_ok.1 checked with ⟨place, -, made⟩
        cases made
        exact ⟨rfl, rfl, _, rfl⟩
    · cases checked

theorem raises_of_excuses {call : Call} {scope : Scope} {id moduleId : Int}
    (checked : call.scope = .ok scope)
    (excused : (within scope moduleId).Excuses (.duplicateId id)) :
    call.Raises (.duplicateId id) := by
  rcases scope_eq_ok checked with ⟨-, filter, path, fileText⟩
  rcases excused id rfl with unreadable | ⟨test, doc, given, refused⟩
  · exact absurd (fileText.symm.trans unreadable) (Workspace.text?_acceptsId _ _ id)
  · exact ⟨test, doc, filter.symm.trans given, refused⟩

theorem perform_of_error {call : Call} {fault : Fault} (checked : call.scope = .error fault)
    (before : Store) :
    call.perform before = (.error fault, { call.state with store := before }) := by
  simp only [perform, checked]

theorem ends_perform {call : Call} {scope : Scope} (checked : call.scope = .ok scope)
    (before : Store) :
    Ends (call.request.run scope) { call.state with store := before } (call.perform before).1
      (call.perform before).2 := by
  have run : call.perform before =
      (call.request.run scope).run.run { call.state with store := before } := by
    simp only [perform, checked]
  rw [run]
  rfl

/-- A call on a store in good order is orderly. -/
theorem orderly_of_disciplined (call : Call) {before : Store} (disciplined : before.Disciplined) :
    call.Orderly before := by
  cases checked : call.scope with
  | error fault =>
      have rejected := perform_of_error checked before
      have unchanged : call.store before = before := by
        simp only [store, rejected]
      constructor
      · rwa [unchanged]
      · rw [unchanged]
        exact fun doc => disciplined.get?_id
      · rw [unchanged]
        exact .refl _
      · simp [rejected]
      · intro id failed
        rw [rejected] at failed
        cases failed
        exact absurd checked (scope_acceptsId call id)
      · rw [rejected]
        exact fun entry noted => Or.inl noted
  | ok scope =>
      rcases Request.ends_run (ends_perform checked before) with ⟨grows, fair, returned⟩
      have isFair := fair disciplined
      have kept := grows.disciplined disciplined
      constructor
      · exact kept
      · exact fun doc => kept.get?_id
      · exact grows.mono fun doc _ _ places => ⟨scope, checked, places⟩
      · exact returned
      · intro id failed
        exact raises_of_excuses checked (isFair.ends _ failed)
      · intro entry noted
        refine (isFair.notes entry noted).imp_right fun excused id blamed => ?_
        exact raises_of_excuses checked (blamed ▸ excused)

/-- Calls that are made one after the other keep a store in good order. -/
theorem disciplined_storeAfter (calls : List Call) {start : Store}
    (disciplined : start.Disciplined) : (storeAfter calls start).Disciplined := by
  induction calls generalizing start with
  | nil => exact disciplined
  | cons call calls ih => exact ih (call.orderly_of_disciplined disciplined).disciplined

/--
Ids over whole runs: on a store in good order, after any calls whatever, the next call is orderly.
-/
theorem orderly_after_calls (start : Store) (disciplined : start.Disciplined) (calls : List Call)
    (call : Call) : call.Orderly (storeAfter calls start) :=
  call.orderly_of_disciplined (disciplined_storeAfter calls disciplined)

/-- A call that documents a module in the root of its project. -/
def ofModule (filePath : String) (body : List Node) : Call where
  request :=
    { program := ⟨.mk { id := 0 } (.program body []), 10⟩
      filePath := .text filePath
      root := "/" }
  workspace := {}
  directory := ⟨.single, []⟩
  state := { nextNode := 10 }

/-- A call that documents a module with nothing but a class in it. -/
def loneClass : Call :=
  let name : Node := .mk { id := 2 } (.identifier "Lone")
  let body : Node := .mk { id := 3 } (.classBody [])
  let statement : Node := .mk { id := 1 } (.classLike .declaration [] (some name) none body)
  { request :=
      { program := ⟨.mk { id := 0 } (.program [statement] []), 4⟩
        filePath := .text "lone.js"
        root := "/" }
    workspace := {}
    directory := ⟨.single, []⟩
    state := { nextNode := 4 } }

/-- Documenting a module twice into an empty store is orderly both times. -/
theorem orderly_lone_class_twice : ({} : Store).Disciplined ∧
    loneClass.Orderly (storeAfter [] {}) ∧ loneClass.Orderly (storeAfter [loneClass] {}) := by
  have empty : ({} : Store).Disciplined := ⟨by simp, by simp⟩
  exact ⟨empty, orderly_after_calls {} empty [] loneClass,
    orderly_after_calls {} empty [loneClass] loneClass⟩

end Call

end Module

end DocHarvest
