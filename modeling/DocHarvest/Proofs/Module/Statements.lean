import DocHarvest.Proofs.Module.Expected

/-!
# Findings at statements and below

What is recorded for a module is recorded at its statements: `findings` there are what the statements
declare or export. Below them nothing stands at the top level, so whatever is recorded there is a
member of a class, and the class is one that a statement around it has been recorded for.
-/

namespace DocHarvest

variable {program : Node}

namespace Node

/-- Whether a node is no export from a module, or one that gives the module by a literal. -/
def hasLiteralSource (node : Node) : Bool :=
  match node.shape with
  | .exportNamed _ _ (some source) =>
      match source.shape with
      | .literal .. => true
      | _ => false
  | _ => true

/-- The modules that exports take names from are given by literals. -/
def HasLiteralSources (program : Node) : Prop :=
  ∀ place ∈ program.places, place.node.hasLiteralSource

instance (program : Node) : Decidable program.HasLiteralSources :=
  inferInstanceAs (Decidable (∀ place ∈ program.places, place.node.hasLiteralSource))

theorem shape_of_hasLiteralSource {node source : Node} {declaration : Option Node}
    {specifiers : List Node} (literal : node.hasLiteralSource)
    (shape : node.shape = .exportNamed declaration specifiers (some source)) :
    ∃ value kind, source.shape = .literal value kind := by
  simp only [hasLiteralSource, shape] at literal
  split at literal
  · rename_i value kind sourceShape
    exact ⟨value, kind, sourceShape⟩
  · cases literal

theorem isDeferred_eq_false {node : Node} (plain : node.shape.isExport = false) :
    Export.isDeferred program node = false := by
  unfold Export.isDeferred
  unfold Shape.isExport at plain
  split at plain
  · cases plain
  · cases plain
  · split <;> simp_all

theorem walked_subset_places : program.walked ⊆ program.places :=
  (Place.reach_sublist _).subset

theorem statement_mem_walked (isProgram : program.isProgram) {statement : Node}
    (isStatement : statement ∈ program.body) : ⟨statement, [program]⟩ ∈ program.walked := by
  have entered : (!Export.isDeferred program program) = true := by
    rw [isDeferred_eq_false (isExport_of_isProgram isProgram)]
    rfl
  refine Place.parts_mem_reach _ (Place.self_mem_reach _) entered (Place.mem_parts.2 ⟨?_, rfl⟩)
  rwa [children_eq_body isProgram]

theorem mem_children_of_exported? {node declaration : Node}
    (wrapped : node.exported? = some declaration) : declaration ∈ node.children := by
  unfold exported? at wrapped
  split at wrapped
  · rename_i shape
    simp [children, shape, Shape.children, wrapped]
  · rename_i shape
    simp [children, shape, Shape.children, wrapped]
  · cases wrapped

theorem isClass_of_isExport {node : Node} (isExport : node.shape.isExport) :
    node.shape.isClass = false := by
  unfold Shape.isExport at isExport
  split at isExport
  · rename_i shape
    simp [shape, Shape.isClass]
  · rename_i shape
    simp [shape, Shape.isClass]
  · cases isExport

theorem isClass_of_isProgram (isProgram : program.isProgram) : program.shape.isClass = false := by
  unfold Node.isProgram at isProgram
  split at isProgram
  · rename_i shape
    simp [shape, Shape.isClass]
  · cases isProgram

end Node

namespace Place

theorem found?_eq_some {place : Place} {finding : Finding}
    (found : place.found? program = some finding) :
    finding.place = place ∧ place.decision? program = some finding.decision := by
  rcases Option.map_eq_some_iff.1 found with ⟨decision, decided, rfl⟩
  exact ⟨rfl, decided⟩

theorem map_decision_found? (place : Place) :
    (place.found? program).map Finding.decision = place.decision? program := by
  unfold found?
  cases place.decision? program <;> rfl

theorem memberOf?_of_found? {place : Place} (notTop : place.isTopLevel = false) {finding : Finding}
    (found : place.found? program = some finding) :
    memberOf? finding.place.node = some finding.decision := by
  rcases found?_eq_some found with ⟨rfl, decided⟩
  simp only [decision?, notTop, Bool.false_eq_true, if_false, member?] at decided
  split at decided
  · exact decided
  · cases decided

theorem isTopLevel_of_length {place : Place} (deep : 2 < place.above.length) :
    place.isTopLevel = false := by
  unfold isTopLevel
  split
  · rename_i above
    simp [above] at deep
  · rename_i above
    simp [above] at deep
  · rfl

/-- The statements are not wrapped, and neither they nor what they export stand in a class. -/
theorem finding?_statement (isProgram : program.isProgram) (statement : Node) :
    ((⟨statement, [program]⟩ : Place).finding? program).map Finding.decision =
      program.recorded? statement := by
  have noExport := Node.isExport_of_isProgram isProgram
  have noClass := Node.isClass_of_isProgram isProgram
  have unwrapped : isUnwrapped ⟨statement, [program]⟩ = false := by
    simp [isUnwrapped, isUnwrappedIn, noExport]
  unfold finding? Node.recorded?
  simp only [unwrapped, Bool.or_false]
  split
  · rfl
  · split
    · rename_i isExport
      cases statement.exported? with
      | none => rfl
      | some declaration =>
          have notClass := Node.isClass_of_isExport isExport
          rw [Option.bind_some, map_decision_found?]
          simp [decision?, isTopLevel, isExport, member?, isInRecordedClass, innermostClass?,
            noClass, notClass]
    · rw [map_decision_found?]
      simp [decision?, isTopLevel, member?, isInRecordedClass, innermostClass?, noClass]

/-- The parts of an export that is not put aside are its declaration and the module it names. -/
theorem isUnwrapped_or_literal (literal : program.HasLiteralSources) {place : Place}
    {outer : Node} (above : place.above = [outer, program]) (isProgram : program.isProgram)
    (isPlace : place ∈ program.places) (isExport : outer.shape.isExport)
    (entered : Export.isDeferred program outer = false) :
    place.isUnwrapped ∨ ∃ value kind, place.node.shape = .literal value kind := by
  rcases place with ⟨node, outers⟩
  cases above
  rcases Node.outer_mem_places isPlace with ⟨isOuter, isChild⟩
  have noExport := Node.isExport_of_isProgram isProgram
  have wrapped {declaration : Node} (found : outer.exported? = some declaration)
      (same : node = declaration) : isUnwrapped ⟨node, [outer, program]⟩ := by
    simp [isUnwrapped, isUnwrappedIn, isExport, noExport, found, same]
  unfold Node.children at isChild
  cases shape : outer.shape with
  | exportDefault declaration =>
      left
      rw [shape] at isChild
      have isDeclaration : declaration = some node := by
        simpa [Shape.children, eq_comm] using isChild
      exact wrapped (by simp [Node.exported?, shape, isDeclaration]) rfl
  | exportNamed declaration specifiers source =>
      have noSpecifiers : specifiers = [] := by
        simp only [Export.isDeferred, shape, Bool.or_eq_false_iff] at entered
        simpa using entered.1
      rw [shape] at isChild
      simp only [Shape.children, noSpecifiers, List.append_nil, List.mem_append,
        Option.mem_toList] at isChild
      rcases isChild with isDeclaration | isSource
      · exact Or.inl (wrapped (by simp [Node.exported?, shape, isDeclaration]) rfl)
      · rw [isSource] at shape
        exact Or.inr (Node.shape_of_hasLiteralSource (literal _ isOuter) shape)
  | _ => simp [shape, Shape.isExport] at isExport

/-- Below the statements nothing but members of recorded classes is found. -/
theorem memberOf?_of_finding? (literal : program.HasLiteralSources)
    (isProgram : program.isProgram) {place : Place} (walked : place ∈ program.walked)
    (inner : place.above ≠ [program]) {finding : Finding}
    (found : place.finding? program = some finding) :
    memberOf? finding.place.node = some finding.decision := by
  have isPlace := Node.walked_subset_places walked
  unfold finding? at found
  split at found
  · cases found
  · rename_i kept
    rcases reach_cases walked with rfl | ⟨outer, -, entered, isPart⟩
    · rw [if_neg (by simp [Node.isExport_of_isProgram isProgram])] at found
      exact memberOf?_of_found? rfl found
    · have above := (mem_parts.1 isPart).2
      obtain ⟨next, rest, farther⟩ : ∃ next rest, outer.above = next :: rest := by
        cases outerAbove : outer.above with
        | nil =>
            rw [outerAbove] at above
            obtain ⟨node, outers⟩ := place
            cases above
            have isOuter := (Node.outer_mem_places isPlace).1
            rw [Node.eq_root_of_above_nil isOuter] at inner
            exact absurd rfl inner
        | cons next rest => exact ⟨next, rest, rfl⟩
      rw [farther] at above
      split at found
      · rcases Option.bind_eq_some_iff.1 found with ⟨declaration, -, foundInside⟩
        exact memberOf?_of_found? (isTopLevel_of_length (by simp [above])) foundInside
      · cases top : place.isTopLevel with
        | false => exact memberOf?_of_found? top found
        | true =>
            -- only the module that an export names is left at the top level
            obtain ⟨isExport, same⟩ : outer.node.shape.isExport ∧ [next] = next :: rest := by
              unfold isTopLevel at top
              rw [above] at top
              cases rest with
              | nil => exact ⟨top, rfl⟩
              | cons => cases top
            cases same
            rcases place with ⟨node, outers⟩
            cases above
            have isRoot := (Node.outer_mem_places (Node.outer_mem_places isPlace).1).1
            rcases Node.eq_root_of_above_nil isRoot with rfl
            rcases isUnwrapped_or_literal literal rfl isProgram isPlace isExport
              (by simpa using entered) with unwrapped | ⟨value, kind, shape⟩
            · simp [unwrapped] at kept
            · rcases found?_eq_some found with ⟨-, decided⟩
              simp only at shape
              simp [decision?, Node.declared?, member?, memberOf?, thisAssignment?, shape] at decided

end Place

/-- Every place around a place that is reached is reached and gone into. -/
theorem Place.outers_walked {place : Place} (isWalked : place ∈ program.walked) :
    ∀ outer ∈ outers place.above,
      outer ∈ program.walked ∧ Export.isDeferred program outer.node = false := by
  let holds (place : Place) : Prop := place ∈ program.walked ∧ ∀ outer ∈ outers place.above,
    outer ∈ program.walked ∧ Export.isDeferred program outer.node = false
  have handed (outer : Place) (held : holds outer)
      (entered : (!Export.isDeferred program outer.node) = true) (part : Place)
      (isPart : part ∈ outer.parts) : holds part := by
    refine ⟨parts_mem_reach _ held.1 entered isPart, fun farther isOuter => ?_⟩
    rw [(mem_parts.1 isPart).2] at isOuter
    rcases List.mem_cons.1 isOuter with rfl | isFarther
    · exact ⟨held.1, by simpa using entered⟩
    · exact held.2 farther isFarther
  have start : holds ⟨program, []⟩ := ⟨self_mem_reach _, fun outer isOuter => by cases isOuter⟩
  exact (forall_mem_reach handed _ start place isWalked).2

/-! ## Recorded classes -/

namespace Node

theorem mem_recordedClasses {classNode : Node} :
    classNode ∈ program.recordedClasses ↔
      ∃ statement ∈ program.body, program.recorded? statement = some ⟨.moduleClass, classNode⟩ := by
  simp only [recordedClasses, List.mem_filterMap]
  constructor
  · rintro ⟨⟨category, node⟩, ⟨statement, isStatement, recorded⟩, same⟩
    split at same
    · rename_i isClass
      cases same
      simp only at isClass
      exact ⟨statement, isStatement, isClass ▸ recorded⟩
    · cases same
  · rintro ⟨statement, isStatement, recorded⟩
    exact ⟨⟨.moduleClass, classNode⟩, ⟨statement, isStatement, recorded⟩, by simp⟩

theorem exists_place_of_declared? {node : Node} {above : List Node}
    (isPlace : ⟨node, above⟩ ∈ program.places) {decision : Decision}
    (declared : node.declared? = some decision) :
    ∃ place ∈ program.places, place.node = decision.node ∧
      (⟨node, above⟩ : Place) ∈ place :: Place.outers place.above := by
  have itself {other : Decision} (same : other.node = node) : ∃ place ∈ program.places,
      place.node = other.node ∧ (⟨node, above⟩ : Place) ∈ place :: Place.outers place.above :=
    ⟨_, isPlace, same.symm, List.mem_cons_self ..⟩
  unfold declared? at declared
  split at declared
  case h_5 left value operator shape =>
    cases declared
    cases bound : value.bind value? with
    | none => exact itself rfl
    | some decision =>
        rcases Option.bind_eq_some_iff.1 bound with ⟨inner, rfl, found⟩
        refine ⟨_, Place.value_mem_places isPlace shape, ?_, ?_⟩
        · simp [node_of_value? found]
        · simp [Place.outers]
  case h_6 keyword first others shape =>
    rcases Option.map_eq_some_iff.1 declared with ⟨value, isInitial, rfl⟩
    cases found : value.value? with
    | none => exact itself rfl
    | some decision =>
        refine ⟨_, Place.initial_mem_places isPlace shape isInitial, ?_, ?_⟩
        · simp [node_of_value? found]
        · simp [Place.outers]
  case h_7 => cases declared
  all_goals
    cases declared
    exact itself rfl

theorem exists_place_of_recorded? (isProgram : program.isProgram) {statement : Node}
    (isStatement : statement ∈ program.body) {decision : Decision}
    (recorded : program.recorded? statement = some decision) :
    ∃ place ∈ program.places, place.node = decision.node ∧
      (⟨statement, [program]⟩ : Place) ∈ place :: Place.outers place.above := by
  have isPlace := walked_subset_places (statement_mem_walked isProgram isStatement)
  unfold recorded? at recorded
  split at recorded
  · cases recorded
  · split at recorded
    · rcases Option.bind_eq_some_iff.1 recorded with ⟨declaration, wrapped, declared⟩
      have isPart : ⟨declaration, [statement, program]⟩ ∈
          (⟨statement, [program]⟩ : Place).parts :=
        Place.mem_parts.2 ⟨mem_children_of_exported? wrapped, rfl⟩
      rcases exists_place_of_declared? (parts_mem_places isPlace isPart) declared with
        ⟨place, isFound, same, around⟩
      refine ⟨place, isFound, same, ?_⟩
      rcases List.mem_cons.1 around with rfl | isOuter
      · simp [Place.outers]
      · refine List.mem_cons_of_mem _ (Place.outers_subset_outers isOuter ?_)
        simp [Place.outers]
    · exact exists_place_of_declared? isPlace recorded

theorem exists_finding_of_recorded? (isProgram : program.isProgram) {statement : Node}
    {decision : Decision} (recorded : program.recorded? statement = some decision) :
    ∃ finding, (⟨statement, [program]⟩ : Place).finding? program = some finding ∧
      finding.decision = decision := by
  rw [← Place.finding?_statement isProgram] at recorded
  exact Option.map_eq_some_iff.1 recorded

theorem mem_recordedClasses_of_finding? (literal : program.HasLiteralSources)
    (isProgram : program.isProgram) {place : Place} (isWalked : place ∈ program.walked)
    {finding : Finding} (found : place.finding? program = some finding)
    (isClass : finding.decision.category = .moduleClass) :
    finding.decision.node ∈ program.recordedClasses := by
  by_cases above : place.above = [program]
  · rcases place with ⟨statement, outers⟩
    cases above
    have isChild := (outer_mem_places (walked_subset_places isWalked)).2
    rw [children_eq_body isProgram] at isChild
    refine mem_recordedClasses.2 ⟨statement, isChild, ?_⟩
    rw [← Place.finding?_statement isProgram, found, Option.map_some, ← isClass]
  · have member := Place.memberOf?_of_finding? literal isProgram isWalked above found
    exact absurd isClass (Place.category_ne_of_memberOf? member)

/-- A recorded class around a place is there with the statement that it is recorded for. -/
theorem exists_statement_around (tree : program.IsTree) (isProgram : program.isProgram)
    {place : Place} (isPlace : place ∈ program.places) {classNode recorded : Node}
    (isAbove : classNode ∈ place.above) (isRecorded : recorded ∈ program.recordedClasses)
    (same : recorded.id = classNode.id) :
    recorded = classNode ∧ ∃ statement ∈ program.body,
      program.recorded? statement = some ⟨.moduleClass, recorded⟩ ∧
      (⟨statement, [program]⟩ : Place) ∈ Place.outers place.above := by
  rcases mem_recordedClasses.1 isRecorded with ⟨statement, isStatement, decided⟩
  rcases exists_place_of_recorded? isProgram isStatement decided with
    ⟨other, isOther, sameNode, around⟩
  rw [← Place.map_node_outers place.above] at isAbove
  rcases List.mem_map.1 isAbove with ⟨outer, isOuter, rfl⟩
  have equal := tree.place_eq (Place.outers_subset_places isPlace isOuter) isOther
    (by rw [sameNode, same])
  refine ⟨by rw [equal, sameNode], statement, isStatement, decided, ?_⟩
  rcases List.mem_cons.1 around with atClass | outside
  · exact atClass ▸ equal ▸ isOuter
  · exact Place.outers_subset_outers isOuter (equal ▸ outside)

/--
Around a place, the classes found on the way to it are the recorded ones. `done` are the places before
it, among them those around it.
-/
theorem any_found_iff (tree : program.IsTree) (literal : program.HasLiteralSources)
    (isProgram : program.isProgram) {done : List Place} (areWalked : done ⊆ program.walked)
    {place : Place} (isPlace : place ∈ program.places)
    (outersDone : Place.outers place.above ⊆ done) {classNode : Node}
    (innermost : place.innermostClass? = some classNode) :
    (∃ finding ∈ done.filterMap (Place.finding? program),
      finding.decision.category = .moduleClass ∧ finding.decision.node.id = classNode.id) ↔
    ∃ recorded ∈ program.recordedClasses, recorded.id = classNode.id := by
  constructor
  · rintro ⟨finding, isFinding, isClass, same⟩
    rcases List.mem_filterMap.1 isFinding with ⟨outer, isDone, found⟩
    exact ⟨_, mem_recordedClasses_of_finding? literal isProgram (areWalked isDone) found isClass, same⟩
  · rintro ⟨recorded, isRecorded, same⟩
    rcases exists_statement_around tree isProgram isPlace (List.mem_of_find?_eq_some innermost)
      isRecorded same with ⟨-, statement, -, decided, isOuter⟩
    rcases exists_finding_of_recorded? isProgram decided with ⟨finding, found, rest⟩
    exact ⟨finding, List.mem_filterMap.2 ⟨_, outersDone isOuter, found⟩, by rw [rest],
      by rw [rest]; exact same⟩

end Node

end DocHarvest
