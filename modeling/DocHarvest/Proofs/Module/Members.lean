import DocHarvest.Proofs.Module.Recorded

/-!
# One record for every member of a recorded class

In a program that exports at the top level only, nothing inside a recorded class is put aside, so the
walk meets all members of the recorded classes. Each gets a record of its own after the record of the
class, is a member of the class under the name of that record, and has a full name that says so.
-/

namespace DocHarvest

open Run

namespace Node

/-- Exports are statements of the program. -/
def ExportsAtTop (program : Node) : Prop :=
  ∀ place ∈ program.places, place.node.shape.isExport → place.above.length = 1

instance (program : Node) : Decidable program.ExportsAtTop :=
  inferInstanceAs (Decidable (∀ place ∈ program.places,
    place.node.shape.isExport → place.above.length = 1))

/-- The members of the recorded classes of a program, in their order. -/
def members (program : Node) : List Finding :=
  program.places.filterMap fun place => (place.member? program).map (⟨place, ·⟩)

variable {program : Node} {place : Place}

theorem above_of_isExport (atTop : program.ExportsAtTop) (isPlace : place ∈ program.places)
    (isExport : place.node.shape.isExport) : place.above = [program] := by
  have single := atTop place isPlace isExport
  rcases place with ⟨node, above⟩
  rcases List.length_eq_one_iff.1 single with ⟨outer, rfl⟩
  rw [eq_root_of_above_nil (outer_mem_places isPlace).1]

theorem isExport_of_isDeferred {node : Node} (deferred : Export.isDeferred program node) :
    node.shape.isExport := by
  cases isExport : node.shape.isExport with
  | true => rfl
  | false =>
      rw [isDeferred_eq_false isExport] at deferred
      cases deferred

end Node

namespace Place

variable {program : Node} {place : Place}

theorem member?_of_top (isProgram : program.isProgram)
    (top : place.above = [program] ∨
      ∃ outer : Node, outer.shape.isExport ∧ place.above = [outer, program]) :
    place.member? program = none := by
  have noClass := Node.isClass_of_isProgram isProgram
  have outside : place.innermostClass? = none := by
    rcases top with above | ⟨outer, isExport, above⟩
    · simp [innermostClass?, above, noClass]
    · simp [innermostClass?, above, noClass, Node.isClass_of_isExport isExport]
  simp [member?, isInRecordedClass, outside]

theorem isMember_eq_false_of_isModule {category : Category} (isModule : category.isModule) :
    category.isMember = false := by
  cases category <;> first | rfl | cases isModule

theorem filter_found? (program : Node) (place : Place) :
    (place.found? program).filter (fun finding => finding.decision.category.isMember) =
      (place.member? program).map (⟨place, ·⟩) := by
  have kept : ((place.member? program).map (Finding.mk place)).filter
      (fun finding => finding.decision.category.isMember) =
        (place.member? program).map (⟨place, ·⟩) := by
    cases member : place.member? program with
    | none => rfl
    | some decision =>
        unfold member? at member
        split at member
        · simp [isMember_of_memberOf? member]
        · cases member
  unfold found? decision?
  split
  · cases declared : place.node.declared? with
    | none => simpa using kept
    | some decision =>
        have noMember : memberOf? place.node = none := by
          cases member : memberOf? place.node with
          | none => rfl
          | some other => cases (declared?_of_memberOf? member).symm.trans declared
        have isModule := Node.isModule_of_declared? declared
        simp [member?, noMember, isMember_eq_false_of_isModule isModule]
  · exact kept

/-- At a place that is not put aside, what is found about a member is the place itself. -/
theorem filter_finding? (atTop : program.ExportsAtTop) (isProgram : program.isProgram)
    (isPlace : place ∈ program.places)
    (entered : Export.isDeferred program place.node = false) :
    (place.finding? program).filter (fun finding => finding.decision.category.isMember) =
      (place.member? program).map (⟨place, ·⟩) := by
  unfold finding?
  cases unwrapped : place.isUnwrapped with
  | true =>
      rcases place with ⟨node, above⟩
      cases above with
      | nil => cases unwrapped
      | cons outer rest =>
          rcases Node.outer_mem_places isPlace with ⟨isOuter, isChild⟩
          have isPart : ⟨node, outer :: rest⟩ ∈ (⟨outer, rest⟩ : Place).parts :=
            mem_parts.2 ⟨isChild, rfl⟩
          have isExport := (isExport_of_isUnwrapped isPart unwrapped).1
          have above : rest = [program] := Node.above_of_isExport atTop isOuter isExport
          rw [member?_of_top isProgram (Or.inr ⟨outer, isExport, by rw [above]⟩)]
          simp
  | false =>
      simp only [entered, Bool.or_self, Bool.false_eq_true, if_false]
      split
      · rename_i isExport
        have above := Node.above_of_isExport atTop isPlace isExport
        rw [member?_of_top isProgram (Or.inl above)]
        cases place.node.exported? with
        | none => rfl
        | some declaration =>
            rw [Option.bind_some, filter_found?, member?_of_top isProgram]
            · rfl
            · exact Or.inr ⟨place.node, isExport, by rw [above]⟩
      · exact filter_found? program place

/-- What is put aside, and what is below it, stands in no recorded class. -/
theorem member?_of_deferred (tree : program.IsTree) (isProgram : program.isProgram)
    (atTop : program.ExportsAtTop) {outer : Place} (isOuter : outer ∈ program.places)
    (deferred : Export.isDeferred program outer.node) (isPlace : place ∈ program.places)
    (isBelow : place ∈ outer.reach fun _ => true) : place.member? program = none := by
  have outside : place.isInRecordedClass program = false := by
    cases inside : place.isInRecordedClass program with
    | false => rfl
    | true =>
        unfold isInRecordedClass at inside
        split at inside
        · cases inside
        · rename_i classNode innermost
          rcases List.any_eq_true.1 inside with ⟨recorded, isRecorded, same⟩
          rcases Node.exists_statement_around tree isProgram isPlace (List.mem_of_find?_eq_some
            innermost) isRecorded (by simpa using same) with ⟨-, statement, -, decided, isAround⟩
          have above := Node.above_of_isExport atTop isOuter (Node.isExport_of_isDeferred deferred)
          -- both stand directly below the program, and both are around the place
          have equal := eq_of_mem_lineage (mem_lineage_of_mem_reach isBelow)
            (List.mem_cons_of_mem _ isAround) (by rw [above])
          rw [equal] at deferred
          simp only at deferred
          simp [Node.recorded?, deferred] at decided
  simp [member?, outside]

end Place

namespace Node

variable {program : Node}

/-- What the walk finds about members are the members of the recorded classes. -/
theorem filter_findings_isMember (tree : program.IsTree) (isProgram : program.isProgram)
    (atTop : program.ExportsAtTop) :
    program.findings.filter (fun finding => finding.decision.category.isMember) =
      program.members := by
  rw [findings, List.filter_filterMap]
  refine Place.filterMap_reach_eq (fun outer isOuter _ part => parts_mem_places isOuter) ?_ ?_ _
    (root_mem_places program)
  · intro place isPlace entered
    exact Place.filter_finding? atTop isProgram isPlace (by simpa using entered)
  · intro place isPlace skipped
    have deferred : Export.isDeferred program place.node := by simpa using skipped
    refine ⟨by simp [Place.finding?, deferred], fun below isBelow => ?_⟩
    have isPlaceToo : below ∈ program.places := Place.reach_subset isPlace isBelow
    rw [Place.member?_of_deferred tree isProgram atTop isPlace deferred isPlaceToo isBelow]
    rfl

end Node

/-! ## Records of members -/

/-- The category of the record of a member: getters and setters are recorded as fields are. -/
def Decision.memberCategory (decision : Decision) : Category :=
  if decision.category = .classMethod ∧ (Draft.methodKindOf decision.node).isAccessor then
    .classMember
  else decision.category

/--
A record of a member of a class: it comes after the record of the class, among some records, names
that record as what it is a member of, and joins its own name to the full name of the class.
-/
structure Finding.IsMemberRecord (scope : Scope) (docs : List Doc) (finding : Finding)
    (doc : Doc) : Prop where
  recorded : finding.decision.IsRecordedAs scope doc
  category : doc.category = finding.decision.memberCategory
  inside : ∃ classNode classDoc, finding.place.innermostClass? = some classNode ∧
    Decision.IsRecordedAs scope ⟨.moduleClass, classNode⟩ classDoc ∧
    [classDoc, doc].Sublist docs ∧ ∃ longname, classDoc.longname = some longname ∧
      doc.memberof = some longname ∧
      doc.longname =
        some (longname ++ (if doc.static then "." else "#") ++ Text.orNone doc.name)

namespace Told

variable {scope : Scope}

/-- Every member that has been told about belongs to a class that has been told about before. -/
theorem forall₂_members {findings : List Finding} {docs : List Doc}
    (told : Told scope findings docs) :
    List.Forall₂ (fun finding doc => finding.decision.IsRecordedAs scope doc ∧
      (Place.memberOf? finding.place.node = some finding.decision →
        ∃ known earlier, Told scope known earlier ∧ known <+: findings ∧
          earlier ++ [doc] <+: docs ∧ finding.place.BelongsTo scope known earlier doc))
      findings docs := by
  induction told with
  | nil => exact .nil
  | snoc told draft inScope node built inside ih =>
      rename_i findings docs finding doc
      refine List.rel_append (ih.imp ?_) (.cons ⟨⟨draft, inScope, node, built⟩, ?_⟩ .nil)
      · rintro other otherDoc ⟨recorded, inside⟩
        refine ⟨recorded, fun member => ?_⟩
        rcases inside member with ⟨known, earlier, before, isKnown, isEarlier, belongs⟩
        exact ⟨known, earlier, before, isKnown.trans (List.prefix_append _ _),
          isEarlier.trans (List.prefix_append _ _), belongs⟩
      · intro member
        exact ⟨findings, docs, told, List.prefix_append _ _, List.prefix_rfl, inside member⟩

theorem isRecordedAs_of_mem_zip {findings : List Finding} {docs : List Doc}
    (told : Told scope findings docs) {finding : Finding} {doc : Doc}
    (isTold : (finding, doc) ∈ findings.zip docs) : finding.decision.IsRecordedAs scope doc :=
  List.forall₂_zip told.forall₂ isTold

variable {program : Node} {docs : List Doc}

theorem isMemberRecord (tree : program.IsTree) (literal : program.HasLiteralSources) (isProgram : program.isProgram)
    (noTilde : '~' ∉ scope.filePath.toList) {finding : Finding}
    (isPlace : finding.place ∈ program.places)
    (member : Place.memberOf? finding.place.node = some finding.decision) {doc : Doc}
    (recorded : finding.decision.IsRecordedAs scope doc)
    (belongs : ∃ known earlier, Told scope known earlier ∧ known <+: program.findings ∧
      earlier ++ [doc] <+: docs ∧ finding.place.BelongsTo scope known earlier doc) :
    finding.IsMemberRecord scope docs doc where
  recorded := recorded
  category := by
    rcases recorded with ⟨draft, -, node, built⟩
    unfold Decision.memberCategory
    by_cases isMethod : finding.decision.category = .classMethod
    · rw [isMethod] at built
      rw [Draft.category_of_build_classMethod built, node]
      simp [isMethod]
    · rcases (Draft.build_heads built).category with same | ⟨isMethodToo, -⟩
      · simp [isMethod, same]
      · exact absurd isMethodToo isMethod
  inside := by
    rcases belongs with
      ⟨known, earlier, before, isKnown, isEarlier, outer, classDoc, classNode, name, isTold,
       isClass, sameId, innermost, named, memberof⟩
    rcases List.of_mem_zip isTold with ⟨outerKnown, docEarlier⟩
    rcases List.mem_filterMap.1 (isKnown.subset outerKnown) with ⟨outerPlace, isWalked, found⟩
    have isRecorded := Node.mem_recordedClasses_of_finding? literal isProgram isWalked found isClass
    rcases Node.exists_statement_around tree isProgram isPlace (List.mem_of_find?_eq_some innermost)
      isRecorded sameId with ⟨sameNode, -⟩
    have classRecorded : Decision.IsRecordedAs scope ⟨.moduleClass, classNode⟩ classDoc := by
      rw [← isClass, ← sameNode]
      exact before.isRecordedAs_of_mem_zip isTold
    refine ⟨classNode, classDoc, innermost, classRecorded, ?_, _, ?_, memberof, ?_⟩
    · refine List.Sublist.trans ?_ isEarlier.sublist
      exact (List.singleton_sublist.2 docEarlier).append (List.Sublist.refl [doc])
    · rcases classRecorded with ⟨draft, inScope, -, built⟩
      rw [Draft.longname_of_build_moduleClass (inScope ▸ noTilde) built, inScope, named]
      rfl
    · rcases recorded with ⟨draft, -, -, built⟩
      rcases Draft.longname_of_build_member (Place.isMember_of_memberOf? member) built with
        ⟨memberofToo, longname⟩
      have same := Option.some.inj (memberofToo.symm.trans memberof)
      rw [longname, same]
      simp [longnameOf]

/-- The records of members stand for the members of the recorded classes. -/
theorem members (told : Told scope program.findings docs) (tree : program.IsTree)
    (literal : program.HasLiteralSources) (isProgram : program.isProgram)
    (atTop : program.ExportsAtTop) (noTilde : '~' ∉ scope.filePath.toList) :
    List.Forall₂ (fun finding doc => finding.IsMemberRecord scope docs doc) program.members
      (docs.filter fun doc => doc.category.isMember) := by
  have areMembers : ∀ finding ∈ program.members, finding.place ∈ program.places ∧
      Place.memberOf? finding.place.node = some finding.decision := by
    intro finding isMember
    rcases List.mem_filterMap.1 isMember with ⟨place, isPlace, made⟩
    rcases Option.map_eq_some_iff.1 made with ⟨decision, member, rfl⟩
    unfold Place.member? at member
    split at member
    · exact ⟨isPlace, member⟩
    · cases member
  have filtered := List.rel_filter (p := fun finding : Finding => finding.decision.category.isMember)
    (q := fun doc : Doc => doc.category.isMember)
    (fun finding doc recorded => by simp [recorded.1.isMember]) told.forall₂_members
  rw [Node.filter_findings_isMember tree isProgram atTop] at filtered
  refine ((List.forall₂_and_left _ _).2 ⟨areMembers, filtered⟩).imp ?_
  rintro finding doc ⟨⟨isPlace, member⟩, recorded, belongs⟩
  exact isMemberRecord tree literal isProgram noTilde isPlace member recorded (belongs member)

end Told

namespace Module

/--
The walk records all members of the recorded classes: of the records that it stores, those about
members stand one to one and in order for the methods, properties and assignments to `this` whose
nearest class is recorded. Nothing else in the work on the module stores a record of a member.
-/
theorem members_recorded (scope : Scope) (store : Store) (nextNode : NodeId)
    (plain : scope.program.IsPlain) (atTop : scope.program.ExportsAtTop)
    (below : scope.program.Below nextNode) (unfiltered : scope.filter = none)
    (noTilde : '~' ∉ scope.filePath.toList) {id : Int} {after : Progress}
    (ended : Ends (generate scope) (Program.start ⟨scope.program, nextNode⟩ store) (.ok id) after)
    (faultless : after.invalid = []) :
    ∃ moduleDoc added resolved,
      moduleDoc.category.isFile ∧ (∀ doc ∈ resolved, doc.category = .moduleVariable) ∧
      after.store.docs.map Doc.outline =
        (store.docs ++ moduleDoc :: added ++ resolved).map Doc.outline ∧
      List.Forall₂
        (fun classNode doc => Decision.IsRecordedAs (within scope id) ⟨.moduleClass, classNode⟩ doc)
        scope.program.recordedClasses (added.filter fun doc => doc.category = .moduleClass) ∧
      List.Forall₂ (fun finding doc => finding.IsMemberRecord (within scope id) added doc)
        scope.program.members (added.filter fun doc => doc.category.isMember) := by
  rcases exists_walked plain below unfiltered ended faultless with
    ⟨opened, walked, added, stages, ⟨moduleDoc, isFile, stored⟩, recorded⟩
  rcases stages.resolves with ⟨messages, resolves⟩
  have grows := ((secondPass_sound _).reaches resolves).grows
  rcases grows.docs with ⟨kept, resolved, docs, outlines, -, fits⟩
  have told := recorded.reported.told
  refine ⟨moduleDoc, added, resolved, isFile, fun doc isResolved => (fits doc isResolved).2.2.kind,
    ?_, told.classes plain.literal plain.isProgram,
    told.members plain.tree plain.literal plain.isProgram atTop noTilde⟩
  simp only at docs
  rw [docs, List.map_append, outlines, recorded.reported.stored, stored]
  simp

theorem sample_members_recorded : ∃ added,
    (added.filter fun doc => doc.category.isMember).map Doc.category =
      [.classMethod, .classMember] ∧
    List.Forall₂ (fun finding doc => finding.IsMemberRecord (within sampleScope 0) added doc)
      sampleScope.program.members (added.filter fun doc => doc.category.isMember) := by
  rcases members_recorded sampleScope {} 18 sampleScope_isPlain (by decide +kernel)
    (by decide +kernel) rfl (by decide +kernel) ends_sampleScope (by decide +kernel) with
    ⟨moduleDoc, added, resolved, -, -, -, -, members⟩
  refine ⟨added, ?_, members⟩
  have categories : List.Forall₂ Eq
      (sampleScope.program.members.map fun finding => finding.decision.memberCategory)
      ((added.filter fun doc => doc.category.isMember).map Doc.category) := by
    rw [List.forall₂_map_left_iff, List.forall₂_map_right_iff]
    exact members.imp fun finding doc recorded => recorded.category.symm
  rw [List.forall₂_eq_eq_eq] at categories
  rw [← categories]
  decide +kernel

end Module

end DocHarvest
