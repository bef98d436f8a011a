import DocHarvest.Proofs.Module.Succeeds
import DocHarvest.Proofs.Record.Faultless

/-!
# Undocumented programs

Where no comment says anything, all that is known of a program is its code. `Node.IsUndocumented` lists
what such a program has to be like for a record to be made of everything that is decided on in it; then
every visit of the walk succeeds.
-/

namespace DocHarvest

open Run

/-! ## Programs without documentation -/

namespace Node

/-- Where a statement can declare variables: in itself, and as an export in what it holds. -/
def declarations (statement : Node) : List Node :=
  statement :: if statement.shape.isExport then statement.children else []

/-- The variables that statements declare, exported or not, begin with one that can be named. -/
def BindsVariables (program : Node) : Prop :=
  ∀ statement ∈ program.body, ∀ declaration ∈ statement.declarations,
    ∀ first, declaration.firstDeclarator? = some first → first.bindsName

/-- A program that no comment documents, and in which all that is to be named has a name. -/
structure IsUndocumented (program : Node) : Prop where
  isProgram : program.isProgram
  coherent : program.IsCoherent
  uncommented : ∀ comment, program.HasComment comment → comment.isDoc = false
  writable : program.IsWritable
  decorators : program.HasNamedDecorators
  bindings : program.BindsVariables

end Node

namespace Decision

variable {scope : Scope} {node : Node} {before : Progress}

/-- Nothing is decided on for a node that holds a list of statements. -/
theorem ofShape_of_statements? {statements : List Node}
    (holds : node.shape.statements? = some statements) :
    (ofShape scope node).run before = (none, before) := by
  unfold ofShape
  cases shape : node.shape with
  | program | generic | classBody | block => rfl
  | _ =>
      rw [shape] at holds
      cases holds

/-- What is decided on instead of a node that holds no statements holds none either. -/
theorem Chooses.statements? {result : Option Decision × Progress}
    (chooses : Chooses node before result) (own : node.shape.statements? = none) :
    ∀ decision, result.1 = some decision → decision.node.shape.statements? = none := by
  cases chooses with
  | nothing | passed => rintro decision ⟨⟩
  | self =>
      rintro decision ⟨⟩
      exact own
  | member shape assigns =>
      rintro decision ⟨⟩
      simp [assigns, Shape.statements?]
  | value gives isValue =>
      rintro decision ⟨⟩
      unfold Node.value? at isValue
      split at isValue <;> cases isValue <;> rename_i shape <;> simp [shape, Shape.statements?]

theorem category_of_memberAssignment {expression : Option Node} {decision : Decision}
    (decided : ((memberAssignment node expression).run before).1 = some decision) :
    decision.category = .classMember := by
  have unassigned {assignment : Node} (noValue : ∀ left value operator,
      assignment.shape ≠ .assignment left (some value) operator) :
      (memberAssignment node (some assignment)).run before = (none, before) := by
    unfold memberAssignment
    split
    · rename_i found left value operator isFound shape
      cases isFound
      exact absurd (Option.some.inj shape) (noValue left value operator)
    · rfl
  cases expression with
  | none => cases decided
  | some assignment =>
      by_cases assigns : ∃ left value operator,
          assignment.shape = .assignment left (some value) operator
      · rcases assigns with ⟨left, value, operator, shape⟩
        rw [memberAssignment_run shape] at decided
        split at decided
        · split at decided
          · cases decided
          · split at decided
            · cases decided
              rfl
            · cases decided
        · cases decided
      · rw [unassigned (by simpa using assigns)] at decided
        cases decided

/-- A variable is decided on at the top level only, where it is declared. -/
theorem variable_of_ofShape {described : Node}
    (decided : ((ofShape scope node).run before).1 = some ⟨.moduleVariable, described⟩) :
    described = node ∧ scope.isTopLevel before.links node ∧
      ∃ first, node.firstDeclarator? = some first := by
  have atTop {category : Category}
      (isTop : ((topLevel scope category node).run before).1 = some ⟨.moduleVariable, described⟩) :
      category = .moduleVariable := by
    rw [topLevel_run] at isTop
    split at isTop <;> cases isTop
    rfl
  have inClass {category : Category} {what : String}
      (isInside : ((classScoped category what node).run before).1 =
        some ⟨.moduleVariable, described⟩) : category = .moduleVariable := by
    rw [classScoped_run] at isInside
    split at isInside <;> cases isInside
    rfl
  have bound {category : Category} {value : Option Node}
      (isBound : ((topLevelBinding scope category node value).run before).1 =
        some ⟨.moduleVariable, described⟩) :
      category = .moduleVariable ∧ described = node ∧ scope.isTopLevel before.links node := by
    rw [topLevelBinding_run] at isBound
    split at isBound
    · rename_i isTop
      rw [binding_run] at isBound
      split at isBound
      · rename_i decision isValue
        cases isBound
        rcases Option.bind_eq_some_iff.1 isValue with ⟨inner, -, found⟩
        unfold Node.value? at found
        split at found <;> cases found
      · cases isBound
        exact ⟨rfl, rfl, isTop⟩
    · cases isBound
  unfold ofShape at decided
  split at decided
  case h_1 => cases atTop decided
  case h_2 => cases inClass decided
  case h_3 => cases inClass decided
  case h_4 => cases category_of_memberAssignment decided
  case h_5 => cases atTop decided
  case h_6 =>
    split at decided
    · cases atTop decided
    · cases decided
  case h_7 => cases atTop decided
  case h_8 => cases (bound decided).1
  case h_9 keyword first others shape =>
    split at decided
    · refine ⟨(bound decided).2.1, (bound decided).2.2, first, ?_⟩
      simp [Node.firstDeclarator?, Node.declarators?, shape]
    · cases decided
  case h_10 => cases decided

end Decision

/-! ## Records of undocumented code -/

namespace Node.IsUndocumented

variable {scope : Scope} {node outer : Node} {above : List Node} {links : Links}

/-- What stands at the top level is a statement, or is held by an export that is one. -/
theorem mem_declarations (undocumented : scope.program.IsUndocumented)
    (isPlace : ⟨node, outer :: above⟩ ∈ scope.program.places)
    (noted : links.parentOf node.id = some outer) (isTop : scope.isTopLevel links node) :
    ∃ statement ∈ scope.program.body, node ∈ statement.declarations := by
  have same {statement found : Node} (isStatement : statement ∈ scope.program.body)
      (contained : scope.program.Contains found) (sameId : statement.id = found.id) :
      statement = found := by
    rw [← children_eq_body undocumented.isProgram] at isStatement
    rcases (contains_self scope.program).child isStatement with ⟨first, isFirst, rfl⟩
    rcases contained with ⟨second, isSecond, rfl⟩
    exact undocumented.coherent first isFirst second isSecond sameId
  have isOuter := outer_mem_places isPlace
  simp only [Scope.isTopLevel, noted, List.any_eq_true, beq_iff_eq] at isTop
  rcases isTop with ⟨statement, isStatement, sameId⟩
  refine ⟨statement, isStatement, ?_⟩
  split at sameId
  · rename_i isExport
    rw [same isStatement ⟨_, isOuter.1, rfl⟩ sameId, declarations, if_pos isExport]
    exact List.mem_cons_of_mem _ isOuter.2
  · rw [same isStatement ⟨_, isPlace, rfl⟩ sameId]
    exact List.mem_cons_self ..

/-- What is decided on at a place, its parent being known, can be recorded. -/
theorem exists_build (undocumented : scope.program.IsUndocumented) {before : Progress}
    (isPlace : ⟨node, outer :: above⟩ ∈ scope.program.places)
    (noted : before.links.parentOf node.id = some outer) {decision : Decision}
    (decided : ((Decision.ofShape scope node).run before).1 = some decision) {tags : List Tag}
    (bare : ∀ tag ∈ tags, tag.name = "@_undocument") (links : Links) (id : Int) :
    ∃ doc, Draft.build ⟨scope, links, id, decision.node, tags⟩ decision.category = .ok doc := by
  have chooses := Decision.ofShape_chooses scope node before
  have contained : scope.program.Contains node := ⟨_, isPlace, rfl⟩
  have own : node.shape.statements? = none := by
    cases holds : node.shape.statements? with
    | none => rfl
    | some statements =>
        rw [Decision.ofShape_of_statements? holds] at decided
        cases decided
  have binds (isVariable : decision.category = .moduleVariable) :
      ∃ first, decision.node.firstDeclarator? = some first ∧ first.bindsName := by
    rcases decision with ⟨category, described⟩
    cases isVariable
    rcases Decision.variable_of_ofShape decided with ⟨rfl, isTop, first, isFirst⟩
    rcases undocumented.mem_declarations isPlace noted isTop with ⟨statement, isStatement, isDeclared⟩
    exact ⟨first, isFirst, undocumented.bindings statement isStatement _ isDeclared first isFirst⟩
  have isBare : Draft.IsBare ⟨scope, links, id, decision.node, tags⟩ := bare
  exact Draft.exists_build isBare undocumented.writable (chooses.contains contained decision decided)
    undocumented.decorators (chooses.statements? own decision decided)
    (chooses.isCode decision decided) binds

end Node.IsUndocumented

/-! ## The first pass -/

theorem Comment.docComments_of_uncommented {comments : List Comment}
    (uncommented : ∀ comment ∈ comments, comment.isDoc = false) :
    docComments comments = [undocumented] := by
  have nothing : comments.filter isDoc = [] :=
    List.filter_eq_nil_iff.2 fun comment isComment => by simp [uncommented comment isComment]
  simp only [docComments, nothing]

theorem Comment.undocumented_isPlain : undocumented.IsPlain := by
  decide

namespace Run.Succeeds

variable {scope : Scope} {before : Progress} {node outer : Node} {above : List Node}

/-- Nothing is recorded for a virtual node. -/
theorem virtual (faultless : before.IsFaultless) (parent : Option Node) {comments : List Comment}
    (uncommented : ∀ comment ∈ comments, comment.isDoc = false) :
    Succeeds (documentComments scope none parent comments) before := by
  have untagged := Decision.ofTags?_eq_none Comment.undocumented_isPlain
  let aside : Node := .mk { id := before.nextNode } .virtual
  let drawn : Progress := ((virtualNode parent).run before).2
  have nothing : (Decision.decide scope Comment.undocumented.tags aside).run drawn = (none, drawn) := by
    rw [Decision.decide_run scope aside untagged, Decision.ofShape_virtual scope rfl]
    simp only [Decision.classes, List.append_nil]
  have documented : Succeeds (Run.document scope aside Comment.undocumented) drawn := by
    rw [document_eq]
    refine after ?_
    rw [nothing]
    have faultlessToo : drawn.IsFaultless := faultless.congr rfl rfl
    exact pure faultlessToo ()
  have each : Succeeds (liftM (virtualNode parent) >>= fun virtual =>
      documentEach scope virtual parent (Comment.docComments comments)) before := by
    rw [Comment.docComments_of_uncommented uncommented]
    exact after documented
  exact each

section FirstPass

variable (undocumented : scope.program.IsUndocumented) (total : scope.IsTotal)

include undocumented total

/-- At a place whose parent is known, whatever is decided on is recorded. -/
theorem document (faultless : before.IsFaultless)
    (isPlace : ⟨node, outer :: above⟩ ∈ scope.program.places)
    (noted : before.links.parentOf node.id = some outer) :
    Succeeds (Run.document scope node Comment.undocumented) before := by
  have untagged := Decision.ofTags?_eq_none Comment.undocumented_isPlain
  have bare : ∀ tag ∈ Comment.undocumented.tags, tag.name = "@_undocument" := by decide
  rw [document_eq]
  -- of the tags nothing but these two facts matters, and they must not be computed again
  generalize Comment.undocumented.tags = tags at untagged bare ⊢
  have decided : ((Decision.decide scope tags node).run before).1 =
      ((Decision.ofShape scope node).run before).1 := by
    rw [Decision.decide_run scope node untagged]
  have quiet := (Decision.decide_oblivious scope tags node).quiet before
  refine after ?_
  generalize (Decision.decide scope tags node).run before = result at quiet decided ⊢
  rcases result with ⟨found, state⟩
  have faultlessToo : state.IsFaultless := faultless.congr quiet.1 quiet.2
  cases found with
  | none => exact pure faultlessToo _
  | some decision =>
      refine (record total faultlessToo fun links => ?_).andReturn _
      exact undocumented.exists_build isPlace noted decided.symm bare links _

theorem documentComments (faultless : before.IsFaultless)
    (isPlace : ⟨node, outer :: above⟩ ∈ scope.program.places)
    (noted : before.links.parentOf node.id = some outer) {comments : List Comment}
    (uncommented : ∀ comment ∈ comments, comment.isDoc = false) :
    Succeeds (Run.documentComments scope (some node) (some outer) comments) before := by
  have documented : Succeeds (documentEach scope node (some outer) (Comment.docComments comments))
      before := by
    rw [Comment.docComments_of_uncommented uncommented]
    exact document undocumented total faultless isPlace noted
  exact documented

/-- A place is visited, and then documented with the comments before and after it. -/
theorem visited (faultless : before.IsFaultless)
    (isPlace : ⟨node, outer :: above⟩ ∈ scope.program.places)
    {leading trailing : List Comment}
    (present : ∀ comment ∈ leading ++ trailing, scope.program.HasComment comment)
    (withTrailing : Bool) :
    Succeeds (Run.documentComments scope (some node) (some outer) leading >>= fun _ =>
        if withTrailing then Run.documentComments scope none (some outer) trailing else Pure.pure ())
      (visiting before node (some outer)) := by
  have faultlessToo : (visiting before node (some outer)).IsFaultless := faultless.congr rfl rfl
  have noted : (visiting before node (some outer)).links.parentOf node.id = some outer := by
    rw [visiting, Links.parentOf_setParent, if_pos rfl]
  have uncommented (comment : Comment) (isComment : comment ∈ leading ++ trailing) :
      comment.isDoc = false :=
    undocumented.uncommented comment (present comment isComment)
  have documented := documentComments undocumented total faultlessToo isPlace noted
    fun comment isComment => uncommented comment (List.mem_append_left _ isComment)
  refine documented.bind fun _ _ _ faultlessLast => ?_
  cases withTrailing with
  | false => exact pure faultlessLast _
  | true =>
      exact virtual faultlessLast _ fun comment isComment =>
        uncommented comment (List.mem_append_right _ isComment)

theorem documentNode (faultless : before.IsFaultless)
    (isPlace : ⟨node, outer :: above⟩ ∈ scope.program.places) (isLast : Bool) :
    Succeeds (Module.documentNode scope node (some outer) isLast)
      (visiting before node (some outer)) := by
  have contained : scope.program.Contains node := ⟨_, isPlace, rfl⟩
  refine visited undocumented total faultless isPlace ?_ _
  refine List.forall_mem_append.2 ⟨?_, ?_⟩
  · split
    · exact fun comment isComment => .decorator contained isComment
    · exact fun comment isComment => ⟨node, contained, by simp [isComment]⟩
  · exact fun comment isComment => ⟨node, contained, by simp [isComment]⟩

theorem unwrap (faultless : before.IsFaultless) {place : Place}
    (isPlace : place ∈ scope.program.places) (isLast : Bool) :
    Succeeds (Export.unwrap scope place.node isLast) before := by
  unfold Export.unwrap
  cases wrapped : place.node.exported? with
  | none => exact pure faultless _
  | some declaration =>
      have contained : scope.program.Contains place.node := ⟨_, isPlace, rfl⟩
      have inside := contained.exported wrapped
      have isPart : ⟨declaration, place.node :: place.above⟩ ∈ scope.program.places :=
        Node.parts_mem_places isPlace
          (Place.mem_parts.2 ⟨Node.mem_children_of_exported? wrapped, rfl⟩)
      have present : ∀ comment ∈ declaration.leading ++ place.node.leading ++
          Export.decoratorComments declaration ++ (declaration.trailing ++ place.node.trailing),
          scope.program.HasComment comment := by
        simp only [List.forall_mem_append]
        refine ⟨⟨⟨?_, ?_⟩, ?_⟩, ?_, ?_⟩
        · exact fun comment isComment => ⟨_, inside, by simp [isComment]⟩
        · exact fun comment isComment => ⟨_, contained, by simp [isComment]⟩
        · exact fun comment isComment => .decorator inside isComment
        · exact fun comment isComment => ⟨_, inside, by simp [isComment]⟩
        · exact fun comment isComment => ⟨_, contained, by simp [isComment]⟩
      have documented := visited undocumented total faultless isPart present
        (!(declaration.trailing ++ place.node.trailing).isEmpty && isLast)
      refine documented.congr fun ended => ?_
      dsimp only at ended
      have marked := ends_lift_bind.1 ended
      exact ends_lift_bind.1 marked

theorem push (faultless : before.IsFaultless) {place : Place}
    (isPlace : place ∈ scope.program.places) :
    Succeeds (Module.push scope place.node place.above.head?) before := by
  rcases ended : (Module.push scope place.node place.above.head?).run.run before with
    ⟨outcome, after⟩
  rcases ends_push ended with ⟨-, rfl, rfl⟩ | ⟨⟨notRoot, -⟩, documented⟩
  · exact ⟨(), after, ended, faultless⟩
  · rcases place with ⟨node, above⟩
    cases above with
    | nil =>
        rw [Node.eq_root_of_above_nil isPlace] at notRoot
        exact absurd rfl notRoot
    | cons outer above =>
        have succeeds : Succeeds (if node.shape.isExport then
              Export.unwrap scope node (Module.isLastIn node (some outer))
            else Module.documentNode scope node (some outer) (Module.isLastIn node (some outer)))
            (visiting before node (some outer)) := by
          split
          · have faultlessToo : (visiting before node (some outer)).IsFaultless :=
              faultless.congr rfl rfl
            exact unwrap undocumented total faultlessToo isPlace _
          · exact documentNode undocumented total faultless isPlace _
        rcases succeeds.of_ends documented with ⟨⟨value, rfl⟩, faultlessLast⟩
        exact ⟨value, after, ended, faultlessLast⟩

theorem enter (faultless : before.IsFaultless) {place : Place}
    (isPlace : place ∈ scope.program.places) :
    Succeeds (Module.enter scope place.node place.above.head?) before := by
  rw [Module.enter_eq]
  refine guarded ?_
  unfold Module.visit
  split
  · have queued (pending : List Node) : { before with pending }.IsFaultless := faultless.congr rfl rfl
    refine bind ⟨(), _, ends_modify.2 ⟨rfl, rfl⟩, queued _⟩ fun _ _ _ faultlessToo => ?_
    exact pure faultlessToo _
  · exact (push undocumented total faultless isPlace).andReturn _

theorem firstPass (faultless : before.IsFaultless) : Succeeds (Module.firstPass scope) before := by
  have looped : Succeeds (scope.program.walked.forM fun place =>
      Module.enter scope place.node place.above.head? >>= fun _ => Pure.pure ()) before := by
    refine forM faultless fun place isWalked state faultlessToo => ?_
    have entered := enter undocumented total faultlessToo (Node.walked_subset_places isWalked)
    exact entered.andReturn _
  exact looped.congr Module.ends_walked

end FirstPass

theorem documentInner (undocumented : scope.program.IsUndocumented) (faultless : before.IsFaultless) :
    Succeeds (Module.documentInner scope) before := by
  unfold Module.documentInner
  split
  · refine guarded (virtual faultless _ fun comment isComment => undocumented.uncommented comment ?_)
    exact ⟨_, scope.program.contains_self, List.mem_append_right _ isComment⟩
  · exact pure faultless _

end Run.Succeeds

end DocHarvest
