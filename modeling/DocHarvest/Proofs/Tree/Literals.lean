import DocHarvest.Proofs.Node.Literals
import DocHarvest.Proofs.Tree.Yields
import DocHarvest.Module.Request

/-!
# Programs from syntax trees have plain literals

The numbers in a program are read from decimal text, so they are in canonical form, and everything
else that a literal holds is plain anyhow. There is one lemma for each rule, and the whole is an
induction on the size of the tree.
-/

namespace DocHarvest

open NodeBuilder

/-- The literals of several nodes are plain. -/
def Node.HavePlainLiterals (nodes : List Node) : Prop :=
  ∀ node ∈ nodes, node.HasPlainLiterals

namespace Node.HavePlainLiterals

variable {node : Node} {nodes others : List Node}

@[simp]
theorem nil : HavePlainLiterals [] := by
  simp [HavePlainLiterals]

@[simp]
theorem cons_iff : HavePlainLiterals (node :: nodes) ↔
    node.HasPlainLiterals ∧ HavePlainLiterals nodes :=
  List.forall_mem_cons

@[simp]
theorem append_iff : HavePlainLiterals (nodes ++ others) ↔
    HavePlainLiterals nodes ∧ HavePlainLiterals others :=
  List.forall_mem_append

theorem filter (plain : HavePlainLiterals nodes) (keeps : Node → Bool) :
    HavePlainLiterals (nodes.filter keeps) :=
  fun _ isKept => plain _ (List.mem_of_mem_filter isKept)

theorem of_toList {found : Option Node} (plain : HavePlainLiterals found.toList)
    (same : found = some node) : node.HasPlainLiterals :=
  plain node (by simp [same])

end Node.HavePlainLiterals

open Node (HavePlainLiterals)

/-- Only a literal layer has a value of its own. -/
theorem Shape.hasPlainLiterals_of_parts {shape : Shape Node}
    (noLiteral : ∀ value kind, shape ≠ .literal value kind)
    (parts : HavePlainLiterals shape.children) :
    shape.HasPlainLiterals where
  own value kind same := absurd same (noLiteral value kind)
  parts := parts

theorem Shape.hasPlainLiterals_literal {value : Value} {kind : LiteralKind}
    (plain : value.IsPlain) : (Shape.literal value kind : Shape Node).HasPlainLiterals where
  own := by
    rintro _ _ ⟨⟩
    exact plain
  parts := by simp [Shape.children]

/-! ## Numbers -/

theorem Numeral.isCanonical_of_real? {text : List Char} {number : Binary64}
    (read : Numeral.real? text = some number) : number.IsCanonical := by
  unfold Numeral.real? at read
  dsimp only at read
  split at read
  · cases read
    trivial
  · split at read
    · cases read
      trivial
    · unfold Numeral.decimalReal? at read
      dsimp only at read
      split at read
      · cases read
        exact Binary64.isCanonical_ofDecimal _ _ _
      · cases read

namespace Tree

theorem isPlain_numberValue (text : String) : (numberValue text).IsPlain := by
  unfold numberValue
  split
  · trivial
  · rename_i number read
    unfold Numeral.ofLiteral? at read
    dsimp only at read
    split at read
    · cases read
    · rcases Option.map_eq_some_iff.1 read with ⟨real, isReal, same⟩
      cases same
      exact Numeral.isCanonical_of_real? isReal
  · trivial

/-! ## Parts -/

variable {bound : Nat}

/-- What makes nodes of parts makes nodes with plain literals. -/
def Convert.IsPlain (convert : Convert bound) : Prop :=
  ∀ part, Yields Node.HasPlainLiterals (convert part)

theorem node_yields {shape : Shape Node} (plain : shape.HasPlainLiterals) :
    Yields Node.HasPlainLiterals (NodeBuilder.node shape) := by
  intro before result after ran
  cases ran
  exact Node.hasPlainLiterals_mk.2 plain

theorem bareIdentifier_yields (name : String) :
    Yields Node.HasPlainLiterals (bareIdentifier name) :=
  node_yields (Shape.hasPlainLiterals_of_parts (by simp) (by simp [Shape.children]))

namespace Convert.IsPlain

variable {convert : Convert bound}

theorem optional (plain : convert.IsPlain) (part : Option (Part bound)) :
    Yields (fun found => HavePlainLiterals found.toList) (convert.optional part) := by
  unfold Convert.optional
  split
  · exact .pure (by simp)
  · split
    · exact .pure (by simp)
    · exact (plain _).map fun node isPlain => by simpa using isPlain

theorem list (plain : convert.IsPlain) (parts : List (Part bound)) :
    Yields HavePlainLiterals (convert.list parts) :=
  .mapM fun part _ => plain part

theorem inside (plain : convert.IsPlain) (part : Option (Part bound)) :
    Yields HavePlainLiterals (convert.inside part) := by
  unfold Convert.inside
  split
  · exact .pure (by simp)
  · exact plain.list _

theorem within (plain : convert.IsPlain) (part : Part bound) :
    Convert.IsPlain fun deeper => convert (part.within deeper) :=
  fun deeper => plain (part.within deeper)

end Convert.IsPlain

theorem havePlainLiterals_onlyIdentifier {found : Option Node}
    (plain : HavePlainLiterals found.toList) : HavePlainLiterals (onlyIdentifier found).toList := by
  rw [onlyIdentifier, Option.toList_filter]
  exact plain.filter _

theorem havePlainLiterals_onlyLiteral {found : Option Node}
    (plain : HavePlainLiterals found.toList) : HavePlainLiterals (onlyLiteral found).toList := by
  rw [onlyLiteral, Option.toList_filter]
  exact plain.filter _

end Tree

/-! ## Comments in statement lists -/

namespace Node

variable {node : Node} {nodes : List Node}

theorem HasPlainLiterals.attachLeading (plain : node.HasPlainLiterals) (comments : List Comment) :
    (node.attachLeading comments).HasPlainLiterals := by
  unfold Node.attachLeading
  split
  · exact plain.withInfo _
  · refine hasPlainLiterals_mk.2 ?_
    have shaped := plain.shape
    generalize node.shape = shape at shaped
    unfold Shape.mapFirstDecorator
    split
    all_goals
      first
      | exact shaped
      | refine Shape.hasPlainLiterals_of_parts (by simp) ?_
        have parts : HavePlainLiterals _ := shaped.parts
        simp only [Shape.children, List.cons_append, HavePlainLiterals.cons_iff] at parts ⊢
        exact ⟨parts.1.withInfo _, parts.2⟩

theorem havePlainLiterals_attachTrailing (plain : HavePlainLiterals nodes)
    (comments : List Comment) : HavePlainLiterals (attachTrailing comments nodes).1 := by
  induction nodes with
  | nil => exact plain
  | cons item rest ih =>
      rw [HavePlainLiterals.cons_iff] at plain
      cases rest with
      | nil => exact HavePlainLiterals.cons_iff.2 ⟨plain.1.withInfo _, .nil⟩
      | cons next others => exact HavePlainLiterals.cons_iff.2 ⟨plain.1, ih plain.2⟩

end Node

namespace Tree

/-! ## Rules -/

section

variable {source : Source} {tree : Tree} {convert : Convert tree.size}

/-- A layer made of two parts that may be missing. -/
theorem optionals_yields {step other : NodeBuilder (Option Node)}
    (first : Yields (fun found => HavePlainLiterals found.toList) step)
    (second : Yields (fun found => HavePlainLiterals found.toList) other)
    {shape : Option Node → Option Node → Shape Node}
    (noLiteral : ∀ left right value kind, shape left right ≠ .literal value kind)
    (children : ∀ left right, (shape left right).children = left.toList ++ right.toList) :
    Yields Shape.HasPlainLiterals (do return shape (← step) (← other)) :=
  first.bind fun left ofLeft => second.bind fun right ofRight => .pure
    (Shape.hasPlainLiterals_of_parts (noLiteral left right) (by simp [children, ofLeft, ofRight]))

/-- A layer made of a list of parts. -/
theorem parts_yields {α : Type} {step : NodeBuilder α} {parts : α → List Node}
    (first : Yields (fun found => HavePlainLiterals (parts found)) step) {shape : α → Shape Node}
    (noLiteral : ∀ found value kind, shape found ≠ .literal value kind)
    (children : ∀ found, (shape found).children = parts found) :
    Yields Shape.HasPlainLiterals (do return shape (← step)) :=
  first.bind fun found arePlain => .pure
    (Shape.hasPlainLiterals_of_parts (noLiteral found) (by rwa [children]))

theorem firstCode_yields (plain : convert.IsPlain) :
    Yields (fun found => HavePlainLiterals found.toList) (firstCode tree convert) :=
  plain.optional _

theorem fieldNode_yields (plain : convert.IsPlain) (name : String) :
    Yields (fun found => HavePlainLiterals found.toList) (fieldNode tree convert name) :=
  plain.optional _

theorem insideField_yields (plain : convert.IsPlain) (name : String) :
    Yields HavePlainLiterals (insideField tree convert name) :=
  plain.inside _

theorem statements_yields (plain : convert.IsPlain) :
    Yields (fun found => HavePlainLiterals found.1) (statements source tree convert) := by
  unfold statements
  dsimp only
  refine Yields.bind (.mapM fun group _ =>
    (plain group.item).bind fun item isPlain => .pure (isPlain.attachLeading group.comments))
    fun items arePlain => .pure ?_
  exact Node.havePlainLiterals_attachTrailing arePlain _

theorem decoratorNodes_yields (plain : convert.IsPlain) :
    Yields HavePlainLiterals (decoratorNodes tree convert) :=
  (plain.list _).bind fun _ arePlain => .pure (arePlain.filter _)

theorem propertyKey_yields (plain : convert.IsPlain) (key : Option (Part tree.size)) :
    Yields (fun found => HavePlainLiterals found.1.toList) (propertyKey tree convert key) := by
  unfold propertyKey
  split
  · exact .pure (by simp)
  · split
    · exact (plain.optional _).bind fun _ isPlain => .pure isPlain
    · exact (plain.optional _).bind fun _ isPlain => .pure isPlain

theorem variablesShape_yields (plain : convert.IsPlain) :
    Yields Shape.HasPlainLiterals (variablesShape source tree convert) :=
  (plain.list _).bind fun _ arePlain =>
    .pure (Shape.hasPlainLiterals_of_parts (by simp) (arePlain.filter _))

theorem classShape_yields (plain : convert.IsPlain) (form : Form) :
    Yields Shape.HasPlainLiterals (classShape tree convert form) := by
  refine (plain.optional _).bind fun superClass ofSuper => ?_
  refine (fieldNode_yields plain _).bind fun name ofName => ?_
  refine (fieldNode_yields plain _).bind fun body ofBody => ?_
  have rest (body : Node) (ofBody : body.HasPlainLiterals) : Yields Shape.HasPlainLiterals (do
      let decorators ← decoratorNodes tree convert
      return .classLike form decorators (onlyIdentifier name) superClass body) := by
    refine (decoratorNodes_yields plain).bind fun decorators ofDecorators => .pure ?_
    refine Shape.hasPlainLiterals_of_parts (by simp) ?_
    simp [Shape.children, ofSuper, ofBody, ofDecorators, havePlainLiterals_onlyIdentifier ofName]
  dsimp only
  split
  · exact (Yields.pure (Node.HavePlainLiterals.of_toList ‹_› rfl)).bind rest
  · have empty : (Shape.classBody [] : Shape Node).HasPlainLiterals :=
      Shape.hasPlainLiterals_of_parts (by simp) (by simp [Shape.children])
    exact (node_yields empty).bind rest

theorem methodShape_yields (plain : convert.IsPlain) :
    Yields Shape.HasPlainLiterals (methodShape tree convert) := by
  refine (propertyKey_yields plain _).bind fun key ofKey => ?_
  refine (decoratorNodes_yields plain).bind fun decorators ofDecorators => ?_
  refine (insideField_yields plain _).bind fun params ofParams => ?_
  refine (fieldNode_yields plain _).bind fun body ofBody => .pure ?_
  refine Shape.hasPlainLiterals_of_parts (by simp) ?_
  simp [Shape.children, ofKey, ofDecorators, ofParams, ofBody]

theorem propertyShape_yields (plain : convert.IsPlain) :
    Yields Shape.HasPlainLiterals (propertyShape tree convert) := by
  refine (propertyKey_yields plain _).bind fun key ofKey => ?_
  refine (decoratorNodes_yields plain).bind fun decorators ofDecorators => ?_
  refine (fieldNode_yields plain _).bind fun value ofValue => .pure ?_
  refine Shape.hasPlainLiterals_of_parts (by simp) ?_
  simp [Shape.children, ofKey, ofDecorators, ofValue]

theorem functionShape_yields (plain : convert.IsPlain) (form : Form) (generator : Bool) :
    Yields Shape.HasPlainLiterals (functionShape tree convert form generator) := by
  refine (fieldNode_yields plain _).bind fun id ofId => ?_
  refine (insideField_yields plain _).bind fun params ofParams => ?_
  refine (fieldNode_yields plain _).bind fun body ofBody => .pure ?_
  refine Shape.hasPlainLiterals_of_parts (by simp) ?_
  simp [Shape.children, ofId, ofParams, ofBody]

theorem arrowShape_yields (plain : convert.IsPlain) :
    Yields Shape.HasPlainLiterals (arrowShape tree convert) := by
  have rest (params : List Node) (ofParams : HavePlainLiterals params) :
      Yields Shape.HasPlainLiterals (do
        let body ← fieldNode tree convert "body"
        return .arrow params body (tree.hasToken "async") false) := by
    refine (fieldNode_yields plain _).bind fun body ofBody => .pure ?_
    refine Shape.hasPlainLiterals_of_parts (by simp) ?_
    simp [Shape.children, ofParams, ofBody]
  unfold arrowShape
  dsimp only
  split
  · exact (plain.list _).bind rest
  · exact (insideField_yields plain _).bind rest

theorem assignmentShape_yields (plain : convert.IsPlain) :
    Yields Shape.HasPlainLiterals (assignmentShape source tree convert) :=
  optionals_yields (fieldNode_yields plain _) (fieldNode_yields plain _) (by simp) fun _ _ => rfl

theorem callArguments_yields (plain : convert.IsPlain) :
    Yields HavePlainLiterals (callArguments tree convert) := by
  unfold callArguments
  split
  · exact .pure (by simp)
  · split
    · exact plain.list _
    · exact plain.inside _

theorem objectMethod_yields (plain : convert.IsPlain) (part : Part tree.size) :
    Yields Node.HasPlainLiterals (objectMethod source tree convert part) := by
  refine (propertyKey_yields (plain.within part) _).bind fun key ofKey => ?_
  refine (insideField_yields (plain.within part) _).bind fun params ofParams => ?_
  refine (fieldNode_yields (plain.within part) _).bind fun body ofBody => ?_
  refine (node_yields ?_).bind fun method isPlain => .pure (isPlain.withInfo _)
  refine Shape.hasPlainLiterals_of_parts (by simp) ?_
  simp [Shape.children, ofKey, ofParams, ofBody]

theorem shorthandProperty_yields (plain : convert.IsPlain) (part : Part tree.size) :
    Yields Node.HasPlainLiterals (shorthandProperty source tree convert part) := by
  refine (plain part).bind fun key ofKey => ?_
  refine (plain part).bind fun value ofValue => ?_
  refine (node_yields ?_).bind fun property isPlain => .pure (isPlain.withInfo _)
  refine Shape.hasPlainLiterals_of_parts (by simp) ?_
  simp [Shape.children, ofKey, ofValue]

theorem objectShape_yields (plain : convert.IsPlain) :
    Yields Shape.HasPlainLiterals (objectShape source tree convert) := by
  have each (part : Part tree.size) : Yields Node.HasPlainLiterals
      (if part.1.kind == "method_definition" then objectMethod source tree convert part
        else if part.1.kind == "shorthand_property_identifier" then
          shorthandProperty source tree convert part
        else convert part) := by
    split
    · exact objectMethod_yields plain part
    · split
      · exact shorthandProperty_yields plain part
      · exact plain part
  exact parts_yields (.mapM fun part _ => each part) (by simp) fun _ => rfl

theorem objectPatternShape_yields (plain : convert.IsPlain) :
    Yields Shape.HasPlainLiterals (objectPatternShape source tree convert) := by
  have each (part : Part tree.size) : Yields Node.HasPlainLiterals
      (if part.1.kind == "shorthand_property_identifier_pattern" then
          shorthandProperty source tree convert part
        else convert part) := by
    split
    · exact shorthandProperty_yields plain part
    · exact plain part
  exact parts_yields (.mapM fun part _ => each part) (by simp) fun _ => rfl

theorem pairShape_yields (plain : convert.IsPlain) :
    Yields Shape.HasPlainLiterals (pairShape tree convert) := by
  refine (propertyKey_yields plain _).bind fun key ofKey => ?_
  refine (fieldNode_yields plain _).bind fun value ofValue => .pure ?_
  refine Shape.hasPlainLiterals_of_parts (by simp) ?_
  simp [Shape.children, ofKey, ofValue]

theorem defaultedPropertyShape_yields (plain : convert.IsPlain) :
    Yields Shape.HasPlainLiterals (defaultedPropertyShape source tree convert) := by
  refine (fieldNode_yields plain _).bind fun left ofLeft => ?_
  refine (fieldNode_yields plain _).bind fun right ofRight => ?_
  have assigned : (Shape.assignmentPattern left right).HasPlainLiterals :=
    Shape.hasPlainLiterals_of_parts (by simp) (by simp [Shape.children, ofLeft, ofRight])
  refine (node_yields assigned).bind fun pattern ofPattern => ?_
  dsimp only
  generalize ofInfo : pattern.withInfo _ = placed
  have ofPlaced : placed.HasPlainLiterals := ofInfo ▸ ofPattern.withInfo _
  have rest (key : Option Node) (ofKey : HavePlainLiterals key.toList) :
      Yields Shape.HasPlainLiterals (do return .objectProperty key (some placed) false) := by
    refine .pure (Shape.hasPlainLiterals_of_parts (by simp) ?_)
    simp [Shape.children, ofKey, ofPlaced]
  split
  · refine Yields.bind (Yields.map (bareIdentifier_yields _) fun node isPlain => ?_) rest
    simpa using isPlain
  · rw [pure_bind]
    exact rest left ofLeft

theorem asDeclaration_plain {value : Node} (plain : value.HasPlainLiterals) :
    (asDeclaration value).HasPlainLiterals := by
  have shaped := plain.shape
  unfold asDeclaration
  dsimp only
  split
  · rename_i same
    rw [same] at shaped
    exact Node.hasPlainLiterals_mk.2 (Shape.hasPlainLiterals_of_parts (by simp) shaped.parts)
  · rename_i same
    rw [same] at shaped
    exact Node.hasPlainLiterals_mk.2 (Shape.hasPlainLiterals_of_parts (by simp) shaped.parts)
  · exact plain

theorem decorate_plain {decorators : List Node} (ofDecorators : HavePlainLiterals decorators)
    {declaration : Node} (plain : declaration.HasPlainLiterals) :
    (decorate decorators declaration).HasPlainLiterals := by
  have shaped := plain.shape
  unfold decorate
  split
  · rename_i same
    rw [same] at shaped
    have parts : HavePlainLiterals _ := shaped.parts
    refine Node.hasPlainLiterals_mk.2 (Shape.hasPlainLiterals_of_parts (by simp) ?_)
    simp only [Shape.children, HavePlainLiterals.append_iff] at parts ⊢
    exact ⟨⟨⟨⟨ofDecorators, parts.1.1.1⟩, parts.1.1.2⟩, parts.1.2⟩, parts.2⟩
  · exact plain

theorem toList_map_plain {found : Option Node} {change : Node → Node}
    (plain : HavePlainLiterals found.toList)
    (each : ∀ node, node.HasPlainLiterals → (change node).HasPlainLiterals) :
    HavePlainLiterals (found.map change).toList := by
  cases found with
  | none => simp
  | some node => simpa using each node (plain.of_toList rfl)

theorem exportShape_yields (plain : convert.IsPlain) :
    Yields Shape.HasPlainLiterals (exportShape tree convert) := by
  refine (fieldNode_yields plain _).bind fun origin ofOrigin => ?_
  refine (fieldNode_yields plain _).bind fun declared ofDeclared => ?_
  have rest (declaration : Option Node) (ofDeclaration : HavePlainLiterals declaration.toList) :
      Yields Shape.HasPlainLiterals (do
        let decorators ← decoratorNodes tree convert
        let declaration := declaration.map (decorate decorators)
        if tree.hasToken "default" then
          return .exportDefault declaration
        let specifiers ← convert.inside (tree.firstNamed? "export_clause")
        return .exportNamed declaration (specifiers.filter isExportSpecifier)
          (onlyLiteral origin)) := by
    refine (decoratorNodes_yields plain).bind fun decorators ofDecorators => ?_
    have decorated := toList_map_plain ofDeclaration fun _ => decorate_plain ofDecorators
    dsimp only
    split
    · exact .pure (Shape.hasPlainLiterals_of_parts (by simp) decorated)
    · refine (plain.inside _).bind fun specifiers ofSpecifiers => .pure ?_
      refine Shape.hasPlainLiterals_of_parts (by simp) ?_
      simp [Shape.children, decorated, ofSpecifiers.filter, havePlainLiterals_onlyLiteral ofOrigin]
  dsimp only
  split
  · rw [pure_bind]
    exact rest _ ofDeclared
  · refine Yields.bind (Yields.map (fieldNode_yields plain _) fun value ofValue => ?_) rest
    exact toList_map_plain ofValue fun _ => asDeclaration_plain

theorem exportSpecifierShape_yields (plain : convert.IsPlain) :
    Yields Shape.HasPlainLiterals (exportSpecifierShape tree convert) := by
  refine (fieldNode_yields plain _).bind fun name ofName => ?_
  refine (fieldNode_yields plain _).bind fun outside ofOutside => .pure ?_
  refine Shape.hasPlainLiterals_of_parts (by simp) ?_
  simp [Shape.children, havePlainLiterals_onlyIdentifier ofName,
    havePlainLiterals_onlyIdentifier ofOutside]

theorem namedImport_yields (specifier : Tree) :
    Yields Node.HasPlainLiterals (namedImport source specifier) := by
  refine (bareIdentifier_yields _).bind fun imported ofImported => ?_
  have rest (binding : Node) (ofBinding : binding.HasPlainLiterals) : Yields Node.HasPlainLiterals
      (NodeBuilder.node (.importSpecifier (some binding) (some imported))) :=
    node_yields (Shape.hasPlainLiterals_of_parts (by simp)
      (by simp [Shape.children, ofBinding, ofImported]))
  dsimp only
  split
  · exact (bareIdentifier_yields _).bind rest
  · exact (Yields.pure ofImported).bind rest

theorem importSpecifiers_yields (part : Tree) :
    Yields HavePlainLiterals (importSpecifiers source part) := by
  have single {shape : Shape Node} (plain : shape.HasPlainLiterals) :
      Yields HavePlainLiterals (do return [← NodeBuilder.node shape]) :=
    (node_yields plain).bind fun node isPlain => .pure (by simpa using isPlain)
  unfold importSpecifiers
  split
  · refine (bareIdentifier_yields _).bind fun binding ofBinding => ?_
    refine (bareIdentifier_yields _).bind fun imported ofImported => single ?_
    exact Shape.hasPlainLiterals_of_parts (by simp) (by simp [Shape.children, ofBinding, ofImported])
  · split
    · split
      · refine (bareIdentifier_yields _).bind fun binding ofBinding => single ?_
        exact Shape.hasPlainLiterals_of_parts (by simp) (by simp [Shape.children, ofBinding])
      · exact .pure (by simp)
    · split
      · exact .mapM fun specifier _ => namedImport_yields specifier.1
      · exact .pure (by simp)

theorem importShape_yields (plain : convert.IsPlain) :
    Yields Shape.HasPlainLiterals (importShape source tree convert) := by
  refine (Yields.mapM fun part _ => importSpecifiers_yields part).bind fun specifiers ofParts => ?_
  refine (fieldNode_yields plain _).bind fun origin ofOrigin => .pure ?_
  refine Shape.hasPlainLiterals_of_parts (by simp) ?_
  have ofSpecifiers : HavePlainLiterals specifiers.flatten := by
    intro node isNode
    rcases List.mem_flatten.1 isNode with ⟨nodes, isPart, inPart⟩
    exact ofParts nodes isPart node inPart
  simp [Shape.children, ofSpecifiers, havePlainLiterals_onlyLiteral ofOrigin]

end

theorem decoratorExpression_yields {source : Source} {convert : Convert bound}
    (plain : convert.IsPlain) (part : Part bound) :
    Yields (fun found => HavePlainLiterals found.toList)
      (decoratorExpression source convert part) := by
  have placed {shape : Shape Node} (isPlain : shape.HasPlainLiterals) :
      Yields (fun found => HavePlainLiterals found.toList)
        (do return some (located source part.1 (← NodeBuilder.node shape))) :=
    (node_yields isPlain).bind fun node ofNode => .pure
      (Node.HavePlainLiterals.cons_iff.2 ⟨ofNode.withInfo _, .nil⟩)
  rw [decoratorExpression]
  split
  · split
    · exact .throw _
    · rename_i inner _
      refine (decoratorExpression_yields plain (part.within inner)).bind fun target ofTarget => ?_
      refine (plain.optional _).bind fun key ofKey => placed ?_
      exact Shape.hasPlainLiterals_of_parts (by simp) (by simp [Shape.children, ofTarget, ofKey])
  · split
    · split
      · exact .throw _
      · rename_i inner _
        refine (decoratorExpression_yields plain (part.within inner)).bind fun callee ofCallee => ?_
        refine (plain.inside _).bind fun arguments ofArguments => placed ?_
        exact Shape.hasPlainLiterals_of_parts (by simp)
          (by simp [Shape.children, ofCallee, ofArguments])
    · exact plain.optional _
termination_by part.1.size
decreasing_by
  all_goals
    rename_i inner _ _
    exact inner.2

theorem decoratorShape_yields {source : Source} {tree : Tree} {convert : Convert tree.size}
    (plain : convert.IsPlain) :
    Yields Shape.HasPlainLiterals (decoratorShape source tree convert) := by
  unfold decoratorShape
  split
  · exact .pure (Shape.hasPlainLiterals_of_parts (by simp) (by simp [Shape.children]))
  · exact (decoratorExpression_yields plain _).bind fun expression ofExpression =>
      .pure (Shape.hasPlainLiterals_of_parts (by simp) ofExpression)

/-! ## Trees -/

section

variable {source : Source} {tree : Tree} {convert : Convert tree.size}

theorem hasPlainLiterals_number (text : String) :
    (Shape.literal (numberValue text) .number : Shape Node).HasPlainLiterals :=
  Shape.hasPlainLiterals_literal (isPlain_numberValue text)

theorem layer_yields (plain : convert.IsPlain) (found : Construct) :
    Yields Shape.HasPlainLiterals (layer source tree convert found) := by
  have field (name : String) := fieldNode_yields plain name
  match found with
  | .program | .block | .classBody =>
      exact parts_yields (statements_yields plain) (by simp) fun _ => rfl
  | .expressionStatement | .returnStatement | .spread | .restPattern =>
      exact parts_yields (firstCode_yields plain) (by simp) fun _ => rfl
  | .array | .arrayPattern | .generic | .parenthesized =>
      exact parts_yields (plain.list _) (by simp) fun _ => rfl
  | .declarator | .member | .subscript | .assignmentPattern =>
      exact optionals_yields (field _) (field _) (by simp) fun _ _ => rfl
  | .call | .construct =>
      refine (field _).bind fun callee ofCallee => ?_
      refine (callArguments_yields plain).bind fun arguments ofArguments => .pure ?_
      exact Shape.hasPlainLiterals_of_parts (by simp) (by simp [Shape.children, ofCallee, ofArguments])
  | .string | .boolean _ | .null | .regex => exact .pure (Shape.hasPlainLiterals_literal trivial)
  | .number => exact .pure (hasPlainLiterals_number _)
  | .this | .identifier | .template =>
      exact .pure (Shape.hasPlainLiterals_of_parts (by simp) (by simp [Shape.children]))
  | .variables => exact variablesShape_yields plain
  | .classLike form => exact classShape_yields plain form
  | .method => exact methodShape_yields plain
  | .property => exact propertyShape_yields plain
  | .decorator => exact decoratorShape_yields plain
  | .function form generator => exact functionShape_yields plain form generator
  | .arrow => exact arrowShape_yields plain
  | .assignment => exact assignmentShape_yields plain
  | .object => exact objectShape_yields plain
  | .pair => exact pairShape_yields plain
  | .objectAssignmentPattern => exact defaultedPropertyShape_yields plain
  | .objectPattern => exact objectPatternShape_yields plain
  | .exportStatement => exact exportShape_yields plain
  | .exportSpecifier => exact exportSpecifierShape_yields plain
  | .importStatement => exact importShape_yields plain

theorem unplaced_yields (plain : convert.IsPlain) :
    Yields Node.HasPlainLiterals (unplaced source tree convert) := by
  unfold unplaced
  split
  · exact plain _
  · exact (layer_yields plain _).bind fun shape isPlain => node_yields isPlain

end

theorem hasPlainLiterals_placed {source : Source} {tree : Tree} {node : Node}
    (plain : node.HasPlainLiterals) : (placed source tree node).HasPlainLiterals := by
  unfold placed
  split
  · exact plain.withInfo _
  · exact plain.withInfo _

theorem node_hasPlainLiterals (source : Source) (tree : Tree) :
    Yields Node.HasPlainLiterals (Tree.node source tree) := by
  rw [Tree.node]
  have inside : Convert.IsPlain fun part : Part tree.size => Tree.node source part.1 :=
    fun part => node_hasPlainLiterals source part.1
  exact (unplaced_yields inside).bind fun node isPlain => .pure (hasPlainLiterals_placed isPlain)
termination_by tree.size
decreasing_by exact part.2

/-- The literals of a program that a tree makes are plain. -/
theorem program_hasPlainLiterals {source : Source} {tree : Tree} {root : Node} {next : NodeId}
    (made : tree.program source = .ok (root, next)) : root.HasPlainLiterals := by
  unfold Tree.program at made
  split at made
  · cases made
  · rcases bind_eq_ok.1 made with ⟨⟨node, drawn⟩, ran, checked⟩
    dsimp only at checked
    split at checked
    · cases checked
      exact node_hasPlainLiterals source tree ran
    · cases checked

end Tree

theorem Module.readProgram_hasPlainLiterals {source : Source} {parsed : Parsed}
    {program : Module.Program} (read : Module.readProgram source parsed = .ok program) :
    program.root.HasPlainLiterals := by
  rcases bind_eq_ok.1 read with ⟨⟨root, next⟩, made, same⟩
  cases same
  exact Tree.program_hasPlainLiterals made

end DocHarvest
