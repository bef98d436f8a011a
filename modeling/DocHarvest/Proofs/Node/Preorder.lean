import DocHarvest.Proofs.Node.Tree

/-!
# The walk as a recursion

The walk keeps the nodes still to be visited on a stack. `descend` is the same walk as a recursion
on the tree, for a visitor with any effects, and what stands on the stack is what the recursion has
still to do. A visitor that has a state of its own is called just as `preorder` lists: for a node
and the node it is a part of, whole before parts and parts from first to last, each time in the
state that the call before has left, and for nothing below a node that it keeps out of.
-/

namespace DocHarvest.Node

/-! ## Any visitor -/

section

variable {m : Type → Type} [Monad m]

/-- Visits a node and then, unless the visitor keeps out of them, its parts from first to last. -/
def descend (visit : Node → Option Node → m Descent) (parent : Option Node) (node : Node) :
    m Unit := do
  match ← visit node parent with
  | .skip => pure ()
  | .enter => node.children.attach.forM fun part => descend visit (some node) part.1
termination_by sizeOf node
decreasing_by exact sizeOf_lt_of_mem_children part.2

variable [LawfulMonad m]

/-- What stands on the stack is what the recursion has still to do. -/
theorem walkStack_eq_forM (visit : Node → Option Node → m Descent) (stack : Stack) :
    walkStack visit stack = stack.forM fun entry => descend visit entry.2 entry.1 := by
  induction stack using walkStack.induct with
  | case1 =>
      rw [walkStack]
      rfl
  | case2 node parent rest skipped entered =>
      have parts : (node.children.attach.forM fun part => descend visit (some node) part.1) =
          node.partsOf.forM fun entry => descend visit entry.2 entry.1 := by
        conv_rhs => rw [partsOf, ← List.attach_map_subtype_val node.children]
        simp only [List.forM_eq_forM, List.forM_map]
      rw [walkStack, List.forM_eq_forM, List.forM_cons, descend, bind_assoc]
      congr 1
      funext descent
      cases descent with
      | skip => rw [pure_bind, skipped, List.forM_eq_forM]
      | enter =>
          rw [entered, parts]
          simp only [List.forM_eq_forM, List.forM_append]

theorem walk_eq_descend (root : Node) (visit : Node → Option Node → m Descent) :
    root.walk visit = descend visit none root := by
  rw [walk, walkStack_eq_forM]
  simp

end

/-! ## Visitors with a state of their own -/

/-- A call of a visitor: the node, the node that it is a part of, and the state before. -/
structure Visit (σ : Type) where
  node : Node
  parent : Option Node
  state : σ

/-- Does something for each item, in the state that the items before have left. -/
def inTurn {α β σ : Type} (each : α → σ → List β × σ) : List α → σ → List β × σ
  | [], state => ([], state)
  | item :: rest, state =>
      let (first, between) := each item state
      let (later, last) := inTurn each rest between
      (first ++ later, last)

/-- The calls of a visitor for a node and below it, in order, and the state that they leave. -/
def preorder {σ : Type} (visit : Node → Option Node → StateM σ Descent) (parent : Option Node)
    (node : Node) (state : σ) : List (Visit σ) × σ :=
  let (descent, after) := (visit node parent).run state
  match descent with
  | .skip => ([⟨node, parent, state⟩], after)
  | .enter =>
      let (below, last) :=
        inTurn (fun part => preorder visit (some node) part.1) node.children.attach after
      (⟨node, parent, state⟩ :: below, last)
termination_by sizeOf node
decreasing_by exact sizeOf_lt_of_mem_children part.2

/-- Calls a visitor and notes the call behind those noted before. -/
def noting {σ : Type} (visit : Node → Option Node → StateM σ Descent) (node : Node)
    (parent : Option Node) : StateM (σ × List (Visit σ)) Descent := do
  let (state, noted) ← get
  let (descent, after) := (visit node parent).run state
  set (after, noted ++ [⟨node, parent, state⟩])
  return descent

/-- What a visitor was told in a call. -/
def Visit.frame {σ : Type} (call : Visit σ) : Node × Option Node :=
  (call.node, call.parent)

section

variable {σ : Type} {visit : Node → Option Node → StateM σ Descent} {node : Node}
  {parent : Option Node} {state after : σ}

theorem inTurn_attach {α β : Type} (each : α → σ → List β × σ) (items : List α) (state : σ) :
    inTurn (fun item => each item.1) items.attach state = inTurn each items state := by
  have mapped {γ : Type} (choose : γ → α) (items : List γ) (state : σ) :
      inTurn (fun item => each (choose item)) items state =
        inTurn each (items.map choose) state := by
    induction items generalizing state with
    | nil => rfl
    | cons item rest ih => simp only [inTurn, List.map_cons, ih]
  rw [mapped Subtype.val, List.attach_map_subtype_val]

theorem preorder_of_skip (answered : (visit node parent).run state = (.skip, after)) :
    preorder visit parent node state = ([⟨node, parent, state⟩], after) := by
  rw [preorder, answered]

theorem preorder_of_enter (answered : (visit node parent).run state = (.enter, after)) :
    preorder visit parent node state =
      (⟨node, parent, state⟩ :: (inTurn (preorder visit (some node)) node.children after).1,
        (inTurn (preorder visit (some node)) node.children after).2) := by
  rw [preorder, answered]
  dsimp only
  rw [inTurn_attach (preorder visit (some node))]

theorem forM_run_eq_inTurn {α β : Type} {items : List α} {each : α → StateM σ Unit}
    {listed : α → σ → List β × σ}
    (agrees : ∀ item ∈ items, ∀ state, (each item).run state = ((), (listed item state).2))
    (state : σ) : (items.forM each).run state = ((), (inTurn listed items state).2) := by
  induction items generalizing state with
  | nil => rfl
  | cons item rest ih =>
      have first := agrees item List.mem_cons_self state
      rw [List.forM_eq_forM] at ih ⊢
      rw [List.forM_cons, StateT.run_bind, first]
      exact ih (fun later isLater => agrees later (List.mem_cons_of_mem _ isLater)) _

theorem descend_run (visit : Node → Option Node → StateM σ Descent) (parent : Option Node)
    (node : Node) (state : σ) :
    (descend visit parent node).run state = ((), (preorder visit parent node state).2) := by
  induction parent, node, state using preorder.induct visit with
  | case1 parent node state after answered =>
      rw [preorder_of_skip answered, descend, StateT.run_bind, answered]
      rfl
  | case2 parent node state after _ _ _ answered ih =>
      rw [preorder, descend, StateT.run_bind, answered]
      exact forM_run_eq_inTurn (fun part _ => ih part) after

/-! ### The calls -/

theorem noting_run {descent : Descent} (answered : (visit node parent).run state = (descent, after))
    (known : List (Visit σ)) : (noting visit node parent).run (state, known) =
      (descent, after, known ++ [⟨node, parent, state⟩]) := by
  simp only [noting, StateT.run_bind, StateT.run_get, StateT.run_set, pure_bind, answered]
  rfl

theorem inTurn_noting {α : Type} {items : List α} {each : α → σ → List (Visit σ) × σ}
    {γ : Type} {noted : α → σ × List (Visit σ) → List γ × σ × List (Visit σ)}
    (agrees : ∀ item ∈ items, ∀ state known,
      (noted item (state, known)).2 = ((each item state).2, known ++ (each item state).1))
    (state : σ) (known : List (Visit σ)) :
    (inTurn noted items (state, known)).2 =
      ((inTurn each items state).2, known ++ (inTurn each items state).1) := by
  induction items generalizing state known with
  | nil => simp [inTurn]
  | cons item rest ih =>
      have first := agrees item List.mem_cons_self state known
      have later := ih (fun other isOther => agrees other (List.mem_cons_of_mem _ isOther))
      simp only [inTurn, first, later, List.append_assoc]

/-- What is noted is what the recursion lists. -/
theorem preorder_noting (visit : Node → Option Node → StateM σ Descent) (parent : Option Node)
    (node : Node) (state : σ) (known : List (Visit σ)) :
    (preorder (noting visit) parent node (state, known)).2 =
      ((preorder visit parent node state).2, known ++ (preorder visit parent node state).1) := by
  induction parent, node, state using preorder.induct visit generalizing known with
  | case1 parent node state after answered =>
      have told := noting_run answered known
      rw [preorder_of_skip answered, preorder_of_skip told]
  | case2 parent node state after _ _ _ answered ih =>
      have told := noting_run answered known
      have below := inTurn_noting (fun part isPart => ih ⟨part, isPart⟩) after
        (known ++ [⟨node, parent, state⟩])
      rw [preorder_of_enter answered, preorder_of_enter told, below, List.append_assoc,
        List.singleton_append]

theorem inTurn_sublist {α β γ : Type} {items : List α} {each : α → σ → List β × σ}
    {told : β → γ} {whole : α → List γ}
    (within : ∀ item ∈ items, ∀ state, ((each item state).1.map told).Sublist (whole item))
    (state : σ) : ((inTurn each items state).1.map told).Sublist (items.flatMap whole) := by
  induction items generalizing state with
  | nil => exact List.Sublist.refl _
  | cons item rest ih =>
      rw [inTurn, List.map_append, List.flatMap_cons]
      exact (within item List.mem_cons_self state).append
        (ih (fun later isLater => within later (List.mem_cons_of_mem _ isLater)) _)

/-- The calls are for places of the tree, each at most once and in their order. -/
theorem preorder_sublist (visit : Node → Option Node → StateM σ Descent) (node : Node)
    (above : List Node) (state : σ) :
    ((preorder visit above.head? node state).1.map Visit.frame).Sublist
      (((⟨node, above⟩ : Place).reach fun _ => true).map Place.frame) := by
  generalize isOuter : above.head? = parent
  induction parent, node, state using preorder.induct visit generalizing above with
  | case1 parent node state after answered =>
      rw [preorder_of_skip answered, Place.reach_of_all, List.map_cons]
      subst isOuter
      exact (List.nil_sublist _).cons_cons _
  | case2 parent node state after _ _ _ answered ih =>
      let reached (part : Node) : List (Node × Option Node) :=
        ((⟨part, node :: above⟩ : Place).reach fun _ => true).map Place.frame
      have within : ∀ part ∈ node.children, ∀ state,
          ((preorder visit (some node) part state).1.map Visit.frame).Sublist (reached part) :=
        fun part isPart state => ih ⟨part, isPart⟩ state (node :: above) rfl
      have below := inTurn_sublist within after
      rw [preorder_of_enter answered, Place.reach_of_all, List.map_cons, List.map_cons,
        List.map_flatMap, Place.parts, List.flatMap_map]
      subst isOuter
      exact below.cons_cons _

/--
A walk with a visitor that has a state of its own ends, and calls the visitor just as the recursion
does that visits a node before its parts and keeps out of those that the visitor does not enter.
-/
theorem walk_calls_in_preorder (visit : Node → Option Node → StateM σ Descent) (root : Node)
    (state : σ) :
    (root.walk visit).run state = ((), (preorder visit none root state).2) ∧
      (root.walk (noting visit)).run (state, []) =
        ((), (preorder visit none root state).2, (preorder visit none root state).1) ∧
      ((preorder visit none root state).1.map Visit.frame).Sublist
        (root.places.map Place.frame) := by
  refine ⟨?_, ?_, preorder_sublist visit root [] state⟩
  · rw [walk_eq_descend, descend_run]
  · rw [walk_eq_descend, descend_run, preorder_noting, List.nil_append]

end

end DocHarvest.Node
