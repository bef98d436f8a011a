import DocHarvest.Proofs.Tree.Uncommented
import Mathlib.Data.List.Forall2

/-!
# Statement lists keep their comments

A statement list puts every comment in it in one place: before the item that it precedes, after the
last item, or, in a list without items, among the comments left over. The comments keep their order
and nothing else about the items changes.

A list is cut into groups of an item and the comments before it. What is said of the comments
between two items is first said of the groups, and then carried over to the items, which are fresh
nodes and get no comments from anywhere else.
-/

namespace DocHarvest

/-- Changes all decorators of a class or class member. -/
def Shape.mapDecorators {α : Type} (change : α → α) : Shape α → Shape α
  | .classLike form decorators id superClass body =>
      .classLike form (decorators.map change) id superClass body
  | .method decorators key params body kind static computed async generator =>
      .method (decorators.map change) key params body kind static computed async generator
  | .property decorators key value static computed =>
      .property (decorators.map change) key value static computed
  | shape => shape

namespace Node

/-- The comments before an item stand on its first decorator if it has one, and on the item itself
if it has none. Nothing else in front of it carries comments. -/
def LeadsWith (comments : List Comment) (item : Node) : Prop :=
  (item.shape.decorators = [] ∧ item.leading = comments) ∨
    ∃ first others, item.shape.decorators = first :: others ∧ item.leading = [] ∧
      first.leading = comments ∧ first.trailing = [] ∧ ∀ other ∈ others, other.HasNoComments

/-- The comments around a node and its decorators, in the order of the source. -/
def ownComments (node : Node) : List Comment :=
  node.shape.decorators.flatMap (fun item => item.leading ++ item.trailing) ++ node.leading ++
    node.trailing

/-- A node without the comments around it. -/
def uncommented (node : Node) : Node :=
  node.withInfo { node.info with leading := [], trailing := [] }

/-- An item without the comments around it and its decorators. -/
def bare (item : Node) : Node :=
  .mk item.uncommented.info (item.shape.mapDecorators uncommented)

end Node

/-! ## One item -/

namespace Shape

variable {α : Type} {shape : Shape α} {change before : α → α} {first : α} {others : List α}

theorem mapDecorators_eq (same : ∀ decorator ∈ shape.decorators, change decorator = decorator) :
    shape.mapDecorators change = shape := by
  have unchanged : shape.decorators.map change = shape.decorators := by
    rw [List.map_congr_left same, List.map_id']
  cases shape
  case classLike | method | property =>
    simp only [decorators] at unchanged
    rw [mapDecorators, unchanged]
  all_goals rfl

theorem mapDecorators_mapFirstDecorator (absorbs : ∀ item, change (before item) = change item) :
    (shape.mapFirstDecorator before).mapDecorators change = shape.mapDecorators change := by
  unfold mapFirstDecorator
  split
  case h_4 => rfl
  all_goals simp [mapDecorators, absorbs]

theorem decorators_mapFirstDecorator (decorated : shape.decorators = first :: others) :
    (shape.mapFirstDecorator change).decorators = change first :: others := by
  cases shape
  case classLike | method | property =>
    simp only [decorators] at decorated
    subst decorated
    rfl
  all_goals exact absurd decorated (by simp [decorators])

end Shape

namespace Node

variable {node item : Node} {comments : List Comment}

theorem HasNoComments.uncommented_eq (fresh : node.HasNoComments) : node.uncommented = node := by
  obtain ⟨info, shape⟩ := node
  obtain ⟨id, span, leading, trailing, raw⟩ := info
  obtain ⟨noLeading, noTrailing⟩ := fresh
  change leading = [] at noLeading
  change trailing = [] at noTrailing
  rw [noLeading, noTrailing]
  rfl

theorem IsUncommented.bare_eq (fresh : item.IsUncommented) : item.bare = item := by
  have same := Shape.mapDecorators_eq fun decorator isDecorator =>
    (fresh.decorators decorator isDecorator).uncommented_eq
  rw [bare, fresh.own.uncommented_eq, same]
  cases item
  rfl

/-- Comments put in front of an item are the only change to it. -/
theorem bare_attachLeading : (item.attachLeading comments).bare = item.bare := by
  unfold attachLeading
  split
  · rfl
  · have same : (item.shape.mapFirstDecorator (addLeading comments)).mapDecorators uncommented =
        item.shape.mapDecorators uncommented :=
      Shape.mapDecorators_mapFirstDecorator fun _ => rfl
    exact congrArg (Node.mk item.uncommented.info) same

theorem trailing_attachLeading : (item.attachLeading comments).trailing = item.trailing := by
  unfold attachLeading
  split
  · rfl
  · rfl

theorem leading_addLeading (fresh : node.HasNoComments) :
    (node.addLeading comments).leading = comments := by
  change node.leading ++ comments = comments
  rw [fresh.1, List.nil_append]

theorem IsUncommented.leadsWith (fresh : item.IsUncommented) :
    (item.attachLeading comments).LeadsWith comments := by
  unfold attachLeading
  cases decorated : item.shape.decorators with
  | nil => exact .inl ⟨decorated, leading_addLeading fresh.own⟩
  | cons first others =>
      have bare (decorator : Node) (isDecorator : decorator ∈ first :: others) :
          decorator.HasNoComments := fresh.decorators decorator (decorated ▸ isDecorator)
      have ofFirst := bare first (List.mem_cons_self ..)
      refine .inr ⟨first.addLeading comments, others, ?_, fresh.own.1, ?_, ofFirst.2, ?_⟩
      · exact Shape.decorators_mapFirstDecorator decorated
      · exact leading_addLeading ofFirst
      · intro other isOther
        exact bare other (List.mem_cons_of_mem _ isOther)

theorem LeadsWith.addTrailing {others : List Comment} (leads : item.LeadsWith comments) :
    (item.addTrailing others).LeadsWith comments := leads

theorem LeadsWith.ownComments_eq (leads : item.LeadsWith comments) :
    item.ownComments = comments ++ item.trailing := by
  rcases leads with ⟨none, own⟩ | ⟨first, others, decorated, none, own, noTrailing, bare⟩
  · rw [ownComments, none, own]
    rfl
  · have others_nil : others.flatMap (fun other => other.leading ++ other.trailing) = [] := by
      rw [List.flatMap_eq_nil_iff]
      intro other isOther
      rw [(bare other isOther).1, (bare other isOther).2]
      rfl
    rw [ownComments, decorated, List.flatMap_cons, others_nil, none, own, noTrailing]
    simp

/-! ## The comments after the last item -/

theorem attachTrailing_cons {next : Node} {rest : List Node} :
    attachTrailing comments (item :: next :: rest) =
      (item :: (attachTrailing comments (next :: rest)).1,
        (attachTrailing comments (next :: rest)).2) := rfl

theorem attachTrailing_concat (others : List Node) (last : Node) :
    attachTrailing comments (others ++ [last]) = (others ++ [last.addTrailing comments], []) := by
  induction others with
  | nil => rfl
  | cons other rest ih =>
      cases rest with
      | nil => rfl
      | cons next rest =>
          simp only [List.cons_append] at ih ⊢
          rw [attachTrailing_cons, ih]

/-- Comments after a list get onto its last item and no other. -/
theorem exists_attachTrailing {items : List Node} (nonempty : items ≠ [])
    (bare : ∀ item ∈ items, item.trailing = []) :
    ∃ others last, attachTrailing comments items = (others ++ [last], []) ∧
      last.trailing = comments ∧ ∀ other ∈ others, other.trailing = [] := by
  obtain rfl | ⟨others, last, rfl⟩ := List.eq_nil_or_concat items
  · exact absurd rfl nonempty
  · rw [List.concat_eq_append] at bare ⊢
    refine ⟨others, last.addTrailing comments, attachTrailing_concat others last, ?_, ?_⟩
    · change last.trailing ++ comments = comments
      rw [bare last (by simp), List.nil_append]
    · intro other isOther
      exact bare other (List.mem_append_left _ isOther)

theorem map_bare_attachTrailing (items : List Node) :
    (attachTrailing comments items).1.map bare = items.map bare := by
  rcases List.eq_nil_or_concat items with rfl | ⟨others, last, rfl⟩
  · rfl
  · rw [List.concat_eq_append, attachTrailing_concat, List.map_append, List.map_append]
    rfl

theorem ownComments_addTrailing :
    (item.addTrailing comments).ownComments = item.ownComments ++ comments := by
  change _ ++ (item.trailing ++ comments) = _
  rw [← List.append_assoc]
  rfl

/-- Comments after a list go to its end, whether they get onto an item or are left over. -/
theorem ownComments_attachTrailing (items : List Node) :
    (attachTrailing comments items).1.flatMap ownComments ++ (attachTrailing comments items).2 =
      items.flatMap ownComments ++ comments := by
  rcases List.eq_nil_or_concat items with rfl | ⟨others, last, rfl⟩
  · rfl
  · simp only [List.concat_eq_append, attachTrailing_concat, List.flatMap_append,
      List.flatMap_singleton, ownComments_addTrailing, List.append_assoc, List.append_nil]

end Node

/-! ## Groups -/

namespace Tree

/-- Whether a part of a statement list becomes an item of it. -/
def isItem (tree : Tree) : Bool :=
  !tree.isComment && !tree.isSkipped

section

variable {bound : Nat}

/-- The items among the parts of a statement list. -/
def itemsOf (parts : List (Part bound)) : List (Part bound) :=
  parts.filter fun part => part.1.isItem

/-- The comments among the parts of a statement list. -/
def commentsOf (source : Source) (parts : List (Part bound)) : List Comment :=
  (parts.filter fun part => part.1.isComment).map fun part => source.comment part.1

/-- What a statement list makes of the nodes of its items. -/
structure Attached (source : Source) (parts : List (Part bound)) (nodes items : List Node)
    (leftover : List Comment) : Prop where
  /-- There is one item for each node, in order; it differs from the node only in its comments. -/
  bare : items.map Node.bare = nodes
  /-- The comments before the first item lead it. -/
  first : ∀ gap part later, parts = gap ++ part :: later → itemsOf gap = [] → part.1.isItem →
    ∃ item, items[0]? = some item ∧ item.LeadsWith (commentsOf source gap)
  /-- The comments between two items that follow each other lead the second. -/
  between : ∀ earlier last gap part later, parts = earlier ++ last :: (gap ++ part :: later) →
    last.1.isItem → itemsOf gap = [] → part.1.isItem →
    ∃ item, items[(itemsOf earlier).length + 1]? = some item ∧
      item.LeadsWith (commentsOf source gap)
  /-- The comments after the last item trail it, and no other item has comments after it. -/
  trailing : ∀ earlier part gap, parts = earlier ++ part :: gap → part.1.isItem →
    itemsOf gap = [] → ∃ others last, items = others ++ [last] ∧
      last.trailing = commentsOf source gap ∧ (∀ other ∈ others, other.trailing = []) ∧
      leftover = []
  /-- Without items, all comments are left over. -/
  itemless : itemsOf parts = [] → items = [] ∧ leftover = commentsOf source parts
  /-- The comments on the items and those left over are the comments of the list. -/
  conserved : items.flatMap Node.ownComments ++ leftover = commentsOf source parts

variable {source : Source} {pending : List Comment} {part : Part bound}
  {earlier gap rest parts : List (Part bound)}

theorem itemsOf_cons_item (isItem : part.1.isItem) :
    itemsOf (part :: rest) = part :: itemsOf rest :=
  List.filter_cons_of_pos isItem

theorem itemsOf_cons_other (isOther : ¬part.1.isItem) : itemsOf (part :: rest) = itemsOf rest :=
  List.filter_cons_of_neg isOther

theorem isComment_eq_false (isItem : part.1.isItem) : part.1.isComment = false := by
  simp only [Tree.isItem, Bool.and_eq_true, Bool.not_eq_true'] at isItem
  exact isItem.1

theorem commentsOf_cons_other (isOther : part.1.isComment = false) :
    commentsOf source (part :: rest) = commentsOf source rest := by
  simp [commentsOf, isOther]

theorem commentsOf_cons_comment (isComment : part.1.isComment) :
    commentsOf source (part :: rest) = source.comment part.1 :: commentsOf source rest := by
  simp [commentsOf, isComment]

theorem groupsFrom_item (isItem : part.1.isItem) :
    groupsFrom source pending (part :: rest) =
      (⟨pending, part⟩ :: (groupsFrom source [] rest).1, (groupsFrom source [] rest).2) := by
  simp only [Tree.isItem, Bool.and_eq_true, Bool.not_eq_true'] at isItem
  simp [groupsFrom, isItem]

/-- Comments are taken along to the next item; what is passed over leaves no trace. -/
theorem groupsFrom_other (isOther : ¬part.1.isItem) :
    groupsFrom source pending (part :: rest) =
      groupsFrom source (pending ++ commentsOf source [part]) rest := by
  cases isComment : part.1.isComment with
  | true =>
      rw [commentsOf_cons_comment isComment]
      simp [groupsFrom, isComment, commentsOf]
  | false =>
      have skipped : part.1.isSkipped = true := by simpa [isItem, isComment] using isOther
      rw [commentsOf_cons_other isComment]
      simp [groupsFrom, isComment, skipped, commentsOf]

theorem commentsOf_append :
    commentsOf source (earlier ++ rest) = commentsOf source earlier ++ commentsOf source rest := by
  simp [commentsOf]

/-- A stretch without items only adds its comments to those that are pending. -/
theorem groupsFrom_gap (noItem : itemsOf gap = []) :
    groupsFrom source pending (gap ++ rest) =
      groupsFrom source (pending ++ commentsOf source gap) rest := by
  induction gap generalizing pending with
  | nil => simp [commentsOf]
  | cons part gap ih =>
      have isOther : ¬part.1.isItem := by
        intro isItem
        rw [itemsOf_cons_item isItem] at noItem
        exact List.cons_ne_nil _ _ noItem
      rw [itemsOf_cons_other isOther] at noItem
      rw [List.cons_append, groupsFrom_other isOther, ih noItem, List.append_assoc,
        ← commentsOf_append]
      rfl

/-- The groups after an item do not depend on what precedes it. -/
theorem exists_groupsFrom_append (source : Source) (pending : List Comment)
    (isItem : part.1.isItem) :
    ∃ groups : List (Group bound), groups.length = (itemsOf earlier).length + 1 ∧
      groupsFrom source pending (earlier ++ part :: rest) =
        (groups ++ (groupsFrom source [] rest).1, (groupsFrom source [] rest).2) := by
  induction earlier generalizing pending with
  | nil => exact ⟨[⟨pending, part⟩], rfl, groupsFrom_item isItem⟩
  | cons head earlier ih =>
      by_cases headIsItem : head.1.isItem
      · obtain ⟨groups, counted, same⟩ := ih []
        refine ⟨⟨pending, head⟩ :: groups, ?_, ?_⟩
        · rw [itemsOf_cons_item headIsItem, List.length_cons, List.length_cons, counted]
        · rw [List.cons_append, groupsFrom_item headIsItem, same]
          rfl
      · obtain ⟨groups, counted, same⟩ := ih (pending ++ commentsOf source [head])
        refine ⟨groups, ?_, ?_⟩
        · rw [itemsOf_cons_other headIsItem, counted]
        · rw [List.cons_append, groupsFrom_other headIsItem, same]

theorem map_item_groupsFrom (source : Source) (pending : List Comment) :
    (groupsFrom source pending parts).1.map Group.item = itemsOf parts := by
  induction parts generalizing pending with
  | nil => rfl
  | cons part rest ih =>
      by_cases isItem : part.1.isItem
      · rw [groupsFrom_item isItem, itemsOf_cons_item isItem, List.map_cons, ih]
      · rw [groupsFrom_other isItem, itemsOf_cons_other isItem, ih]

theorem groupsFrom_itemless (noItem : itemsOf parts = []) :
    groupsFrom source [] parts = ([], commentsOf source parts) := by
  have all : groupsFrom source [] (parts ++ []) = groupsFrom source ([] ++ _) [] :=
    groupsFrom_gap noItem
  rwa [List.append_nil] at all

/-- The groups and what comes after them have all the comments. -/
theorem comments_groupsFrom :
    (groupsFrom source pending parts).1.flatMap Group.comments ++
      (groupsFrom source pending parts).2 = pending ++ commentsOf source parts := by
  induction parts generalizing pending with
  | nil => simp [groupsFrom, commentsOf]
  | cons part rest ih =>
      by_cases isItem : part.1.isItem
      · rw [groupsFrom_item isItem, commentsOf_cons_other (isComment_eq_false isItem)]
        rw [List.flatMap_cons, List.append_assoc, ih, List.nil_append]
      · rw [groupsFrom_other isItem, ih, List.append_assoc, ← commentsOf_append]
        rfl

/-! ## The whole list -/

variable {groups : List (Group bound)} {after : List Comment} {nodes items : List Node}

/-- The nodes of items with the comments of their groups in front. -/
def led (groups : List (Group bound)) (nodes : List Node) : List Node :=
  (groups.zip nodes).map fun pair => pair.2.attachLeading pair.1.comments

/-- Each item is led by the comments of its group. -/
abbrev LedBy (groups : List (Group bound)) (items : List Node) : Prop :=
  List.Forall₂ (fun group item => item.LeadsWith group.comments) groups items

theorem LedBy.attachTrailing (leads : LedBy groups items) :
    LedBy groups (Node.attachTrailing after items).1 := by
  induction leads with
  | nil => exact .nil
  | cons head tail ih =>
      cases tail with
      | nil => exact .cons head.addTrailing .nil
      | cons next rest => exact .cons head ih

theorem LedBy.getElem? (leads : LedBy groups items) {index : Nat} {group : Group bound}
    (isGroup : groups[index]? = some group) :
    ∃ item, items[index]? = some item ∧ item.LeadsWith group.comments := by
  induction leads generalizing index with
  | nil => exact absurd isGroup (by simp)
  | cons head tail ih =>
      cases index with
      | zero =>
          cases isGroup
          exact ⟨_, rfl, head⟩
      | succ index => exact ih isGroup

theorem LedBy.flatMap_ownComments (leads : LedBy groups items)
    (bare : ∀ item ∈ items, item.trailing = []) :
    items.flatMap Node.ownComments = groups.flatMap Group.comments := by
  induction leads with
  | nil => rfl
  | cons head tail ih =>
      have own := head.ownComments_eq
      rw [bare _ (List.mem_cons_self ..), List.append_nil] at own
      rw [List.flatMap_cons, List.flatMap_cons, own,
        ih fun item isItem => bare item (List.mem_cons_of_mem _ isItem)]

theorem ledBy_led (fresh : ∀ node ∈ nodes, node.IsUncommented)
    (counted : groups.length = nodes.length) : LedBy groups (led groups nodes) := by
  induction groups generalizing nodes with
  | nil => exact .nil
  | cons group groups ih =>
      cases nodes with
      | nil => exact absurd counted (by simp)
      | cons node nodes =>
          obtain ⟨ofNode, ofNodes⟩ := List.forall_mem_cons.1 fresh
          exact .cons ofNode.leadsWith (ih ofNodes (Nat.succ.inj counted))

theorem trailing_led (fresh : ∀ node ∈ nodes, node.IsUncommented) :
    ∀ item ∈ led groups nodes, item.trailing = [] := by
  intro item isItem
  obtain ⟨⟨group, node⟩, isPair, rfl⟩ := List.mem_map.1 isItem
  rw [Node.trailing_attachLeading]
  exact (fresh node (List.of_mem_zip isPair).2).own.2

theorem map_bare_led (fresh : ∀ node ∈ nodes, node.IsUncommented)
    (counted : groups.length = nodes.length) : (led groups nodes).map Node.bare = nodes := by
  have each (pair : Group bound × Node) (isPair : pair ∈ groups.zip nodes) :
      (pair.2.attachLeading pair.1.comments).bare = pair.2 := by
    rw [Node.bare_attachLeading]
    exact (fresh pair.2 (List.of_mem_zip isPair).2).bare_eq
  calc (led groups nodes).map Node.bare
      = (groups.zip nodes).map Prod.snd := by
        rw [led, List.map_map]
        exact List.map_congr_left each
    _ = nodes := List.map_snd_zip (Nat.le_of_eq counted.symm)

/-- Items that are led by their groups, with the comments after the list attached, are what the list
has to make of its parts. -/
theorem attached_attachTrailing (source : Source) (parts : List (Part bound)) {nodes : List Node}
    (fresh : ∀ node ∈ nodes, node.IsUncommented)
    (counted : nodes.length = (itemsOf parts).length) :
    Attached source parts nodes
      (Node.attachTrailing (groupsFrom source [] parts).2
        (led (groupsFrom source [] parts).1 nodes)).1
      (Node.attachTrailing (groupsFrom source [] parts).2
        (led (groupsFrom source [] parts).1 nodes)).2 := by
  have sameLength : (groupsFrom source [] parts).1.length = nodes.length := by
    rw [counted, ← map_item_groupsFrom source [], List.length_map]
  have leads := ledBy_led fresh sameLength
  have bare : ∀ item ∈ led (groupsFrom source [] parts).1 nodes, item.trailing = [] :=
    trailing_led fresh
  constructor
  case bare =>
    rw [Node.map_bare_attachTrailing, map_bare_led fresh sameLength]
  case first =>
    rintro gap part later rfl noItem isItem
    have isGroup : (groupsFrom source [] (gap ++ part :: later)).1[0]? =
        some ⟨commentsOf source gap, part⟩ := by
      rw [groupsFrom_gap noItem, groupsFrom_item isItem]
      rfl
    exact leads.attachTrailing.getElem? isGroup
  case between =>
    rintro earlier last gap part later rfl lastIsItem noItem isItem
    have isGroup : (groupsFrom source [] (earlier ++ last :: (gap ++ part :: later))).1[
        (itemsOf earlier).length + 1]? = some ⟨commentsOf source gap, part⟩ := by
      obtain ⟨groups, counted, same⟩ := exists_groupsFrom_append source [] lastIsItem
      rw [same, groupsFrom_gap noItem, groupsFrom_item isItem, ← counted]
      simp
    exact leads.attachTrailing.getElem? isGroup
  case trailing =>
    rintro earlier part gap rfl isItem noItem
    have nonempty : led (groupsFrom source [] (earlier ++ part :: gap)).1 nodes ≠ [] := by
      intro none
      have noNodes : (itemsOf (earlier ++ part :: gap)).length = 0 := by
        rw [← counted, ← sameLength, leads.length_eq, none, List.length_nil]
      have isIn : part ∈ itemsOf (earlier ++ part :: gap) :=
        List.mem_filter.2 ⟨by simp, isItem⟩
      rw [List.length_eq_zero_iff.1 noNodes] at isIn
      exact List.not_mem_nil isIn
    have after : (groupsFrom source [] (earlier ++ part :: gap)).2 = commentsOf source gap := by
      obtain ⟨groups, -, same⟩ := @exists_groupsFrom_append _ part earlier gap source [] isItem
      rw [same, groupsFrom_itemless noItem]
    obtain ⟨others, last, same, onLast, onOthers⟩ := Node.exists_attachTrailing nonempty bare
    rw [same]
    exact ⟨others, last, rfl, onLast.trans after, onOthers, rfl⟩
  case itemless =>
    intro noItem
    rw [groupsFrom_itemless noItem]
    exact ⟨rfl, rfl⟩
  case conserved =>
    rw [Node.ownComments_attachTrailing, leads.flatMap_ownComments bare, comments_groupsFrom,
      List.nil_append]

end

/-- The nodes of the items of a statement list, before they get comments. -/
def itemNodes (source : Source) (tree : Tree) : NodeBuilder (List Node) :=
  (itemsOf tree.namedParts).mapM fun part => node source part.1

theorem mapM_led {bound : Nat} (convert : Convert bound) (groups : List (Group bound)) :
    groups.mapM (fun group => do return (← convert group.item).attachLeading group.comments) =
      led groups <$> (groups.map Group.item).mapM convert := by
  induction groups with
  | nil => rfl
  | cons group groups ih =>
      simp only [List.mapM_cons, ih, List.map_cons, map_bind, bind_assoc, pure_bind, bind_map_left,
        map_pure]
      rfl

/-- A statement list turns its items into nodes and then attaches the comments. -/
theorem statements_eq (source : Source) (tree : Tree) :
    statements source tree (fun part => node source part.1) =
      (fun nodes => Node.attachTrailing (tree.groups source).2
        (led (tree.groups source).1 nodes)) <$> itemNodes source tree := by
  have items : (tree.groups source).1.map Group.item = itemsOf tree.namedParts :=
    map_item_groupsFrom source []
  rw [itemNodes, ← items]
  unfold statements
  dsimp only
  rw [mapM_led fun part : Part tree.size => node source part.1, bind_map_left, map_eq_pure_bind]

theorem itemNodes_uncommented (source : Source) (tree : Tree) :
    NodeBuilder.Yields (fun nodes => ∀ node ∈ nodes, node.IsUncommented) (itemNodes source tree) :=
  .mapM fun part _ => node_uncommented source part.1

/-- A statement list ends as the work on its items does. If that makes nodes, the list has an item
for each of them, and every comment of the list is on one of the items, before or after it as it
stands in the source, or left over if there is no item. -/
theorem statements_attach_comments (source : Source) (tree : Tree) (before : NodeId) :
    (∀ fault, (itemNodes source tree).run before = .error fault →
      (statements source tree fun part => node source part.1).run before = .error fault) ∧
    ∀ nodes after, (itemNodes source tree).run before = .ok (nodes, after) →
      nodes.length = (itemsOf tree.namedParts).length ∧
      ∃ items leftover,
        (statements source tree fun part => node source part.1).run before =
          .ok ((items, leftover), after) ∧
        Attached source tree.namedParts nodes items leftover := by
  rw [statements_eq, StateT.run_map]
  constructor
  · intro fault failed
    rw [failed]
    rfl
  · intro nodes after made
    have fresh := itemNodes_uncommented source tree made
    have counted := NodeBuilder.Yields.length_mapM made
    refine ⟨counted, _, _, ?_, attached_attachTrailing source tree.namedParts fresh counted⟩
    rw [made]
    rfl

end Tree

end DocHarvest
