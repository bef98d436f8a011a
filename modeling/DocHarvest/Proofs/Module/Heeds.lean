import DocHarvest.Proofs.Module.Recorded

/-!
# The comments that a step heeds

A documentation comment that defines a type or an external thing gets a record of its own, whatever
node it stands at. `Run.Heeds` says of a step, however it ends, that the virtual records it adds are
made from definitions among the comments offered to it, each at most once and in order, and from all
of them if nothing goes wrong.
-/

namespace DocHarvest

open Run

/-! ## Comments and where they stand -/

/-- The lists of comments that a node carries. -/
inductive Side
  | leading
  | trailing
  | inner
deriving DecidableEq

/-- A comment with the node and the list in which it stands, and its number in the list. -/
structure Occasion where
  node : NodeId
  side : Side
  number : Nat
  comment : Comment
deriving DecidableEq

namespace Occasion

/-- The comments of a list with their numbers. -/
def list (node : NodeId) (side : Side) (comments : List Comment) : List Occasion :=
  comments.zipIdx.map fun numbered => ⟨node, side, numbered.2, numbered.1⟩

variable {node : NodeId} {side : Side} {comments : List Comment}

@[simp]
theorem map_comment_list : (list node side comments).map comment = comments := by
  simp only [list, List.map_map]
  exact List.zipIdx_map_fst 0 comments

theorem nodup_list : (list node side comments).Nodup := by
  have numbers : (list node side comments).map number = List.range comments.length := by
    simp only [list, List.map_map]
    exact (List.zipIdx_map_snd 0 comments).trans List.range_eq_range'.symm
  exact List.Nodup.of_map number (numbers ▸ List.nodup_range)

theorem of_mem_list {occasion : Occasion} (isMember : occasion ∈ list node side comments) :
    occasion.node = node ∧ occasion.side = side ∧ occasion.comment ∈ comments := by
  have isComment : occasion.comment ∈ (list node side comments).map comment :=
    List.mem_map_of_mem isMember
  rw [map_comment_list] at isComment
  rcases List.mem_map.1 isMember with ⟨numbered, -, rfl⟩
  exact ⟨rfl, rfl, isComment⟩

end Occasion

namespace Node

/-- The comments before a node. -/
def leadingOccasions (node : Node) : List Occasion :=
  Occasion.list node.id .leading node.leading

/-- The comments after a node. -/
def trailingOccasions (node : Node) : List Occasion :=
  Occasion.list node.id .trailing node.trailing

/-- The comments before the first decorator of a node. -/
def decoratorOccasions (node : Node) : List Occasion :=
  match node.shape.decorators with
  | first :: _ => first.leadingOccasions
  | [] => []

@[simp]
theorem map_comment_decoratorOccasions (node : Node) :
    node.decoratorOccasions.map Occasion.comment = Export.decoratorComments node := by
  unfold decoratorOccasions Export.decoratorComments
  cases node.shape.decorators with
  | nil => rfl
  | cons first rest => exact Occasion.map_comment_list

end Node

/-! ## Records of definitions -/

/-- Whether the records of a category are made of comments alone. -/
def Category.isVirtual : Category → Bool
  | .virtualTypedef | .virtualExternal => true
  | _ => false

theorem Category.isVirtual_of_isCode {category : Category} (isCode : category.isCode) :
    category.isVirtual = false := by
  cases category <;> first | rfl | cases isCode

namespace Comment

/-- Whether a comment defines a type or an external thing. -/
def defines (comment : Comment) : Bool :=
  comment.isDoc && (Decision.ofTags? comment.tags).isSome

theorem isDoc_undocumented : undocumented.isDoc := by decide +kernel

theorem defines_undocumented : undocumented.defines = false := by decide +kernel

/-- A record, up to what exports change, is made of a comment by the tags that define something. -/
def Makes (scope : Scope) (comment : Comment) (outline : Doc) : Prop :=
  ∃ (draft : Draft) (category : Category) (doc : Doc), draft.scope = scope ∧
    draft.tags = comment.tags ∧ Decision.ofTags? comment.tags = some category ∧
    draft.build category = .ok doc ∧ outline = doc.outline

end Comment

/-- The comments among some that define something. -/
def Occasion.definitions (occasions : List Occasion) : List Occasion :=
  occasions.filter fun occasion => occasion.comment.defines

/-- The records among some that are made of comments alone, up to what exports change. -/
def Doc.virtuals (docs : List Doc) : List Doc :=
  (docs.map Doc.outline).filter fun doc => doc.category.isVirtual

namespace Doc

theorem virtuals_append (docs more : List Doc) :
    virtuals (docs ++ more) = virtuals docs ++ virtuals more := by
  simp [virtuals]

theorem virtuals_eq_nil {docs : List Doc} (ordinary : ∀ doc ∈ docs, doc.category.isVirtual = false) :
    virtuals docs = [] := by
  refine List.filter_eq_nil_iff.2 fun outline isOutline => ?_
  rcases List.mem_map.1 isOutline with ⟨doc, isDoc, rfl⟩
  simp [Doc.outline, ordinary doc isDoc]

end Doc

theorem Decision.isVirtual_of_ofTags? {tags : List Tag} {category : Category}
    (tagged : ofTags? tags = some category) : category.isVirtual := by
  rcases category_of_ofTags? tagged with rfl | rfl <;> rfl

namespace Run

variable {scope : Scope} {before after : Progress}

theorem Reaches.virtuals {kinds : Category → Prop}
    (ordinary : ∀ category, kinds category → category.isVirtual = false)
    (reaches : Reaches scope kinds before after) :
    Doc.virtuals after.store.docs = Doc.virtuals before.store.docs := by
  induction reaches with
  | refl => rfl
  | tail _ effect ih =>
      rw [← ih]
      cases effect with
      | quiet store _ => rw [store]
      | draw store _ => rw [store, Store.draw]
      | record doc _ _ _ _ kind store _ =>
          have nothing : Doc.virtuals [doc] = [] :=
            Doc.virtuals_eq_nil (by simp [ordinary _ kind])
          rw [store, Doc.virtuals_append, nothing, List.append_nil]
      | revise id change kept store _ =>
          rw [Doc.virtuals, Doc.virtuals, store, Store.outlines_modify _ id kept]
      | note _ _ store _ => rw [store]

/-- The virtual records that a step adds are made from some of the definitions offered to it. -/
structure Heeds {α : Type} (scope : Scope) (offered : List Occasion) (before : Progress)
    (outcome : Except Fault α) (after : Progress) : Prop where
  invalid : before.invalid <+: after.invalid
  told : ∃ told added, told.Sublist (Occasion.definitions offered) ∧
    Doc.virtuals after.store.docs = Doc.virtuals before.store.docs ++ added ∧
    List.Forall₂ (fun occasion outline => occasion.comment.Makes scope outline) told added ∧
    (scope.filter = none → (∃ value, outcome = .ok value) → after.invalid = before.invalid →
      told = Occasion.definitions offered)

namespace Heeds

variable {α β : Type} {offered others : List Occasion} {outcome : Except Fault β}

theorem nothing (invalid : before.invalid <+: after.invalid)
    (virtuals : Doc.virtuals after.store.docs = Doc.virtuals before.store.docs) :
    Heeds scope [] before outcome after :=
  ⟨invalid, [], [], List.Sublist.refl _, by rw [virtuals, List.append_nil], .nil, fun _ _ _ => rfl⟩

theorem ofSound {kinds : Category → Prop} {step : Run β} (sound : Sound scope kinds step)
    (ordinary : ∀ category, kinds category → category.isVirtual = false)
    (ended : Ends step before outcome after) : Heeds scope [] before outcome after :=
  nothing (sound.reaches ended).keeps_invalid ((sound.reaches ended).virtuals ordinary)

theorem trans {middle : Progress} {value : α} (first : Heeds scope offered before (.ok value) middle)
    (second : Heeds scope others middle outcome after) :
    Heeds scope (offered ++ others) before outcome after where
  invalid := first.invalid.trans second.invalid
  told := by
    rcases first.told with ⟨early, added, areEarly, stored, made, all⟩
    rcases second.told with ⟨late, more, areLate, storedToo, madeToo, allToo⟩
    refine ⟨early ++ late, added ++ more, ?_, ?_, List.rel_append made madeToo, ?_⟩
    · rw [Occasion.definitions, List.filter_append]
      exact areEarly.append areLate
    · rw [storedToo, stored, List.append_assoc]
    · intro unfiltered succeeded nothing
      rcases invalid_unchanged first.invalid second.invalid nothing with ⟨same, sameToo⟩
      rw [all unfiltered ⟨value, rfl⟩ same, allToo unfiltered succeeded sameToo]
      simp [Occasion.definitions]

/-- A step that has failed has not come to the rest of what is offered. -/
theorem fail {fault : Fault} (failed : Heeds scope offered before (.error fault : Except Fault α)
    after) (others : List Occasion) :
    Heeds scope (offered ++ others) before (.error fault : Except Fault β) after where
  invalid := failed.invalid
  told := by
    rcases failed.told with ⟨told, added, areTold, stored, made, -⟩
    refine ⟨told, added, ?_, stored, made, by simp⟩
    rw [Occasion.definitions, List.filter_append]
    exact areTold.trans (List.sublist_append_left _ _)

theorem congr (heeds : Heeds scope offered before outcome after)
    (same : Occasion.definitions offered = Occasion.definitions others) :
    Heeds scope others before outcome after := by
  rcases heeds with ⟨longer, told⟩
  rw [same] at told
  exact ⟨longer, told⟩

/-- The outcome matters only where it says that all has gone well. -/
theorem recast {middle : Progress} {other : Except Fault α}
    (heeds : Heeds scope offered before other middle) (store : after.store = middle.store)
    (invalid : middle.invalid <+: after.invalid)
    (well : (∃ value, outcome = .ok value) → after.invalid = middle.invalid →
      ∃ value, other = .ok value) : Heeds scope offered before outcome after where
  invalid := heeds.invalid.trans invalid
  told := by
    rcases heeds.told with ⟨told, added, areTold, stored, made, all⟩
    refine ⟨told, added, areTold, by rw [store, stored], made, fun unfiltered succeeded nothing => ?_⟩
    rcases invalid_unchanged heeds.invalid invalid nothing with ⟨same, sameToo⟩
    exact all unfiltered (well succeeded sameToo) same

/-- A step that starts like another one, apart from what records are not made of. -/
theorem startsAt {other : Progress} (heeds : Heeds scope offered before outcome after)
    (invalid : before.invalid = other.invalid) (store : before.store.docs = other.store.docs) :
    Heeds scope offered other outcome after := by
  rcases heeds with ⟨longer, told⟩
  rw [invalid] at longer told
  rw [store] at told
  exact ⟨longer, told⟩

end Heeds

end Run

end DocHarvest
