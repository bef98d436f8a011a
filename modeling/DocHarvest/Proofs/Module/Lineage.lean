import DocHarvest.Module.Scope
import DocHarvest.Proofs.Node.Tree

/-!
# Lineages in the table of parents

The walk notes the parent of every node that it reaches, and looks for classes and exports around a
node by following these notes. The chain that it follows is the way out of the place of the node, save
that it leaves out declarators where a value was documented in place of its declaration. As no search
stops at a declarator, `findUp?_eq` answers every search from the program alone.
-/

namespace DocHarvest

/-- Whether a layer is a declarator. -/
def Shape.isDeclarator {α : Type} : Shape α → Bool
  | .declarator .. => true
  | _ => false

theorem Shape.isExport_of_isDeclarator {α : Type} {shape : Shape α}
    (declarator : shape.isDeclarator) : shape.isExport = false := by
  unfold Shape.isDeclarator at declarator
  split at declarator
  · rfl
  · cases declarator

theorem Shape.isClass_of_isDeclarator {α : Type} {shape : Shape α}
    (declarator : shape.isDeclarator) : shape.isClass = false := by
  unfold Shape.isDeclarator at declarator
  split at declarator
  · rfl
  · cases declarator

/-- A chain is a way out of a place with some declarators left out. -/
inductive Thins : List Node → List Node → Prop
  | nil : Thins [] []
  | keep {chain above : List Node} (node : Node) (rest : Thins chain above) :
      Thins (node :: chain) (node :: above)
  | skip {chain above : List Node} {node : Node} (declarator : node.shape.isDeclarator)
      (rest : Thins chain above) : Thins chain (node :: above)

namespace Thins

variable {chain above : List Node}

theorem sublist (thins : Thins chain above) : chain.Sublist above := by
  induction thins with
  | nil => exact List.Sublist.refl _
  | keep node _ ih => exact ih.cons_cons node
  | skip _ _ ih => exact ih.cons _

theorem skipAll {skipped : List Node} (declarators : ∀ node ∈ skipped, node.shape.isDeclarator)
    (thins : Thins chain above) : Thins chain (skipped ++ above) := by
  induction skipped with
  | nil => exact thins
  | cons node skipped ih =>
      refine .skip (declarators node (List.mem_cons_self ..)) (ih fun other isSkipped => ?_)
      exact declarators other (List.mem_cons_of_mem node isSkipped)

theorem find?_eq {test : Node → Bool}
    (passes : ∀ node : Node, node.shape.isDeclarator → test node = false)
    (thins : Thins chain above) : chain.find? test = above.find? test := by
  induction thins with
  | nil => rfl
  | keep node _ ih => rw [List.find?_cons, List.find?_cons, ih]
  | skip declarator _ ih => rw [List.find?_cons, passes _ declarator, ih]

end Thins

namespace Links

variable {links : Links}

/-- A chain of parents that ends where no parent is noted. -/
def Leads (links : Links) : NodeId → List Node → Prop
  | id, [] => links.parentOf id = none
  | id, parent :: chain => links.parentOf id = some parent ∧ links.Leads parent.id chain

theorem ancestorsWithin_eq {id : NodeId} {chain : List Node} (leads : links.Leads id chain)
    {fuel : Nat} (enough : chain.length ≤ fuel) : links.ancestorsWithin fuel id = chain := by
  induction chain generalizing id fuel with
  | nil =>
      cases fuel with
      | zero => rfl
      | succ fuel =>
          have unknown : links.parentOf id = none := leads
          rw [ancestorsWithin, unknown]
  | cons parent chain ih =>
      cases fuel with
      | zero => cases enough
      | succ fuel =>
          rw [ancestorsWithin, leads.1]
          simp only
          rw [ih leads.2 (Nat.le_of_succ_le_succ enough)]

/-- The nodes that have parents on a chain are all in the table, so the chain is no longer than it. -/
theorem length_le_of_leads {id : NodeId} {chain : List Node} (leads : links.Leads id chain)
    (distinct : (id :: chain.map Node.id).Nodup) : chain.length ≤ links.parents.size := by
  have known : (id :: chain.map Node.id).dropLast ⊆ links.parents.keys := by
    clear distinct
    induction chain generalizing id with
    | nil => exact List.nil_subset _
    | cons parent chain ih =>
        refine List.cons_subset.2 ⟨?_, ih leads.2⟩
        have noted : (links.parents[id]?).join = some parent := leads.1
        rw [Std.TreeMap.mem_keys, Std.TreeMap.mem_iff_isSome_getElem?]
        cases found : links.parents[id]? with
        | none => simp [found] at noted
        | some entry => rfl
  have shorter := (distinct.sublist (List.dropLast_sublist _)).length_le_of_subset known
  simpa [Std.TreeMap.length_keys] using shorter

theorem ancestors_eq {id : NodeId} {chain : List Node} (leads : links.Leads id chain)
    (distinct : (id :: chain.map Node.id).Nodup) : links.ancestors id = chain :=
  ancestorsWithin_eq leads (length_le_of_leads leads distinct)

end Links

/-- A parent that the walk may note for a place: the node around it, or around its declarator. -/
def Place.Follows (place : Place) (parent : Option Node) : Prop :=
  ∃ skipped direct rest, place.above = skipped ++ direct :: rest ∧ parent = some direct ∧
    ∀ node ∈ skipped, node.shape.isDeclarator

theorem Place.follows_outer (node outer : Node) (rest : List Node) :
    Place.Follows ⟨node, outer :: rest⟩ (some outer) :=
  ⟨[], outer, rest, rfl, rfl, by simp⟩

theorem Place.follows_declaration (node : Node) {declarator : Node} (outer : Node)
    (rest : List Node) (isDeclarator : declarator.shape.isDeclarator) :
    Place.Follows ⟨node, declarator :: outer :: rest⟩ (some outer) :=
  ⟨[declarator], outer, rest, rfl, rfl, by simpa using isDeclarator⟩

theorem Shape.isDeclarator_of_initial? {node value : Node} (found : node.initial? = some value) :
    node.shape.isDeclarator := by
  unfold Node.initial? at found
  split at found
  · rename_i shape
    rw [shape]
    rfl
  · cases found

namespace Links

variable {links : Links} {program : Node}

/-- Whatever is noted about the places of a program fits the program. -/
def Fits (links : Links) (program : Node) : Prop :=
  ∀ place ∈ program.places, ∀ parent, links.parents[place.node.id]? = some parent →
    place.Follows parent

/-- Something is noted about a place, unless it is the whole program. -/
def Knows (links : Links) (place : Place) : Prop :=
  place.above ≠ [] → (links.parents[place.node.id]?).isSome

theorem exists_leads (fits : links.Fits program) {place : Place} (isPlace : place ∈ program.places)
    (known : links.Knows place) (knowsOuters : ∀ outer ∈ Place.outers place.above, links.Knows outer) :
    ∃ chain, links.Leads place.node.id chain ∧ Thins chain place.above := by
  induction size : place.above.length using Nat.strongRecOn generalizing place with
  | ind size ih =>
      cases noted : links.parents[place.node.id]? with
      | none =>
          have isRoot : place.above = [] := by
            by_cases same : place.above = []
            · exact same
            · have := known same
              rw [noted] at this
              cases this
          rw [isRoot]
          exact ⟨[], by simp [Leads, parentOf, noted], .nil⟩
      | some parent =>
          rcases fits place isPlace parent noted with
            ⟨skipped, direct, rest, above, rfl, declarators⟩
          have isOuter : ⟨direct, rest⟩ ∈ Place.outers place.above := by
            rw [above]
            exact Place.outers_append_subset skipped _ (List.mem_cons_self ..)
          have outersToo : Place.outers rest ⊆ Place.outers place.above := by
            rw [above]
            exact List.Subset.trans (List.subset_cons_self _ _)
              (Place.outers_append_subset skipped (direct :: rest))
          have shorter := Place.length_above_lt_of_mem_outers isOuter
          rcases ih _ (size ▸ shorter) (Place.outers_subset_places isPlace isOuter) (knowsOuters _
            isOuter) (fun outer isFarther => knowsOuters outer (outersToo isFarther)) rfl with
            ⟨chain, leads, thins⟩
          refine ⟨direct :: chain, ⟨?_, leads⟩, ?_⟩
          · simp [parentOf, noted]
          · rw [above]
            exact (Thins.keep direct thins).skipAll declarators

/-- A search upwards finds what stands around the place, if it stops at no declarator. -/
theorem findUp?_eq (tree : program.IsTree) (fits : links.Fits program) {place : Place}
    (isPlace : place ∈ program.places) (known : links.Knows place)
    (knowsOuters : ∀ outer ∈ Place.outers place.above, links.Knows outer)
    {suitable : Shape Node → Bool}
    (passes : ∀ node : Node, node.shape.isDeclarator → suitable node.shape = false) :
    links.findUp? place.node.id suitable =
      place.above.find? fun outer => suitable outer.shape := by
  rcases exists_leads fits isPlace known knowsOuters with ⟨chain, leads, thins⟩
  have distinct : (place.node.id :: chain.map Node.id).Nodup :=
    (Place.nodup_lineage tree.isCoherent isPlace).sublist ((thins.sublist.map Node.id).cons_cons _)
  rw [findUp?, ancestors_eq leads distinct]
  exact thins.find?_eq passes

/-! ## Programs in which nodes occur more than once -/

/-- The way to the program goes on at a node: it is the program, or its parent is noted. -/
def GoesOn (links : Links) (program node : Node) : Prop :=
  node = program ∨ (links.parentOf node.id).isSome

/-- What is noted about a node leads on along one of its places, and so on to the program. -/
structure Trails (links : Links) (program : Node) : Prop where
  root : links.parentOf program.id = none
  follows : ∀ place ∈ program.places, ∀ parent, links.parentOf place.node.id = some parent →
    ∃ way ∈ program.places, way.node.id = place.node.id ∧ way.Follows (some parent) ∧
      links.GoesOn program parent

/-- The chain that is noted for a node leads out of one of its places. -/
theorem Trails.exists_leads (trails : links.Trails program) (coherent : program.IsCoherent)
    {place : Place} (isPlace : place ∈ program.places)
    (noted : (links.parentOf place.node.id).isSome) :
    ∃ way ∈ program.places, way.node = place.node ∧
      ∃ chain, links.Leads place.node.id chain ∧ Thins chain way.above := by
  -- the parents grow in size, up to the size of the program
  induction left : sizeOf program - sizeOf place.node using Nat.strongRecOn generalizing place with
  | ind left ih =>
      rcases Option.isSome_iff_exists.1 noted with ⟨parent, isParent⟩
      rcases trails.follows place isPlace parent isParent with
        ⟨⟨node, above⟩, isWay, sameId, ⟨skipped, direct, rest, rfl, same, declarators⟩, goesOn⟩
      cases same
      have sameNode : node = place.node := coherent _ isWay _ isPlace sameId
      subst sameNode
      have isOuter : ⟨parent, rest⟩ ∈ program.places := by
        refine Place.outers_subset_places isWay (Place.outers_append_subset skipped _ ?_)
        exact List.mem_cons_self ..
      by_cases isRoot : parent = program
      · subst isRoot
        refine ⟨_, isWay, rfl, [parent], ⟨isParent, trails.root⟩, ?_⟩
        have ends : rest = [] := by
          by_cases inside : rest = []
          · exact inside
          · exact absurd rfl (Place.id_ne_of_above_ne_nil coherent isOuter inside)
        rw [ends]
        exact (Thins.keep parent .nil).skipAll declarators
      · have notedToo := goesOn.resolve_left isRoot
        have smaller : sizeOf place.node < sizeOf parent :=
          Place.sizeOf_lt_of_mem_above isWay (by simp)
        have bounded : sizeOf parent < sizeOf program := by
          refine Place.sizeOf_lt_of_mem_above isOuter (Place.program_mem_above isOuter ?_)
          rintro rfl
          exact isRoot (Node.eq_root_of_above_nil isOuter)
        rcases ih (sizeOf program - sizeOf parent) (by omega) isOuter notedToo rfl with
          ⟨⟨outer, outers⟩, isWayToo, sameOuter, chain, leads, thins⟩
        simp only at sameOuter
        subst sameOuter
        exact ⟨⟨place.node, skipped ++ outer :: outers⟩, Place.graft isWay isWayToo, rfl,
          outer :: chain, ⟨isParent, leads⟩, (Thins.keep outer thins).skipAll declarators⟩

/-- An export is found above a node exactly if there is one around one place of the node. -/
theorem Trails.any_ancestors (trails : links.Trails program) (coherent : program.IsCoherent)
    {place : Place} (isPlace : place ∈ program.places)
    (noted : (links.parentOf place.node.id).isSome) :
    ∃ way ∈ program.places, way.node = place.node ∧
      ((links.ancestors place.node.id).any fun ancestor => ancestor.shape.isExport) =
        way.above.any fun outer => outer.shape.isExport := by
  rcases trails.exists_leads coherent isPlace noted with ⟨way, isWay, same, chain, leads, thins⟩
  refine ⟨way, isWay, same, ?_⟩
  have distinct : (place.node.id :: chain.map Node.id).Nodup :=
    same ▸ (Place.nodup_lineage coherent isWay).sublist ((thins.sublist.map Node.id).cons_cons _)
  rw [ancestors_eq leads distinct, ← List.isSome_find?, ← List.isSome_find?]
  rw [thins.find?_eq fun node => Shape.isExport_of_isDeclarator]

end Links

end DocHarvest
