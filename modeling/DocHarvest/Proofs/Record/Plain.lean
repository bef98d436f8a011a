import DocHarvest.Proofs.Node.Literals
import DocHarvest.Proofs.Param.Default
import DocHarvest.Proofs.Record.Typed

/-!
# Records with plain values

The only values in a record that are made elsewhere are the defaults of its parameters. A tag gives
a default as JSON text, and a guess takes it from the literals of the program, so defaults are plain
wherever these literals are. The fields of a record have different names, so with plain defaults the
record is plain as a value.
-/

namespace DocHarvest

namespace Value

theorem isPlain_empty : (Value.object []).IsPlain :=
  isPlain_object List.nodup_nil (by simp)

theorem isPlain_ofOption {α : Type} {write : α → Value} {found : Option α}
    (each : ∀ content, found = some content → (write content).IsPlain) :
    (ofOption write found).IsPlain := by
  cases found with
  | none => trivial
  | some content => exact each content rfl

theorem isPlain_ofList? {α : Type} {write : α → Value} {found : Option (List α)}
    (each : ∀ items, found = some items → ∀ item ∈ items, (write item).IsPlain) :
    (ofList? write found).IsPlain := by
  refine isPlain_ofOption fun items same => isPlain_list ?_
  simpa using each items same

theorem isPlain_ofText (found : Option String) : (ofOption .text found).IsPlain :=
  isPlain_ofOption fun _ _ => trivial

theorem isPlain_ofInteger (found : Option Int) : (ofOption .integer found).IsPlain :=
  isPlain_ofOption fun _ _ => trivial

theorem isPlain_ofTexts (found : Option (List String)) : (ofList? .text found).IsPlain :=
  isPlain_ofList? fun _ _ _ _ => trivial

theorem isPlain_present {members : List (String × Value)} (different : (members.map Prod.fst).Nodup)
    (all : ∀ member ∈ members, member.2.IsPlain) : (present members).IsPlain := by
  have sublist := List.filter_sublist (p := fun member => !member.2.isNull) (l := members)
  exact isPlain_object (different.sublist (sublist.map _))
    fun member isPresent => all member (List.mem_of_mem_filter isPresent)

end Value

/-! ## Defaults of parameters -/

namespace Param

variable {node : Node} {param : Param}

/-- A parameter with a plain default. -/
def IsPlain (param : Param) : Prop :=
  param.defaultValue.IsPlain

@[simp]
theorem defaultValue_withType (type : Option String) (param : Param) :
    (withType type param).defaultValue = param.defaultValue := by
  unfold withType
  split
  · rfl
  · split <;> rfl

theorem isPlain_withName (name : Option String) (plain : param.IsPlain) :
    (withName name param).IsPlain := by
  unfold withName
  split
  · exact plain
  · split
    · exact plain
    · dsimp only
      split
      · rename_i default _
        dsimp only [IsPlain, valueOfDefault]
        cases read : Value.ofJson? (String.ofList default) with
        | none => trivial
        | some value => exact Value.isPlain_of_ofJson? read
      · exact plain

theorem IsDescribed.isPlain (described : param.IsDescribed) : param.IsPlain := by
  cases described with
  | parts made =>
      unfold ofParts at made
      dsimp only at made
      split at made
      · cases made
      · cases made
        refine isPlain_withName _ ?_
        rw [IsPlain, defaultValue_withType]
        trivial
  | ofType isSome => trivial

theorem composes_plain : Composes Node.HasPlainLiterals Value.IsPlain where
  literal plain isLiteral := plain.literal isLiteral
  part plain isPart := plain.child isPart
  null := trivial
  text _ := trivial
  list := Value.isPlain_list
  empty := Value.isPlain_empty
  set := by
    intro known value plain isPlain name
    rw [Value.IsPlain, Value.membersArePlain_iff] at plain
    exact Value.isPlain_object (Value.nodup_setMember _ _ plain.1)
      (Value.forall_setMember isPlain plain.2)

theorem patternEntry?_plain {property : Node} {entry : String × String × Value}
    (found : patternEntry? property = some entry) : entry.2.2.IsPlain := by
  have ofKey (found : (boundKey? property).map
      (fun name => (quotedEntry name "*", name, Value.null)) = some entry) : entry.2.2.IsPlain := by
    rcases Option.map_eq_some_iff.1 found with ⟨name, -, rfl⟩
    trivial
  unfold patternEntry? at found
  dsimp only at found
  split at found
  · split at found
    · cases found
      exact Value.isPlain_empty
    · exact ofKey found
  · exact ofKey found

theorem isPlain_ofNode (index : Nat) (plain : node.HasPlainLiterals) :
    (ofNode index node).IsPlain := by
  have shaped := plain.shape
  unfold ofNode
  split <;> rename_i same
  · trivial
  · rename_i left right
    rw [same] at shaped
    refine composes_plain.withDefault ?_ (by trivial)
    rintro inner rfl
    exact shaped.parts inner (by simp [Shape.children])
  · trivial
  · refine composes_plain.filled ?_ Value.isPlain_empty
    intro entry isEntry
    rcases List.mem_filterMap.1 isEntry with ⟨property, -, found⟩
    exact patternEntry?_plain found
  · refine Value.isPlain_list fun value isValue => ?_
    rcases List.mem_map.1 isValue with ⟨text, -, rfl⟩
    trivial
  · trivial

theorem isPlain_of_mem_guessAll {nodes : List Node}
    (plain : ∀ node ∈ nodes, node.HasPlainLiterals) :
    ∀ param ∈ guessAll nodes, param.IsPlain := by
  intro param isParam
  rcases List.mem_mapIdx.1 isParam with ⟨index, inside, rfl⟩
  exact isPlain_ofNode index (plain _ (List.getElem_mem inside))

theorem isPlain_toValue (plain : param.IsPlain) : param.toValue.IsPlain := by
  refine Value.isPlain_present (by simp) ?_
  simp only [List.forall_mem_cons, List.not_mem_nil, false_implies, implies_true, and_true]
  refine ⟨Value.isPlain_list ?_, ?_, ?_, ?_, ?_, ?_, plain, ?_⟩
  · simp [Value.IsPlain]
  all_goals exact Value.isPlain_ofOption fun _ _ => trivial

end Param

/-! ## Records -/

theorem Decorator.isPlain_toValue (decorator : Decorator) : decorator.toValue.IsPlain := by
  refine Value.isPlain_present (by simp) ?_
  simp only [List.forall_mem_cons, List.not_mem_nil, false_implies, implies_true, and_true]
  exact ⟨trivial, Value.isPlain_ofOption fun _ _ => trivial⟩

theorem Tag.isPlain_toValue (tag : Tag) : tag.toValue.IsPlain :=
  Value.isPlain_object (by simp) (by simp [Value.IsPlain])

theorem Notice.isPlain_toValue (notice : Notice) : notice.toValue.IsPlain := by
  cases notice <;> trivial

/-- A record whose parameters all have plain defaults. -/
structure Doc.IsPlain (doc : Doc) : Prop where
  parts : ∀ part ∈ doc.typedParts, part.IsPlain
  params : ∀ params, doc.params = some params → ∀ param ∈ params, param.IsPlain

namespace Doc

variable {doc : Doc}

theorem nodup_writtenNames (doc : Doc) :
    ((doc.fields.map fun (name, value) => (writtenName name, value)).map Prod.fst).Nodup := by
  simp only [fields, List.map_cons, List.map_nil]
  decide

theorem IsPlain.toValue (plain : doc.IsPlain) : doc.toValue.IsPlain := by
  have parts := plain.parts
  simp only [typedParts, List.forall_mem_append] at parts
  rcases parts with ⟨⟨⟨⟨⟨result, type⟩, properties⟩, throws⟩, emits⟩, listens⟩
  have param {found : Option Param} (each : ∀ param ∈ found.toList, param.IsPlain) :
      (Value.ofOption Param.toValue found).IsPlain :=
    Value.isPlain_ofOption fun param same => Param.isPlain_toValue (each param (by simp [same]))
  have params {found : Option (List Param)} (each : ∀ param ∈ found.getD [], param.IsPlain) :
      (Value.ofList? Param.toValue found).IsPlain := by
    refine Value.isPlain_ofList? ?_
    rintro params rfl param isParam
    exact Param.isPlain_toValue (each param isParam)
  have ofParams : (Value.ofList? Param.toValue doc.params).IsPlain :=
    Value.isPlain_ofList? fun params same param isParam =>
      Param.isPlain_toValue (plain.params params same param isParam)
  have decorators : (Value.ofList? Decorator.toValue doc.decorators).IsPlain :=
    Value.isPlain_ofList? fun _ _ decorator _ => decorator.isPlain_toValue
  have unknown : (Value.ofList? Tag.toValue doc.unknown).IsPlain :=
    Value.isPlain_ofList? fun _ _ tag _ => tag.isPlain_toValue
  refine Value.isPlain_present doc.nodup_writtenNames ?_
  simp [fields, Value.IsPlain, Value.isPlain_ofText, Value.isPlain_ofInteger, Value.isPlain_ofTexts,
    Notice.isPlain_toValue, param result, param type, params properties, params throws,
    params emits, params listens, ofParams, decorators, unknown]

end Doc

end DocHarvest
