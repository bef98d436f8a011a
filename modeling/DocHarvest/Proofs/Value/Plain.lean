import DocHarvest.Proofs.Number.Rounding
import DocHarvest.Value.Reader

/-!
# Plain values

In a plain value numbers are in canonical form and the members of an object have different names.
What is read from JSON text is plain.
-/

namespace DocHarvest.Value

/-- Induction over values, with the items of lists and the members of objects at hand. -/
@[elab_as_elim]
theorem induction {motive : Value → Prop} (null : motive .null)
    (boolean : ∀ truth, motive (.boolean truth)) (integer : ∀ number, motive (.integer number))
    (real : ∀ number, motive (.real number)) (text : ∀ content, motive (.text content))
    (list : ∀ items, (∀ item ∈ items, motive item) → motive (.list items))
    (object : ∀ members, (∀ member ∈ members, motive member.2) → motive (.object members))
    (value : Value) : motive value :=
  @Value.rec motive (fun items => ∀ item ∈ items, motive item)
    (fun members => ∀ member ∈ members, motive member.2) (fun member => motive member.2)
    null boolean integer real text list object
    (fun _ isMember => nomatch isMember)
    (fun _ _ ofHead ofRest => List.forall_mem_cons.2 ⟨ofHead, ofRest⟩)
    (fun _ isMember => nomatch isMember)
    (fun _ _ ofHead ofRest => List.forall_mem_cons.2 ⟨ofHead, ofRest⟩)
    (fun _ _ ofValue => ofValue) value

mutual

/-- Numbers are in canonical form, and the members of an object have different names. -/
def IsPlain : Value → Prop
  | .real number => number.IsCanonical
  | .list items => ArePlain items
  | .object members => (members.map Prod.fst).Nodup ∧ MembersArePlain members
  | .null | .boolean _ | .integer _ | .text _ => True

/-- All values of a list are plain. -/
def ArePlain : List Value → Prop
  | [] => True
  | item :: rest => item.IsPlain ∧ ArePlain rest

/-- The values of all members of an object are plain. -/
def MembersArePlain : List (String × Value) → Prop
  | [] => True
  | (_, value) :: rest => value.IsPlain ∧ MembersArePlain rest

end

variable {items : List Value} {members : List (String × Value)}

theorem arePlain_iff : ArePlain items ↔ ∀ item ∈ items, item.IsPlain := by
  induction items with
  | nil => simp [ArePlain]
  | cons item rest ih => simp [ArePlain, ih]

theorem membersArePlain_iff : MembersArePlain members ↔ ∀ member ∈ members, member.2.IsPlain := by
  induction members with
  | nil => simp [MembersArePlain]
  | cons member rest ih => simp [MembersArePlain, ih]

theorem isPlain_list (all : ∀ item ∈ items, item.IsPlain) : (Value.list items).IsPlain := by
  rw [IsPlain]
  exact arePlain_iff.2 all

theorem isPlain_object (different : (members.map Prod.fst).Nodup)
    (all : ∀ member ∈ members, member.2.IsPlain) : (Value.object members).IsPlain := by
  rw [IsPlain]
  exact ⟨different, membersArePlain_iff.2 all⟩

theorem areWritable_iff : areWritable items ↔ ∀ item ∈ items, item.isWritable := by
  induction items with
  | nil => simp [areWritable]
  | cons item rest ih => simp [areWritable, ih]

theorem membersAreWritable_iff :
    membersAreWritable members ↔ ∀ member ∈ members, member.2.isWritable := by
  induction members with
  | nil => simp [membersAreWritable]
  | cons member rest ih => simp [membersAreWritable, ih]

/-! ## Members that are set -/

section

variable {α : Type} {name : String} {value : α} {known : List (String × α)}

theorem setMember_of_absent (absent : name ∉ known.map Prod.fst) :
    setMember name value known = known ++ [(name, value)] := by
  induction known with
  | nil => rfl
  | cons member rest ih =>
      rw [List.map_cons, List.mem_cons, not_or] at absent
      simp [setMember, Ne.symm absent.1, ih absent.2]

/-- Members with different names are kept in the order in which they are set. -/
theorem foldl_setMember {β : Type} (known : List (String × α)) (name : β → String) (value : β → α)
    {entries : List β}
    (different : (known.map Prod.fst ++ entries.map name).Nodup) :
    entries.foldl (fun known entry => setMember (name entry) (value entry) known) known =
      known ++ entries.map fun entry => (name entry, value entry) := by
  induction entries generalizing known with
  | nil => simp
  | cons entry rest ih =>
      have absent : name entry ∉ known.map Prod.fst := by
        intro isKnown
        exact (List.nodup_append.1 different).2.2 _ isKnown _ (List.mem_cons_self ..) rfl
      rw [List.foldl_cons, setMember_of_absent absent, ih]
      · simp
      · simpa using different

theorem names_setMember (name : String) (value : α) (known : List (String × α)) :
    (setMember name value known).map Prod.fst =
      if name ∈ known.map Prod.fst then known.map Prod.fst else known.map Prod.fst ++ [name] := by
  induction known with
  | nil => rfl
  | cons member rest ih =>
      rw [setMember, List.map_cons]
      by_cases isSame : member.1 = name
      · simp [isSame]
      · simp only [beq_iff_eq, isSame, if_false, List.map_cons, ih, List.mem_cons, Ne.symm isSame,
          false_or]
        split <;> rfl

theorem nodup_setMember (name : String) (value : α) (different : (known.map Prod.fst).Nodup) :
    ((setMember name value known).map Prod.fst).Nodup := by
  rw [names_setMember]
  split
  · exact different
  · rename_i absent
    refine List.nodup_append.2 ⟨different, by simp, fun known isKnown other isName => ?_⟩
    rw [List.mem_singleton.1 isName]
    rintro rfl
    exact absent isKnown

theorem forall_setMember {P : α → Prop} (ofValue : P value) (all : ∀ member ∈ known, P member.2) :
    ∀ member ∈ setMember name value known, P member.2 := by
  induction known with
  | nil => simpa [setMember] using ofValue
  | cons member rest ih =>
      rw [List.forall_mem_cons] at all
      unfold setMember
      split
      · exact List.forall_mem_cons.2 ⟨ofValue, all.2⟩
      · exact List.forall_mem_cons.2 ⟨all.1, ih all.2⟩

end

/-! ## Values read from text -/

variable {input left : List Char}

theorem isPlain_of_number? {negative : Bool} {value : Value}
    (read : number? negative input = some (value, left)) : value.IsPlain := by
  unfold number? at read
  split at read
  · cases read
  · dsimp only at read
    split at read
    · rcases Option.map_eq_some_iff.1 read with ⟨number, -, same⟩
      cases same
      trivial
    · rcases Option.map_eq_some_iff.1 read with ⟨number, isReal, same⟩
      cases same
      unfold Numeral.decimalReal? at isReal
      dsimp only at isReal
      split at isReal
      · cases isReal
        exact Binary64.isCanonical_ofDecimal _ _ _
      · cases isReal

theorem isPlain_of_name? {value : Value} (read : name? input = some (value, left)) :
    value.IsPlain := by
  obtain ⟨⟨name, named⟩, isName, found⟩ := List.exists_of_findSome?_eq_some read
  rcases Option.map_eq_some_iff.1 found with ⟨rest, -, same⟩
  cases same
  revert isName
  simp only [names, List.mem_cons, List.not_mem_nil, or_false, Prod.mk.injEq]
  rintro (⟨-, rfl⟩ | ⟨-, rfl⟩ | ⟨-, rfl⟩ | ⟨-, rfl⟩ | ⟨-, rfl⟩ | ⟨-, rfl⟩) <;> trivial

theorem isPlain_of_scalar? {value : Value} (read : scalar? input = some (value, left)) :
    value.IsPlain := by
  unfold scalar? at read
  split at read
  · rename_i isName
    cases read
    exact isPlain_of_name? isName
  · rcases Option.map_eq_some_iff.1 read with ⟨content, -, same⟩
    cases same
    trivial
  · exact isPlain_of_number? read
  · exact isPlain_of_number? read

/-- One step of each reader yields plain values if all smaller ones do. -/
theorem isPlain_of_readers (fuel : Nat) :
    (∀ {input left value}, value? fuel input = some (value, left) → value.IsPlain) ∧
    (∀ {input left items}, items? fuel input = some (items, left) →
      ∀ item ∈ items, item.IsPlain) ∧
    ∀ {known input left members}, members? fuel known input = some (members, left) →
      (Value.object known).IsPlain → (Value.object members).IsPlain := by
  induction fuel with
  | zero =>
      refine ⟨fun read => ?_, fun read => ?_, fun read => ?_⟩
      · simp [value?] at read
      · simp [items?] at read
      · simp [members?] at read
  | succ fuel ih =>
      obtain ⟨ofValue, ofItems, ofMembers⟩ := ih
      refine ⟨fun {input left value} read => ?_, fun {input left items} read => ?_,
        fun {known input left members} read isPlain => ?_⟩
      · unfold value? at read
        split at read
        · cases ‹_ = _›
        · cases ‹fuel + 1 = _›
          split at read
          · cases read
            exact isPlain_list (by simp)
          · rcases Option.map_eq_some_iff.1 read with ⟨⟨items, rest⟩, isRead, same⟩
            cases same
            exact isPlain_list (ofItems isRead)
        · cases ‹fuel + 1 = _›
          split at read
          · cases read
            exact isPlain_object List.nodup_nil (by simp)
          · rcases Option.map_eq_some_iff.1 read with ⟨⟨members, rest⟩, isRead, same⟩
            cases same
            exact ofMembers isRead (isPlain_object List.nodup_nil (by simp))
        · exact isPlain_of_scalar? read
      · unfold items? at read
        split at read
        · cases read
        · rename_i item afterItem isRead
          have isPlain := ofValue isRead
          split at read
          · cases read
            simpa using isPlain
          · rcases Option.map_eq_some_iff.1 read with ⟨⟨others, rest⟩, isRead, same⟩
            cases same
            exact List.forall_mem_cons.2 ⟨isPlain, ofItems isRead⟩
          · cases read
      · rw [IsPlain, membersArePlain_iff] at isPlain
        have ofName {name : String} {value : Value} {inside after : List Char}
            (isRead : value? fuel inside = some (value, after)) :
            (Value.object (setMember name value known)).IsPlain :=
          isPlain_object (nodup_setMember name value isPlain.1)
            (forall_setMember (ofValue isRead) isPlain.2)
        unfold members? at read
        split at read
        · cases ‹fuel + 1 = _›
          split at read
          · cases read
          · split at read
            · split at read
              · cases read
              · rename_i isRead
                dsimp only at read
                split at read
                · cases read
                  exact ofName isRead
                · exact ofMembers read (ofName isRead)
                · cases read
            · cases read
        · cases read

/-- What is read from JSON text is plain. -/
theorem isPlain_of_ofJson? {input : String} {value : Value} (read : ofJson? input = some value) :
    value.IsPlain := by
  unfold ofJson? at read
  dsimp only at read
  split at read
  · rename_i isRead
    split at read
    · cases read
      exact (isPlain_of_readers _).1 isRead
    · cases read
  · cases read

end DocHarvest.Value
