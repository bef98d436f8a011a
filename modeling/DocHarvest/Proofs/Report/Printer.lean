import DocHarvest.Proofs.Record.Plain
import DocHarvest.Proofs.Value.Ordinary
import DocHarvest.Report.Console

/-!
# Reliable printers

A report relies on little of its printer: lines end in newlines, plain text is printed as it is, and
a record is dumped field by field. Where a record holds a number that JSON has no form for, it is
left open what becomes of it. Consoles of any width are reliable.
-/

namespace DocHarvest

namespace Value

mutual

/-- There is a form in JSON for each number in a value. -/
def IsFinite : Value → Prop
  | .real (.infinite _) | .real .nan => False
  | .list items => AreFinite items
  | .object members => MembersAreFinite members
  | _ => True

/-- There is a form in JSON for each number in a list of values. -/
def AreFinite : List Value → Prop
  | [] => True
  | item :: rest => item.IsFinite ∧ AreFinite rest

/-- There is a form in JSON for each number in the members of an object. -/
def MembersAreFinite : List (String × Value) → Prop
  | [] => True
  | (_, value) :: rest => value.IsFinite ∧ MembersAreFinite rest

end

variable {items : List Value} {members : List (String × Value)}

theorem areFinite_iff : AreFinite items ↔ ∀ item ∈ items, item.IsFinite := by
  induction items with
  | nil => simp [AreFinite]
  | cons item rest ih => simp [AreFinite, ih]

theorem membersAreFinite_iff :
    MembersAreFinite members ↔ ∀ member ∈ members, member.2.IsFinite := by
  induction members with
  | nil => simp [MembersAreFinite]
  | cons member rest ih => simp [MembersAreFinite, ih]

theorem finiteItems_eq_map (items : List Value) : finiteItems items = items.map finite := by
  induction items with
  | nil => rfl
  | cons item rest ih => rw [finiteItems, ih, List.map_cons]

theorem finiteMembers_eq_map (members : List (String × Value)) :
    finiteMembers members = members.map fun member => (member.1, member.2.finite) := by
  induction members with
  | nil => rfl
  | cons member rest ih => rw [finiteMembers, ih, List.map_cons]

/-- A value stays as it is if JSON has a form for each number in it. -/
theorem IsFinite.finite_eq {value : Value} (isFinite : value.IsFinite) : value.finite = value := by
  induction value using Value.induction with
  | null | boolean _ | integer _ | text _ => rfl
  | real number =>
      cases number with
      | nan | infinite _ => exact isFinite.elim
      | finite _ _ _ => rfl
  | list items ih =>
      rw [IsFinite, areFinite_iff] at isFinite
      rw [finite, finiteItems_eq_map]
      have same : items.map finite = items.map id :=
        List.map_congr_left fun item isItem => ih item isItem (isFinite item isItem)
      rw [same, List.map_id]
  | object members ih =>
      rw [IsFinite, membersAreFinite_iff] at isFinite
      rw [finite, finiteMembers_eq_map]
      have same : (members.map fun member => (member.1, member.2.finite)) = members.map id := by
        apply List.map_congr_left
        intro member isMember
        rw [ih member isMember (isFinite member isMember), id]
      rw [same, List.map_id]

/-- A plain value stays so when numbers that JSON has no form for become null. -/
theorem IsPlain.finite {value : Value} (plain : value.IsPlain) : value.finite.IsPlain := by
  induction value using Value.induction with
  | null | boolean _ | integer _ | text _ => trivial
  | real number =>
      cases number with
      | nan | infinite _ => trivial
      | finite _ _ _ => exact plain
  | list items ih =>
      rw [IsPlain, arePlain_iff] at plain
      rw [Value.finite, finiteItems_eq_map]
      refine isPlain_list fun value isValue => ?_
      rcases List.mem_map.1 isValue with ⟨item, isItem, rfl⟩
      exact ih item isItem (plain item isItem)
  | object members ih =>
      rw [IsPlain, membersArePlain_iff] at plain
      rw [Value.finite, finiteMembers_eq_map]
      refine isPlain_object ?_ fun changed isChanged => ?_
      · simpa only [List.map_map, Function.comp_def] using plain.1
      · rcases List.mem_map.1 isChanged with ⟨member, isMember, rfl⟩
        exact ih member isMember (plain.2 member isMember)

end Value

namespace Report

/-- What reports rely on of a printer. -/
structure Printer.IsReliable (printer : Printer) : Prop where
  /-- The lines of a paragraph end in newlines. -/
  endsLine : ∀ {text lines}, printer.paragraph text = .ok lines → ∃ start, lines = start ++ "\n"
  /-- Ordinary characters are printed as they are, with a newline after them. -/
  echoes : ∀ {text}, Text.AreOrdinary text.toList → printer.echo text = text ++ "\n"
  /-- A dump has canonical numbers and different names if the record has. -/
  dumpsPlain : ∀ {doc : Doc}, doc.IsPlain → (printer.dump doc).IsPlain
  /-- A dump has the fields of the record, if JSON has a form for all numbers in them. -/
  dumpsFields : ∀ {doc : Doc}, doc.toValue.IsFinite → printer.dump doc = doc.toValue

theorem isReliable_console (width : Option Nat) : (console width).IsReliable where
  endsLine made := by
    rcases bind_eq_ok.1 made with ⟨shown, -, same⟩
    cases same
    exact ⟨_, rfl⟩
  echoes _ := rfl
  dumpsPlain plain := plain.toValue.finite
  dumpsFields isFinite := isFinite.finite_eq

namespace Printer

variable {printer : Printer} {docs : List Doc} {text lines : String}

theorem IsReliable.ne_empty (reliable : printer.IsReliable)
    (made : printer.paragraph text = .ok lines) : lines ≠ "" := by
  rcases reliable.endsLine made with ⟨start, rfl⟩
  simp

theorem IsReliable.isPlain_payload (reliable : printer.IsReliable)
    (plain : ∀ doc ∈ docs, doc.IsPlain) : (printer.payload docs).IsPlain :=
  Value.isPlain_list (List.forall_mem_map.2 fun doc isDoc => reliable.dumpsPlain (plain doc isDoc))

theorem IsReliable.payload_eq (reliable : printer.IsReliable)
    (isFinite : ∀ doc ∈ docs, doc.toValue.IsFinite) :
    printer.payload docs = .list (docs.map Doc.toValue) := by
  rw [payload, List.map_congr_left fun doc isDoc => reliable.dumpsFields (isFinite doc isDoc)]

/-- The JSON text of a report is printed as it is, and it is read back as the dumped records. -/
theorem IsReliable.json (reliable : printer.IsReliable) (plain : ∀ doc ∈ docs, doc.IsPlain)
    (written : printer.json docs = .ok text) :
    printer.echo text = text ++ "\n" ∧ Value.ofJson? text = some (printer.payload docs) := by
  have payload := reliable.isPlain_payload plain
  unfold Printer.json at written
  split at written
  · rename_i isWritable
    cases written
    exact ⟨reliable.echoes (Value.areOrdinary_toIndentedJson payload 0),
      Value.ofJson?_toIndentedJson payload isWritable⟩
  · cases written

end Printer

end Report

end DocHarvest
