import DocHarvest.Proofs.Module.Naming

/-!
# Stores seen through a sieve

A run with a filter is compared with the run without it by the records that both of them should hold
in the end. A `Sieve` sees the records that the filter keeps, apart from some variables that the
filtered run misses; records from before both runs are kept by it. `Store.Sifted` says that two
stores show the same records through a sieve, up to their ids. As old records come first, a look-up
finds the same record in both stores as far as it finds one that is seen.
-/

namespace DocHarvest

/-- A record without its id. -/
def Doc.unnumbered (doc : Doc) : Doc :=
  { doc with id := unassignedId }

/-- Whether a record is found under a category and a name in a file. -/
def Doc.isCalled (category : Category) (name filePath : String) (doc : Doc) : Bool :=
  doc.category == category && doc.name == some name && doc.filePath == filePath

/-- What two runs are compared by. -/
structure Sieve where
  /-- Which records the filter keeps, by their category and their name. -/
  keeps : Category → Option String → Bool
  /-- The first id that is not older than the runs. -/
  floor : Int
  /-- The file of the module. -/
  filePath : String
  /-- The names of variables that the filtered run misses. -/
  lost : List String

namespace Sieve

/-- Whether a record passes the filter, or has never come to it. -/
def passes (sieve : Sieve) (doc : Doc) : Bool :=
  decide (doc.id < sieve.floor) || sieve.keeps doc.category doc.name

/-- Whether a record is about a variable that the filtered run misses. -/
def misses (sieve : Sieve) (doc : Doc) : Bool :=
  doc.category == .moduleVariable && doc.filePath == sieve.filePath &&
    doc.name.any sieve.lost.contains

/-- Whether a record should be the same in both runs. -/
def sees (sieve : Sieve) (doc : Doc) : Bool :=
  sieve.passes doc && !sieve.misses doc

/-- Whether a record that is yet to be stored should be stored in both runs. -/
def admits (sieve : Sieve) (doc : Doc) : Bool :=
  sieve.keeps doc.category doc.name && !sieve.misses doc

/-- Two records that stand in the same place among those that are seen. -/
def Counterparts (sieve : Sieve) (whole thin : Store) (doc docToo : Doc) : Prop :=
  (doc, docToo) ∈ (whole.docs.filter sieve.sees).zip (thin.docs.filter sieve.sees)

end Sieve

/-- A store in good order in which old records come first. -/
structure Store.Layered (floor : Int) (store : Store) : Prop where
  disciplined : store.Disciplined
  reached : floor ≤ store.nextId
  layers : store.docs.Pairwise fun earlier later => floor ≤ earlier.id → floor ≤ later.id

/-- Two stores that show the same records, of which the second one holds only what passes. -/
structure Store.Sifted (sieve : Sieve) (whole thin : Store) : Prop where
  seen : (whole.docs.filter sieve.sees).map Doc.unnumbered =
    (thin.docs.filter sieve.sees).map Doc.unnumbered
  passing : ∀ doc ∈ thin.docs, sieve.passes doc
  layered : whole.Layered sieve.floor
  layeredToo : thin.Layered sieve.floor

/-! ## Lists -/

/-- What is found among some parts is what is found at all, where parts like it come first. -/
theorem find?_filter_of_pairwise {α : Type} {keeps suits : α → Bool} {parts : List α}
    (ordered : parts.Pairwise fun earlier later =>
      suits earlier → suits later → keeps later → keeps earlier) :
    (parts.filter keeps).find? suits = (parts.find? suits).filter keeps := by
  induction parts with
  | nil => rfl
  | cons part parts ih =>
      rcases List.pairwise_cons.1 ordered with ⟨first, rest⟩
      cases isSuited : suits part with
      | false =>
          have later : ((part :: parts).filter keeps).find? suits =
              (parts.filter keeps).find? suits := by
            rw [List.filter_cons]
            split <;> simp [isSuited]
          rw [later, ih rest, List.find?_cons_of_neg (by simp [isSuited])]
      | true =>
          rw [List.find?_cons_of_pos isSuited]
          cases isKept : keeps part with
          | true => simp [isKept, isSuited, Option.filter]
          | false =>
              -- a later part that is kept would have this one kept as well
              have nothing : (parts.filter keeps).find? suits = none := by
                rw [List.find?_eq_none]
                intro later isLater suited
                rcases List.mem_filter.1 isLater with ⟨isPart, keptToo⟩
                simp [first later isPart isSuited suited keptToo] at isKept
              simp [isKept, nothing, Option.filter]

/-- In two lists of parts that suit alike, the first suitable ones stand in the same place. -/
theorem find?_iff_of_mem_zip {α : Type} {suits : α → Bool} {parts others : List α}
    (alike : List.Forall₂ (fun part other => suits part = suits other) parts others)
    (distinct : parts.Nodup) (distinctToo : others.Nodup) {part other : α}
    (isPair : (part, other) ∈ parts.zip others) :
    parts.find? suits = some part ↔ others.find? suits = some other := by
  induction alike with
  | nil => cases isPair
  | @cons first firstToo rest restToo same _ ih =>
      rw [List.nodup_cons] at distinct distinctToo
      rw [List.find?_cons, List.find?_cons, ← same]
      rw [List.zip_cons_cons, List.mem_cons, Prod.mk.injEq] at isPair
      rcases isPair with ⟨rfl, rfl⟩ | isLater
      · cases suits part with
        | true => simp
        | false =>
            constructor
            · exact fun found => absurd (List.mem_of_find?_eq_some found) distinct.1
            · exact fun found => absurd (List.mem_of_find?_eq_some found) distinctToo.1
      · have areLater := List.of_mem_zip isLater
        cases suits first with
        | true =>
            constructor
            · intro found
              cases found
              exact absurd areLater.1 distinct.1
            · intro found
              cases found
              exact absurd areLater.2 distinctToo.1
        | false => exact ih distinct.2 distinctToo.2 isLater

/-! ## Look-ups -/

theorem Store.lookup?_eq (store : Store) (category : Category) {name : String}
    (named : name.isEmpty = false) (filePath : String) :
    store.lookup? category name filePath =
      store.docs.find? (Doc.isCalled category name filePath) := by
  unfold lookup?
  rw [named]
  rfl

theorem Store.lookup?_of_isEmpty (store : Store) (category : Category) {name : String}
    (nameless : name.isEmpty = true) (filePath : String) :
    store.lookup? category name filePath = none := by
  unfold lookup?
  rw [if_pos nameless]

theorem Doc.isCalled_iff {category : Category} {name filePath : String} {doc : Doc} :
    doc.isCalled category name filePath ↔
      doc.category = category ∧ doc.name = some name ∧ doc.filePath = filePath := by
  simp [isCalled, and_assoc]

namespace Sieve

variable {sieve : Sieve} {doc other : Doc} {category : Category} {name filePath : String}

theorem passes_of_le (own : sieve.floor ≤ doc.id) :
    sieve.passes doc = sieve.keeps doc.category doc.name := by
  have notOld : ¬ doc.id < sieve.floor := by omega
  simp [passes, notOld]

theorem sees_of_le (own : sieve.floor ≤ doc.id) : sieve.sees doc = sieve.admits doc := by
  rw [sees, admits, passes_of_le own]

theorem misses_of_outline (same : other.outline = doc.outline) :
    sieve.misses other = sieve.misses doc := by
  rw [misses, misses, Doc.category_eq_of_outline same, Doc.name_eq_of_outline same,
    Doc.filePath_eq_of_outline same]

theorem passes_of_outline (same : other.outline = doc.outline) :
    sieve.passes other = sieve.passes doc := by
  rw [passes, passes, Doc.id_eq_of_outline same, Doc.category_eq_of_outline same,
    Doc.name_eq_of_outline same]

theorem sees_of_outline (same : other.outline = doc.outline) :
    sieve.sees other = sieve.sees doc := by
  rw [sees, sees, passes_of_outline same, misses_of_outline same]

theorem misses_of_isCalled (called : doc.isCalled category name filePath)
    (calledToo : other.isCalled category name filePath) :
    sieve.misses other = sieve.misses doc := by
  rcases Doc.isCalled_iff.1 called with ⟨isCategory, isName, located⟩
  rcases Doc.isCalled_iff.1 calledToo with ⟨isCategoryToo, isNameToo, locatedToo⟩
  rw [misses, misses, isCategory, isName, located, isCategoryToo, isNameToo, locatedToo]

theorem admits_of_isCalled (called : doc.isCalled category name filePath)
    (calledToo : other.isCalled category name filePath) :
    sieve.admits other = sieve.admits doc := by
  rcases Doc.isCalled_iff.1 called with ⟨isCategory, isName, -⟩
  rcases Doc.isCalled_iff.1 calledToo with ⟨isCategoryToo, isNameToo, -⟩
  rw [admits, admits, misses_of_isCalled called calledToo, isCategory, isName, isCategoryToo,
    isNameToo]

/-- A record that is seen has all namesakes before it seen as well. -/
theorem sees_of_isCalled (called : doc.isCalled category name filePath)
    (calledToo : other.isCalled category name filePath)
    (layered : sieve.floor ≤ doc.id → sieve.floor ≤ other.id) (isSeen : sieve.sees other) :
    sieve.sees doc := by
  rw [sees, Bool.and_eq_true, misses_of_isCalled called calledToo] at isSeen
  rw [sees, Bool.and_eq_true]
  refine ⟨?_, isSeen.2⟩
  rcases Doc.isCalled_iff.1 called with ⟨isCategory, isName, -⟩
  rcases Doc.isCalled_iff.1 calledToo with ⟨isCategoryToo, isNameToo, -⟩
  have passed := isSeen.1
  rw [passes, isCategoryToo, isNameToo, Bool.or_eq_true, decide_eq_true_eq] at passed
  rw [passes, isCategory, isName, Bool.or_eq_true, decide_eq_true_eq]
  rcases passed with isOld | isKept
  · left
    by_contra notOld
    have := layered (by omega)
    omega
  · exact Or.inr isKept

end Sieve

namespace Store.Layered

variable {floor : Int} {before after : Store}

theorem find?_seen {sieve : Sieve} {store : Store} (layered : store.Layered sieve.floor)
    (category : Category) (name filePath : String) :
    (store.docs.filter sieve.sees).find? (Doc.isCalled category name filePath) =
      (store.docs.find? (Doc.isCalled category name filePath)).filter sieve.sees := by
  apply find?_filter_of_pairwise
  exact layered.layers.imp fun ordered called calledToo isSeen =>
    Sieve.sees_of_isCalled called calledToo ordered isSeen

theorem nodup {store : Store} (layered : store.Layered floor) : store.docs.Nodup :=
  layered.disciplined.distinct.of_map _

theorem eq_of_id {store : Store} (layered : store.Layered floor) {doc other : Doc}
    (isStored : doc ∈ store.docs) (isStoredToo : other ∈ store.docs) (same : doc.id = other.id) :
    doc = other :=
  List.inj_on_of_nodup_map layered.disciplined.distinct isStored isStoredToo same

/-- New records come behind the old ones. -/
theorem grows {fits : Doc → Prop} (layered : before.Layered floor)
    (grows : before.Grows fits after) : after.Layered floor where
  disciplined := grows.disciplined layered.disciplined
  reached := Int.le_trans layered.reached grows.counter
  layers := by
    rcases grows.docs with ⟨kept, added, same, outlines, -, fit⟩
    have ids : kept.map Doc.id = before.docs.map Doc.id := ids_eq_of_outlines outlines
    have ordered : (before.docs.map Doc.id).Pairwise fun earlier later =>
        floor ≤ earlier → floor ≤ later := List.pairwise_map.2 layered.layers
    have own (doc : Doc) (isAdded : doc ∈ added) : floor ≤ doc.id :=
      Int.le_trans layered.reached (fit doc isAdded).1
    rw [same, List.pairwise_append]
    refine ⟨List.pairwise_map.1 (ids ▸ ordered), ?_, fun _ _ doc isAdded _ => own doc isAdded⟩
    exact List.pairwise_of_forall_mem_list fun _ _ doc isAdded _ => own doc isAdded

end Store.Layered

namespace Store.Sifted

variable {sieve : Sieve} {whole thin : Store} {doc docToo : Doc} {category : Category}
  {name filePath : String}

theorem forall₂ (sifted : whole.Sifted sieve thin) :
    List.Forall₂ (fun doc docToo => doc.unnumbered = docToo.unnumbered)
      (whole.docs.filter sieve.sees) (thin.docs.filter sieve.sees) := by
  have same := sifted.seen
  rwa [← List.forall₂_eq_eq_eq, List.forall₂_map_left_iff, List.forall₂_map_right_iff] at same

/-- What a look-up finds in the one store has its counterpart found in the other. -/
theorem lookup?_iff (sifted : whole.Sifted sieve thin)
    (counterparts : sieve.Counterparts whole thin doc docToo) :
    whole.lookup? category name filePath = some doc ↔
      thin.lookup? category name filePath = some docToo := by
  have alike : List.Forall₂ (fun doc docToo : Doc =>
      doc.isCalled category name filePath = docToo.isCalled category name filePath)
      (whole.docs.filter sieve.sees) (thin.docs.filter sieve.sees) := by
    refine sifted.forall₂.imp fun doc docToo same => ?_
    have called := congrArg (Doc.isCalled category name filePath) same
    exact called
  have together := find?_iff_of_mem_zip alike (sifted.layered.nodup.filter _)
    (sifted.layeredToo.nodup.filter _) counterparts
  have areSeen := List.of_mem_zip counterparts
  have isSeen : sieve.sees doc := (List.mem_filter.1 areSeen.1).2
  have isSeenToo : sieve.sees docToo := (List.mem_filter.1 areSeen.2).2
  rw [sifted.layered.find?_seen, sifted.layeredToo.find?_seen, Option.filter_eq_some_iff,
    Option.filter_eq_some_iff] at together
  cases nameless : name.isEmpty with
  | true =>
      rw [Store.lookup?_of_isEmpty _ _ nameless, Store.lookup?_of_isEmpty _ _ nameless]
      simp
  | false =>
      rw [Store.lookup?_eq _ _ nameless, Store.lookup?_eq _ _ nameless]
      simpa [isSeen, isSeenToo] using together

/-- Under a name that is kept and not missed, something is found in both stores or in neither. -/
theorem isSome_lookup? (sifted : whole.Sifted sieve thin)
    (shown : ∀ doc : Doc, doc.isCalled category name filePath → sieve.admits doc) :
    (whole.lookup? category name filePath).isSome =
      (thin.lookup? category name filePath).isSome := by
  have through {store : Store} (layered : store.Layered sieve.floor) :
      (store.docs.find? (Doc.isCalled category name filePath)).isSome =
        ((store.docs.filter sieve.sees).map Doc.unnumbered).any
          (Doc.isCalled category name filePath) := by
    have all : store.docs.find? (Doc.isCalled category name filePath) =
        (store.docs.filter sieve.sees).find? (Doc.isCalled category name filePath) := by
      rw [layered.find?_seen]
      cases found : store.docs.find? (Doc.isCalled category name filePath) with
      | none => rfl
      | some doc =>
          have isAdmitted := shown doc (List.find?_some found)
          rw [Sieve.admits, Bool.and_eq_true] at isAdmitted
          have isSeen : sieve.sees doc := by
            simp [Sieve.sees, Sieve.passes, isAdmitted]
          simp [isSeen, Option.filter]
    rw [all, List.any_map, Bool.eq_iff_iff, List.find?_isSome, List.any_eq_true]
    rfl
  cases nameless : name.isEmpty with
  | true =>
      rw [Store.lookup?_of_isEmpty _ _ nameless, Store.lookup?_of_isEmpty _ _ nameless]
  | false =>
      rw [Store.lookup?_eq _ _ nameless, Store.lookup?_eq _ _ nameless, through sifted.layered,
        through sifted.layeredToo, sifted.seen]

/-- Classes are never missed, so a class that is found among the passing records is found at all. -/
theorem isSome_lookup?_moduleClass_of_thin (sifted : whole.Sifted sieve thin)
    (found : thin.lookup? .moduleClass name filePath = some docToo) :
    (whole.lookup? .moduleClass name filePath).isSome := by
  rcases Store.mem_of_lookup? found with ⟨isStored, isClass, named, located⟩
  have isSeen : sieve.sees docToo := by
    simp [Sieve.sees, sifted.passing docToo isStored, Sieve.misses, isClass]
  have isShown : docToo.unnumbered ∈ (whole.docs.filter sieve.sees).map Doc.unnumbered := by
    rw [sifted.seen]
    exact List.mem_map_of_mem (List.mem_filter.2 ⟨isStored, isSeen⟩)
  rcases List.mem_map.1 isShown with ⟨doc, isDoc, same⟩
  have called : doc.isCalled .moduleClass name filePath := by
    have calledAlike := congrArg (Doc.isCalled .moduleClass name filePath) same
    have calledToo : docToo.unnumbered.isCalled .moduleClass name filePath :=
      Doc.isCalled_iff.2 ⟨isClass, named, located⟩
    exact calledAlike.trans calledToo
  cases nameless : name.isEmpty with
  | true =>
      rw [Store.lookup?_of_isEmpty _ _ nameless] at found
      cases found
  | false =>
      rw [Store.lookup?_eq _ _ nameless, List.find?_isSome]
      exact ⟨doc, List.mem_of_mem_filter isDoc, called⟩

end Store.Sifted

end DocHarvest
