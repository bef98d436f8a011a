import DocHarvest.Proofs.Module.Extending
import DocHarvest.Proofs.Text.Lines

/-!
# Bases that are parts of a call

A class may extend a call, such as `mixin(Base)`. Its bases are then the callee and the arguments,
as far as they are names or chains that start with a name. They are named in full first, and of the
full names only those are kept that start like a name, so that a base is lost if the path of its
module does not start with a letter.
-/

namespace DocHarvest

namespace Node

/-- A chain of members that starts with a name, with the names behind it. -/
inductive Spells : Node → String → List String → Prop
  | identifier {node : Node} {name : String} (shape : node.shape = .identifier name) :
      Spells node name []
  | member {node target : Node} {key : Option Node} {computed : Bool} {root : String}
      {keys : List String} (shape : node.shape = .member (some target) key computed)
      (inner : Spells target root keys) : Spells node root (keys ++ [nameOrCode key])

/-- The callee and the arguments of a call. -/
def called? (node : Node) : Option (Option Node × List Node) :=
  match node.shape with
  | .call callee arguments => some (callee, arguments)
  | _ => none

variable {node : Node} {root : String} {keys : List String}

theorem shape_of_called? {callee : Option Node} {arguments : List Node}
    (isCall : node.called? = some (callee, arguments)) : node.shape = .call callee arguments := by
  unfold called? at isCall
  split at isCall
  · next shape =>
    cases isCall
    exact shape
  · cases isCall

theorem Spells.chain_eq (spelled : node.Spells root keys) : node.chain = root :: keys := by
  induction spelled with
  | @identifier node name shape =>
      rcases node with ⟨info, _⟩
      cases shape
      simp [chain]
  | @member node target key computed root keys shape inner ih =>
      rcases node with ⟨info, _⟩
      cases shape
      simp [chain, chainOr, ih]

theorem Spells.chainText_eq (spelled : node.Spells root keys) :
    chainText (some node) = Text.joinStrings "." (root :: keys) := by
  simp [chainText, chainOr, spelled.chain_eq]

theorem Spells.isMember (spelled : node.Spells root keys) (nonempty : keys ≠ []) :
    ∃ target key computed, node.shape = .member target key computed := by
  cases spelled with
  | identifier shape => exact absurd rfl nonempty
  | member shape inner => exact ⟨_, _, _, shape⟩

end Node

/-- The first name of a chain stands before its first point. -/
theorem takeWhile_joinStrings {root : String} (noPoint : '.' ∉ root.toList) (keys : List String) :
    (Text.joinStrings "." (root :: keys)).toList.takeWhile (· != '.') = root.toList := by
  have all : ∀ character ∈ root.toList, character != '.' := by
    intro character isIn
    simp only [bne_iff_ne]
    rintro rfl
    exact noPoint isIn
  cases keys with
  | nil =>
      have ends : ∀ character ∈ ([] : List Char).head?, (character != '.') = false := by simp
      have whole := Text.takeWhile_eq all ends
      simpa [Text.joinStrings, Text.join] using whole
  | cons key keys =>
      simp [Text.joinStrings, Text.join, List.takeWhile_append_of_pos all]

namespace Draft

variable {draft : Draft} {target : Node} {name root : String} {keys : List String}

/-! ## How a full name starts -/

/-- A character that is not at the start of a name. -/
def IsMark (character : Char) : Prop :=
  isPlainLetter character = false ∧ character ≠ '$' ∧ character ≠ '_'

/-- What stands behind a mark has no say in how a text starts. -/
theorem startsLikeName_append {rest : List Char} (mark : ∀ character ∈ rest.head?, IsMark character)
    (text : List Char) :
    startsLikeName (String.ofList (text ++ rest)) = startsLikeName (String.ofList text) := by
  cases rest with
  | nil => simp
  | cons first rest =>
      rcases mark first rfl with ⟨noLetter, noDollar, noUnderscore⟩
      rcases text with _ | ⟨start, _ | ⟨next, text⟩⟩
      · cases rest <;> simp [startsLikeName, noLetter, noDollar, noUnderscore]
      · simp [startsLikeName, noLetter]
      · simp [startsLikeName]

theorem startsLikeName_takeWhile (text : List Char) :
    startsLikeName (String.ofList (text.takeWhile (· != '~'))) =
      startsLikeName (String.ofList text) := by
  have tilde : ∀ character ∈ (text.dropWhile (· != '~')).head?, IsMark character := by
    intro character isFirst
    have stops := List.head?_dropWhile_not (· != '~') text
    rw [isFirst] at stops
    have same : character = '~' := by simpa using stops
    rw [same]
    exact ⟨by decide, by decide, by decide⟩
  conv_rhs => rw [← List.takeWhile_append_dropWhile (p := (· != '~')) (l := text)]
  exact (startsLikeName_append tilde _).symm

/-- The part of a full name in front of the name of the entity. -/
def fileOf (longname : String) : String :=
  String.ofList (Text.mapLines (·.takeWhile (· != '~')) longname.toList)

theorem startsLikeName_tilde (path rest : String) :
    startsLikeName (path ++ "~" ++ rest) = startsLikeName path := by
  have tilde : ∀ character ∈ ("~" ++ rest).toList.head?, IsMark character := by
    intro character isFirst
    have same : character = '~' := by simpa using isFirst.symm
    rw [same]
    exact ⟨by decide, by decide, by decide⟩
  have starts := startsLikeName_append tilde path.toList
  rwa [← String.toList_append, String.ofList_toList, String.ofList_toList,
    ← String.append_assoc] at starts

theorem startsLikeName_fileOf (longname : String) :
    startsLikeName (fileOf longname) = startsLikeName longname := by
  have cut (text : List Char) :
      startsLikeName (String.ofList (Text.mapLines (·.takeWhile (· != '~')) text)) =
        startsLikeName (String.ofList text) := by
    induction text using Text.lines_induction with
    | last line single =>
        rw [Text.mapLines_of_not_mem single]
        exact startsLikeName_takeWhile line
    | more line rest single ih =>
        have newline {later : List Char} : ∀ character ∈ ('\n' :: later).head?, IsMark character := by
          rintro _ ⟨⟩
          exact ⟨by decide, by decide, by decide⟩
        rw [Text.mapLines_line_append single, startsLikeName_append newline,
          startsLikeName_append newline, startsLikeName_takeWhile]
  rw [fileOf, cut, String.ofList_toList]

/-! ## Full names of bases -/

/-- The path of the module that a name in the module is imported from or declared in as a class. -/
def home? (draft : Draft) (name : String) : Option String :=
  match (draft.scope.program.findImport? name).filter (!·.isEmpty) with
  | some specifier => some (ModulePath.resolveImport draft.scope.filePath specifier)
  | none =>
      if (draft.scope.program.findClass? name true).isSome then some draft.scope.filePath else none

/-- Whether a base that is spelled from a name on is kept: its full name starts like a name. -/
def keepsBase (draft : Draft) (name : String) : Bool :=
  startsLikeName ((draft.home? name).getD name)

theorem referredLongname_eq (draft : Draft) (name : String) :
    draft.referredLongname name = match draft.home? name with
      | some path => path ++ "~" ++ name
      | none => name := by
  unfold referredLongname home? classLongname?
  cases imported : (draft.scope.program.findImport? name).filter (!·.isEmpty) with
  | some specifier => rfl
  | none =>
      by_cases isEmpty : name.isEmpty
      · simp [isEmpty, Node.findClass?]
      · cases found : draft.scope.program.findClass? name true <;> simp [isEmpty, found, imported]

theorem startsLikeName_referredLongname (draft : Draft) (name : String) :
    startsLikeName (draft.referredLongname name) = draft.keepsBase name := by
  rw [referredLongname_eq, keepsBase]
  cases draft.home? name with
  | some path => exact startsLikeName_tilde path name
  | none => rfl

/-- What a part of a call that is extended adds to the bases. -/
def basesOfPart (draft : Draft) (target : Node) : List String :=
  ((draft.baseLongname? target).filter startsLikeName).toList

theorem baseLongnames_of_call {superClass : Node} {callee : Option Node} {arguments : List Node}
    (shape : superClass.shape = .call callee arguments) :
    draft.baseLongnames superClass = (callee.toList ++ arguments).flatMap draft.basesOfPart := by
  unfold baseLongnames
  rw [shape]
  dsimp only
  rw [List.filter_filterMap, List.filterMap_eq_flatMap_toList]
  rfl

theorem toList_filter_some (kept : String → Bool) (text : String) :
    ((some text).filter kept).toList = if kept text then [text] else [] := by
  rw [Option.filter_some]
  split <;> rfl

theorem basesOfPart_of_identifier (shape : target.shape = .identifier name) :
    draft.basesOfPart target =
      if draft.keepsBase name then [draft.referredLongname name] else [] := by
  simp only [basesOfPart, baseLongname?, shape, toList_filter_some, startsLikeName_referredLongname]

theorem basesOfPart_of_spells (spelled : target.Spells root keys) (nonempty : keys ≠ [])
    (noPoint : '.' ∉ root.toList) :
    draft.basesOfPart target =
      if draft.keepsBase root then
        [fileOf (draft.referredLongname root) ++ "~" ++ Text.joinStrings "." (root :: keys)]
      else [] := by
  rcases spelled.isMember nonempty with ⟨inner, key, computed, shape⟩
  have starts : startsLikeName (fileOf (draft.referredLongname root) ++ "~" ++
      Text.joinStrings "." (root :: keys)) = draft.keepsBase root := by
    rw [startsLikeName_tilde, startsLikeName_fileOf, startsLikeName_referredLongname]
  rw [← starts, ← toList_filter_some]
  simp only [basesOfPart, baseLongname?, shape, spelled.chainText_eq, takeWhile_joinStrings noPoint,
    String.ofList_toList]
  rfl

/-- A part of a call that is neither a name nor a chain is no base. -/
theorem basesOfPart_of_other (noName : ∀ name, target.shape ≠ .identifier name)
    (noChain : ∀ inner key computed, target.shape ≠ .member inner key computed) :
    draft.basesOfPart target = [] := by
  unfold basesOfPart baseLongname?
  split
  · next shape => exact absurd shape (noName _)
  · next shape => exact absurd shape (noChain _ _ _)
  · rfl

/--
The bases that a part of a call gives: a name or a chain is kept if its module has a fitting path.
-/
structure NamesBases (draft : Draft) (target : Node) (bases : List String) : Prop where
  identifier : ∀ name, target.shape = .identifier name →
    bases = if draft.keepsBase name then [draft.referredLongname name] else []
  chain : ∀ root keys, target.Spells root keys → keys ≠ [] → '.' ∉ root.toList →
    bases = if draft.keepsBase root then
      [fileOf (draft.referredLongname root) ++ "~" ++ Text.joinStrings "." (root :: keys)] else []
  other : (∀ name, target.shape ≠ .identifier name) →
    (∀ inner key computed, target.shape ≠ .member inner key computed) → bases = []
  single : bases.length ≤ 1

theorem namesBases (draft : Draft) (target : Node) :
    draft.NamesBases target (draft.basesOfPart target) where
  identifier _ := basesOfPart_of_identifier
  chain _ _ := basesOfPart_of_spells
  other := basesOfPart_of_other
  single := Option.length_toList_le

/-- A class that extends a call, and no tag says anything about its bases. -/
structure ExtendsCall (draft : Draft) (callee : Option Node) (arguments : List Node) : Prop where
  untagged : draft.values? "@extends" = none
  base : draft.node.base?.bind Node.called? = some (callee, arguments)

variable {doc : Doc} {callee : Option Node} {arguments : List Node}

theorem basesOf_of_extendsCall (extension : draft.ExtendsCall callee arguments) :
    draft.basesOf.1 =
      let found := (callee.toList ++ arguments).flatMap draft.basesOfPart
      if found.isEmpty then none else some found := by
  rcases Option.bind_eq_some_iff.1 extension.base with ⟨base, isBase, isCall⟩
  unfold Node.base? at isBase
  split at isBase
  · next classShape =>
    subst isBase
    simp only [basesOf, extension.untagged, classShape,
      baseLongnames_of_call (Node.shape_of_called? isCall)]
  · cases isBase

/-- A name that is imported by a path that does not start with a point is kept if that path is. -/
theorem keepsBase_of_imported {specifier : String}
    (imported : draft.scope.program.findImport? name = some specifier) (isPath : specifier ≠ "")
    (unresolved : specifier.toList.head? ≠ some '.') :
    draft.keepsBase name = startsLikeName specifier := by
  have given : (some specifier).filter (!·.isEmpty) = some specifier := by
    simp [Option.filter, isPath]
  have kept : ModulePath.resolveImport draft.scope.filePath specifier = specifier := by
    unfold ModulePath.resolveImport
    cases text : specifier.toList with
    | nil => rfl
    | cons first rest =>
        have noPoint : first ≠ '.' := by simpa [text] using unresolved
        simp [Ne.symm noPoint]
  simp only [keepsBase, home?, imported, given, kept, Option.getD_some]

end Draft

namespace Module.Call

/-- Every record of a class is made of a draft of one of the calls. -/
theorem exists_sources_of_moduleClass (calls : List Call) {doc : Doc}
    (isStored : doc ∈ (storeAfter calls {}).docs) (isClass : doc.category = .moduleClass) :
    ∃ draft, (∃ call ∈ calls, call.Drafts draft) ∧ draft.Sources .moduleClass doc := by
  rcases exists_sources calls isStored with ⟨draft, category, drafted, sources⟩
  exact ⟨draft, drafted, sources.of_moduleClass isClass⟩

/--
Whatever modules are documented, the record of a class that extends a call names, in their order,
the callee and the arguments that are names or chains starting with a name, but only those whose
module has a path that starts like a name; names that are neither imported nor declared must start
like one themselves. An import by a path without a point in front is kept just if its specifier
starts so, which that of a scoped package and an absolute path never do.
-/
theorem call_bases_filtered (calls : List Call) :
    ∀ derived ∈ (storeAfter calls {}).docs, derived.category = .moduleClass →
      (∃ draft, (∃ call ∈ calls, call.Drafts draft) ∧ draft.Sources .moduleClass derived) ∧
      ∀ draft : Draft, draft.Sources .moduleClass derived → ∀ callee arguments,
        draft.ExtendsCall callee arguments →
          (derived.bases =
            let found := (callee.toList ++ arguments).flatMap draft.basesOfPart
            if found.isEmpty then none else some found) ∧
          (∀ target ∈ callee.toList ++ arguments,
            draft.NamesBases target (draft.basesOfPart target)) ∧
          ∀ name specifier, draft.scope.program.findImport? name = some specifier →
            specifier ≠ "" → specifier.toList.head? ≠ some '.' →
              draft.keepsBase name = Draft.startsLikeName specifier := by
  intro derived isStored isClass
  refine ⟨exists_sources_of_moduleClass calls isStored isClass, ?_⟩
  intro draft sources callee arguments extension
  refine ⟨?_, fun target _ => draft.namesBases target, ?_⟩
  · rcases sources.built with ⟨made, built, continues⟩
    rw [continues.bases, Draft.bases_of_build_moduleClass built,
      Draft.basesOf_of_extendsCall extension]
  · intro name specifier imported isPath unresolved
    exact Draft.keepsBase_of_imported imported isPath unresolved

/-- The module `a.js` imports `Base` and declares `class Z extends mixin(Base, Base.Part)`. -/
def mixing (specifier : String) : Call :=
  ofModule "a.js" [
    .mk { id := 1 } (.importDeclaration [.mk { id := 2 } (.importSpecifier
      (some (.mk { id := 3 } (.identifier "Base"))) (some (.mk { id := 4 } (.identifier "Base"))))]
      (some (.mk { id := 5 } (.literal (.text specifier) .string)))),
    .mk { id := 6 } (.classLike .declaration [] (some (.mk { id := 7 } (.identifier "Z")))
      (some (.mk { id := 8 } (.call (some (.mk { id := 9 } (.identifier "mixin"))) [
        .mk { id := 10 } (.identifier "Base"),
        .mk { id := 11 } (.member (some (.mk { id := 12 } (.identifier "Base")))
          (some (.mk { id := 13 } (.identifier "Part"))) false)])))
      (.mk { id := 14 } (.classBody [])))]

/-- The draft of the class in `a.js` is one of a class that extends a call. -/
theorem extendsCall_of_sources {draft : Draft} {derived : Doc}
    (drafts : (mixing "./base.js").Drafts draft) (sources : draft.Sources .moduleClass derived)
    (hasBases : derived.bases ≠ none) : ∃ callee arguments, draft.ExtendsCall callee arguments := by
  rcases sources.built with ⟨made, built, continues⟩
  rcases untagged_of_sources drafts sources (by decide +kernel) with
    ⟨-, ⟨place, isPlace, isNode⟩, untagged⟩
  have baseCalled : ∀ place ∈ (mixing "./base.js").request.program.root.places,
      place.node.base?.isSome → (place.node.base?.bind Node.called?).isSome := by
    decide +kernel
  rw [continues.bases, Draft.bases_of_build_moduleClass built] at hasBases
  have called := baseCalled place isPlace (isNode ▸ Draft.isSome_base?_of_basesOf untagged hasBases)
  rcases Option.isSome_iff_exists.1 (isNode ▸ called) with ⟨⟨callee, arguments⟩, isCall⟩
  exact ⟨callee, arguments, untagged, isCall⟩

/-- The bases from a file of the project are kept. -/
theorem project_bases_kept : ∃ derived ∈ (storeAfter [mixing "./base.js"] {}).docs,
    derived.category = .moduleClass ∧ ∃ draft : Draft, draft.Sources .moduleClass derived ∧
      ∃ callee arguments, draft.ExtendsCall callee arguments ∧
        (callee.toList ++ arguments).flatMap draft.basesOfPart =
          ["mixin", "base.js~Base", "base.js~Base.Part"] := by
  have extended : ∃ derived ∈ (storeAfter [mixing "./base.js"] {}).docs,
      derived.category = .moduleClass ∧
        derived.bases = some ["mixin", "base.js~Base", "base.js~Base.Part"] := by
    decide +kernel
  rcases extended with ⟨derived, isStored, isClass, bases⟩
  rcases call_bases_filtered [mixing "./base.js"] derived isStored isClass with
    ⟨⟨draft, ⟨call, isCall, drafts⟩, sources⟩, filtered⟩
  rw [List.mem_singleton.1 isCall] at drafts
  rcases extendsCall_of_sources drafts sources (by simp [bases]) with
    ⟨callee, arguments, extension⟩
  have found := (filtered draft sources callee arguments extension).1
  refine ⟨derived, isStored, isClass, draft, sources, callee, arguments, extension, ?_⟩
  rw [bases] at found
  dsimp only at found
  split at found
  · cases found
  · exact (Option.some_inj.1 found).symm

/-- The bases from a scoped package are lost. -/
theorem scoped_bases_lost :
    ((storeAfter [mixing "@scope/pkg"] {}).docs.filter fun doc =>
        doc.category = .moduleClass).map (fun doc => (doc.longname, doc.bases)) =
      [(some "a.js~Z", some ["mixin"])] := by
  decide +kernel

end Module.Call

end DocHarvest
