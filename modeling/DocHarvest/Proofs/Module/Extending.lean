import DocHarvest.Proofs.Module.Provenance

/-!
# Bases from other modules

A class may extend a name that its module imports. The record of the class then names the base in the
module that the import leads to, but by the name that the import binds, which is the name of the base
there only if the import does not rename it.
-/

namespace DocHarvest

open Run

namespace Node

/-- An import specifier that binds a name of another module to a name. -/
def Binds (specifier : Node) (imported localName : String) : Prop :=
  ∃ binding origin, specifier.shape = .importSpecifier (some binding) (some origin) ∧
    binding.identifier? = some localName ∧ origin.identifier? = some imported

/-- The first import of a program that binds a name takes it, under its name there, from a module. -/
def ImportsAs (program : Node) (imported localName path : String) : Prop :=
  ∃ before statement after specifiers source, program.body = before ++ statement :: after ∧
    (∀ earlier ∈ before, importSource? localName earlier = none) ∧
    statement.shape = .importDeclaration specifiers (some source) ∧
    source.literal? = some (.text path) ∧
    ∃ specifier ∈ specifiers, specifier.Binds imported localName

variable {program : Node} {imported localName path : String}

theorem ImportsAs.findImport? (imports : program.ImportsAs imported localName path) :
    program.findImport? localName = some path := by
  rcases imports with ⟨before, statement, after, specifiers, source, body, unbound, shape, literal,
    specifier, isSpecifier, binding, origin, specifierShape, bound, -⟩
  have found : importSource? localName statement = some path := by
    have binds : specifiers.any fun specifier => specifier.importedAs? == some localName := by
      refine List.any_eq_true.2 ⟨specifier, isSpecifier, ?_⟩
      simp [importedAs?, specifierShape, bound]
    simp [importSource?, shape, binds, literal, Value.display]
  rw [Node.findImport?, body, List.findSome?_append, List.findSome?_eq_none_iff.2 unbound]
  simp [found]

/-- The base of a class. -/
def base? (node : Node) : Option Node :=
  match node.shape with
  | .classLike _ _ _ superClass _ => superClass
  | _ => none

end Node

namespace Draft

variable {draft : Draft} {doc : Doc} {imported localName path : String}

/-- What an import leads to is named after what the import binds. -/
theorem referredLongname_of_imports
    (imports : draft.scope.program.ImportsAs imported localName path) (isPath : path ≠ "") :
    draft.referredLongname localName =
      ModulePath.resolveImport draft.scope.filePath path ++ "~" ++ localName := by
  have given : (some path).filter (!·.isEmpty) = some path := by
    simp [Option.filter, isPath]
  simp only [referredLongname, imports.findImport?, given]

theorem basesOf_of_base? {name : String} (untagged : draft.values? "@extends" = none)
    (named : draft.node.base?.bind Node.identifier? = some name) :
    draft.basesOf.1 = some [draft.referredLongname name] := by
  rcases Option.bind_eq_some_iff.1 named with ⟨base, isBase, isName⟩
  have baseShape : base.shape = .identifier name := by
    unfold Node.identifier? at isName
    split at isName
    · rename_i shape
      cases isName
      exact shape
    · cases isName
  unfold Node.base? at isBase
  split at isBase
  · rename_i shape
    subst isBase
    simp [basesOf, untagged, shape, baseLongnames, baseShape, baseLongname?]
  · cases isBase

theorem isSome_base?_of_basesOf (untagged : draft.values? "@extends" = none)
    (hasBases : draft.basesOf.1 ≠ none) : draft.node.base?.isSome := by
  cases isBase : draft.node.base? with
  | some base => rfl
  | none =>
      refine absurd ?_ hasBases
      unfold Node.base? at isBase
      split at isBase
      · rename_i shape
        subst isBase
        simp [basesOf, untagged, shape]
      · rename_i noClass
        unfold basesOf
        rw [untagged]
        dsimp only
        split
        · rename_i shape
          exact absurd shape (noClass _ _ _ _ _)
        · rfl

theorem bases_of_build_moduleClass (built : draft.build .moduleClass = .ok doc) :
    doc.bases = draft.basesOf.1 := by
  replace built : draft.moduleClass = .ok doc := built
  simp only [moduleClass, bind_eq_ok, pure, Except.pure, Except.ok.injEq] at built
  rcases built with ⟨decorators, -, rfl⟩
  rfl

theorem Sources.of_moduleClass {category : Category} (sources : draft.Sources category doc)
    (isClass : doc.category = .moduleClass) : draft.Sources .moduleClass doc := by
  rcases sources.built with ⟨made, built, continues⟩
  rw [continues.category] at isClass
  rcases (build_heads built).category with same | ⟨-, isMember⟩
  · rwa [← same, isClass] at sources
  · rw [isMember] at isClass
    cases isClass

/-- A record of a class has the name of the class in its module. -/
theorem Sources.longname (sources : draft.Sources .moduleClass doc)
    (noTilde : '~' ∉ doc.filePath.toList) :
    doc.longname = some (doc.filePath ++ "~" ++ Text.orNone doc.name) := by
  rw [sources.filePath] at noTilde ⊢
  rcases sources.built with ⟨made, built, continues⟩
  rw [continues.longname, continues.name]
  exact longname_of_build_moduleClass noTilde built

/-- A class that extends an imported name, and no tag says anything about its bases. -/
structure ExtendsImport (draft : Draft) (imported localName path : String) : Prop where
  untagged : draft.values? "@extends" = none
  base : draft.node.base?.bind Node.identifier? = some localName
  imports : draft.scope.program.ImportsAs imported localName path
  isPath : path ≠ ""

theorem Sources.bases (sources : draft.Sources .moduleClass doc)
    (extension : draft.ExtendsImport imported localName path) :
    doc.bases = some [ModulePath.resolveImport doc.filePath path ++ "~" ++ localName] := by
  rw [sources.filePath]
  rcases sources.built with ⟨made, built, continues⟩
  rw [continues.bases, bases_of_build_moduleClass built,
    basesOf_of_base? extension.untagged extension.base,
    referredLongname_of_imports extension.imports extension.isPath]

end Draft

namespace Module.Call

/-- A record of a class names the class of another module as its base. -/
structure NamesBase (derived base : Doc) (imported localName : String) : Prop where
  longname : base.longname = some (base.filePath ++ "~" ++ imported)
  bases : derived.bases = some [base.filePath ++ "~" ++ localName]
  agrees : derived.bases = base.longname.map (fun longname => [longname]) ↔ imported = localName

/--
Whatever modules are documented, the record of a class that extends an imported name names its base by
the path of the module that the import leads to and by the name that the import binds. This is the full
name of the class there exactly if the import does not rename it.
-/
theorem imported_bases_linked (calls : List Call) :
    ∀ derived ∈ (storeAfter calls {}).docs, derived.category = .moduleClass →
      (∃ draft, (∃ call ∈ calls, call.Drafts draft) ∧ draft.Sources .moduleClass derived) ∧
      ∀ draft : Draft, draft.Sources .moduleClass derived → ∀ imported localName path,
        draft.ExtendsImport imported localName path →
          ∀ base ∈ (storeAfter calls {}).docs, base.category = .moduleClass →
            base.name = some imported →
            base.filePath = ModulePath.resolveImport derived.filePath path →
            '~' ∉ base.filePath.toList → NamesBase derived base imported localName := by
  have origin : ∀ doc ∈ (storeAfter calls {}).docs, doc.category = .moduleClass →
      ∃ draft, (∃ call ∈ calls, call.Drafts draft) ∧ draft.Sources .moduleClass doc := by
    intro doc isStored isClass
    rcases exists_sources calls isStored with ⟨draft, category, drafted, sources⟩
    exact ⟨draft, drafted, sources.of_moduleClass isClass⟩
  intro derived isStored isClass
  refine ⟨origin derived isStored isClass, ?_⟩
  intro draft sources imported localName path extension base isStoredToo isClassToo named leads
    noTilde
  rcases origin base isStoredToo isClassToo with ⟨draftToo, -, sourcesToo⟩
  have longname : base.longname = some (base.filePath ++ "~" ++ imported) := by
    rw [sourcesToo.longname noTilde, named]
    rfl
  have bases : derived.bases = some [base.filePath ++ "~" ++ localName] := by
    rw [sources.bases extension, leads]
  refine ⟨longname, bases, ?_⟩
  rw [bases, longname, Option.map_some, Option.some_inj, List.singleton_inj]
  constructor
  · intro same
    exact (by simpa using same : localName = imported).symm
  · rintro rfl
    rfl

/-- The module `b.js` declares a class. -/
def declaring : Call :=
  ofModule "b.js" [.mk { id := 1 } (.classLike .declaration []
    (some (.mk { id := 2 } (.identifier "X"))) none (.mk { id := 3 } (.classBody [])))]

/-- The module `a.js` imports the class of `b.js` under a name and extends it. -/
def extending (localName : String) : Call :=
  ofModule "a.js" [
    .mk { id := 1 } (.importDeclaration [.mk { id := 2 } (.importSpecifier
      (some (.mk { id := 3 } (.identifier localName))) (some (.mk { id := 4 } (.identifier "X"))))]
      (some (.mk { id := 5 } (.literal (.text "./b.js") .string)))),
    .mk { id := 6 } (.classLike .declaration [] (some (.mk { id := 7 } (.identifier "Z")))
      (some (.mk { id := 8 } (.identifier localName))) (.mk { id := 9 } (.classBody [])))]

/-- In a module without comments the record of a class is made of a node of the program without tags. -/
theorem untagged_of_sources {call : Call} {draft : Draft} {doc : Doc} (drafts : call.Drafts draft)
    (sources : draft.Sources .moduleClass doc)
    (uncommented : ∀ place ∈ call.request.program.root.places,
      place.node.leading ++ place.node.trailing ++ place.node.innerComments = []) :
    draft.scope.program = call.request.program.root ∧
      (∃ place ∈ call.request.program.root.places, place.node = draft.node) ∧
      draft.values? "@extends" = none := by
  rcases drafts with ⟨scope, id, checked, inScope⟩
  have sameProgram : draft.scope.program = call.request.program.root := by
    rw [inScope, ← (scope_eq_ok checked).1]
    rfl
  rcases sources.isPlaced rfl rfl (by simp) (by simp) with
    ⟨isContained, comment, offered, tags⟩
  rw [sameProgram] at isContained offered
  refine ⟨sameProgram, isContained, ?_⟩
  rcases offered with rfl | ⟨-, node, ⟨place, isPlace, rfl⟩, isComment⟩
  · rw [Draft.values?, tags]
    decide +kernel
  · rw [uncommented place isPlace] at isComment
    cases isComment

/-- Whatever draft a record in `a.js` that has bases is built from, it is one of a class with a base. -/
theorem extendsImport_of_sources {draft : Draft} {derived : Doc}
    (drafted : ∃ call ∈ [declaring, extending "X"], call.Drafts draft)
    (sources : draft.Sources .moduleClass derived) (inFile : derived.filePath = "a.js")
    (hasBases : derived.bases ≠ none) : draft.ExtendsImport "X" "X" "./b.js" := by
  rcases drafted with ⟨call, isCall, drafts⟩
  rcases sources.built with ⟨made, built, continues⟩
  have isExtending : call = extending "X" := by
    rcases drafts with ⟨scope, id, checked, inScope⟩
    have samePath : call.scope.toOption.map Scope.filePath = some "a.js" := by
      rw [checked, ← inFile, sources.filePath, inScope]
      rfl
    rcases List.mem_pair.1 isCall with rfl | rfl
    · exact absurd samePath (by decide +kernel)
    · rfl
  rw [isExtending] at drafts
  rcases untagged_of_sources drafts sources (by decide +kernel) with
    ⟨sameProgram, ⟨place, isPlace, isNode⟩, untagged⟩
  have baseNamed : ∀ place ∈ (extending "X").request.program.root.places,
      place.node.base?.isSome → place.node.base?.bind Node.identifier? = some "X" := by
    decide +kernel
  rw [continues.bases, Draft.bases_of_build_moduleClass built] at hasBases
  have base := baseNamed place isPlace (isNode ▸ Draft.isSome_base?_of_basesOf untagged hasBases)
  refine ⟨untagged, isNode ▸ base, ?_, by decide⟩
  rw [sameProgram]
  exact ⟨[], _, _, _, _, rfl, by simp, rfl, rfl, _, List.mem_singleton_self _, _, _, rfl, rfl, rfl⟩

/-- A class that is imported under its own name is named as the base of the class that extends it. -/
theorem unrenamed_base_linked : ∃ derived ∈ (storeAfter [declaring, extending "X"] {}).docs,
    derived.category = .moduleClass ∧ ∃ draft : Draft, draft.Sources .moduleClass derived ∧
      draft.ExtendsImport "X" "X" "./b.js" ∧
      ∃ base ∈ (storeAfter [declaring, extending "X"] {}).docs, base.category = .moduleClass ∧
        base.name = some "X" ∧
        base.filePath = ModulePath.resolveImport derived.filePath "./b.js" ∧
        '~' ∉ base.filePath.toList ∧ NamesBase derived base "X" "X" := by
  have extended : ∃ derived ∈ (storeAfter [declaring, extending "X"] {}).docs,
      derived.category = .moduleClass ∧ derived.filePath = "a.js" ∧ derived.bases ≠ none := by
    decide +kernel
  have declared : ∃ base ∈ (storeAfter [declaring, extending "X"] {}).docs,
      base.category = .moduleClass ∧ base.name = some "X" ∧
        base.filePath = ModulePath.resolveImport "a.js" "./b.js" ∧ '~' ∉ base.filePath.toList := by
    decide +kernel
  rcases extended with ⟨derived, isStored, isClass, inFile, hasBases⟩
  rcases declared with ⟨base, isStoredToo, isClassToo, named, leads, noTilde⟩
  rcases imported_bases_linked [declaring, extending "X"] derived isStored isClass with
    ⟨⟨draft, drafted, sources⟩, linked⟩
  have extension := extendsImport_of_sources drafted sources inFile hasBases
  rw [← inFile] at leads
  exact ⟨derived, isStored, isClass, draft, sources, extension, base, isStoredToo, isClassToo,
    named, leads, noTilde, linked draft sources "X" "X" "./b.js" extension base isStoredToo
      isClassToo named leads noTilde⟩

/-- A class that is imported under another name is named as no class is. -/
theorem renamed_base_unlinked :
    ((storeAfter [declaring, extending "Y"] {}).docs.filter fun doc =>
        doc.category = .moduleClass).map (fun doc => (doc.longname, doc.bases)) =
      [(some "b.js~X", none), (some "a.js~Z", some ["b.js~Y"])] := by
  decide +kernel

end Module.Call

end DocHarvest
