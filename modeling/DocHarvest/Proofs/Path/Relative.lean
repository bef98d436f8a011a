import DocHarvest.Path.Module
import DocHarvest.Proofs.Path.Parts

/-!
# Relative imports

A file below the root of a project is named by its path from there, and a relative import in it is
resolved against its directory. `IsWay` lists the ways that lead from a directory to a path below
the same root: down, or up and down again, with `.` and detours on the way. Climbing along a way
leads to the path, and so an import along a way to a file names the file.
-/

namespace DocHarvest

namespace Path

/-! ## Climbing along absolute paths -/

section

variable {parts above : List (List Char)}

/-- What is climbed to consists of parts from before and of parts that go down. -/
theorem forall_mem_foldl_climb {holds : List Char → Prop} (known : ∀ part ∈ above, holds part)
    (each : ∀ part ∈ parts, part ≠ ['.', '.'] → holds part) :
    ∀ part ∈ parts.foldl climb above, holds part := by
  induction parts generalizing above with
  | nil => exact known
  | cons first rest ih =>
      rw [List.forall_mem_cons] at each
      refine ih ?_ each.2
      by_cases isAbove : first = ['.', '.']
      · simpa [climb, isAbove] using fun part isPart => known part (List.mem_of_mem_tail isPart)
      · simpa [climb, isAbove] using ⟨each.1 isAbove, known⟩

/-- What holds of all parts of an absolute path that go down holds after it is resolved. -/
theorem forall_mem_resolve {holds : List Char → Prop} {workingDirectory path : Path}
    (each : ∀ part ∈ (workingDirectory.append path).parts, part ≠ ['.', '.'] → holds part) :
    ∀ part ∈ (resolve workingDirectory path).parts, holds part := by
  intro part isPart
  have known : ∀ part ∈ ([] : List (List Char)), holds part := by simp
  exact forall_mem_foldl_climb known each part (List.mem_reverse.1 isPart)

theorem foldl_climb_of_ne (each : ∀ part ∈ parts, part ≠ ['.', '.']) :
    parts.foldl climb above = parts.reverse ++ above := by
  induction parts generalizing above with
  | nil => rfl
  | cons first rest ih =>
      rw [List.forall_mem_cons] at each
      have down : climb above first = first :: above := by simp [climb, each.1]
      rw [List.foldl_cons, down, ih each.2, List.reverse_cons, List.append_assoc,
        List.singleton_append]

/-- Resolving leaves no `..` in a path. -/
theorem ne_above_of_mem_resolve (workingDirectory path : Path) :
    ∀ part ∈ (resolve workingDirectory path).parts, part ≠ ['.', '.'] :=
  forall_mem_resolve fun _ _ isDown => isDown

theorem hasNull_eq_false {path : Path} :
    path.hasNull = false ↔ ∀ part ∈ path.parts, Char.ofNat 0 ∉ part := by
  simp [hasNull]

theorem hasNull_resolve {workingDirectory path : Path} (noNull : workingDirectory.hasNull = false)
    (noNullToo : path.hasNull = false) : (resolve workingDirectory path).hasNull = false := by
  rw [hasNull_eq_false] at *
  have each : ∀ part ∈ (workingDirectory.append path).parts, Char.ofNat 0 ∉ part := by
    unfold append
    split
    · exact noNullToo
    · exact List.forall_mem_append.2 ⟨noNull, noNullToo⟩
  exact forall_mem_resolve fun part isPart _ => each part isPart

end

/-! ## Climbing along imports -/

namespace Specifier

variable {part : List Char} {steps : List (List Char)} {absolute : Bool}

theorem climb_step (isStep : IsStep part) (above : List (List Char)) :
    climb absolute above part = part :: above := by
  simp [climb, isStep.isPart, isStep.ne_above]

theorem climb_here (above : List (List Char)) : climb absolute above ['.'] = above := by
  rfl

theorem climb_above (isStep : IsStep part) (above : List (List Char)) :
    climb absolute (part :: above) ['.', '.'] = above := by
  simp [climb, isPart, isStep.ne_above]

theorem foldl_climb_steps (areSteps : ∀ part ∈ steps, IsStep part) (above : List (List Char)) :
    steps.foldl (climb absolute) above = steps.reverse ++ above := by
  induction steps generalizing above with
  | nil => rfl
  | cons first rest ih =>
      rw [List.forall_mem_cons] at areSteps
      rw [List.foldl_cons, climb_step areSteps.1, ih areSteps.2, List.reverse_cons,
        List.append_assoc, List.singleton_append]

/-- As many `..` as there are steps lead back to where the steps began. -/
theorem foldl_climb_above (areSteps : ∀ part ∈ steps, IsStep part) (above : List (List Char)) :
    (List.replicate steps.length ['.', '.']).foldl (climb absolute) (steps ++ above) = above := by
  induction steps with
  | nil => rfl
  | cons first rest ih =>
      rw [List.forall_mem_cons] at areSteps
      rw [List.length_cons, List.replicate_succ, List.foldl_cons, List.cons_append,
        climb_above areSteps.1, ih areSteps.2]

/-- A path is normalised to the parts that climbing along it leads to. -/
theorem normalize_joined {parts target : List (List Char)} (nonempty : parts ≠ [])
    (areNames : ∀ part ∈ parts, IsName part) (nonemptyToo : target ≠ [])
    (areNamesToo : ∀ part ∈ target, IsName part)
    (climbed : parts.foldl (climb false) [] = target.reverse) :
    normalize (joined parts) = joined target := by
  have cut : Text.splitChar '/' (joined parts) = parts :=
    Text.splitChar_join nonempty fun part isPart => (areNames part isPart).no_slash
  have isSome := joined_ne_nil nonemptyToo areNamesToo
  have relative : (PathRoot.relative != PathRoot.relative) = false := rfl
  unfold normalize
  dsimp only
  rw [rootOf_joined areNames, cut, relative, climbed, List.reverse_reverse]
  split
  · next isNil => exact absurd isNil isSome
  · rfl

end Specifier

/-! ## Ways between files -/

/--
A file below the root of a project: the directories on the way to it, and its name. No name of a file
holds a null character.
-/
structure ProjectFile where
  directories : List (List Char)
  name : List Char
  areSteps : ∀ part ∈ directories ++ [name], IsStep part
  noNull : ∀ part ∈ directories ++ [name], Char.ofNat 0 ∉ part

namespace ProjectFile

/-- The path of a file from the root. -/
def parts (file : ProjectFile) : List (List Char) :=
  file.directories ++ [file.name]

/-- The path of a file from the root, as a text. -/
def text (file : ProjectFile) : String :=
  String.ofList (joined file.parts)

end ProjectFile

/--
The parts of a relative way from a directory to a path below the same root. It goes down behind a
`.`, or leaves some directories first and goes down from what they share with the path. Behind its
first part there may be any number of `.` and of detours into a directory and back.
-/
inductive IsWay (start target : List (List Char)) : List (List Char) → Prop
  | down {rest : List (List Char)} (inside : target = start ++ rest) :
      IsWay start target (['.'] :: rest)
  | up {shared left rest : List (List Char)} (leaves : left ≠ []) (above : start = shared ++ left)
      (inside : target = shared ++ rest) :
      IsWay start target (List.replicate left.length ['.', '.'] ++ rest)
  | pause {first : List Char} {before after : List (List Char)}
      (way : IsWay start target (first :: (before ++ after))) :
      IsWay start target (first :: (before ++ ['.'] :: after))
  | detour {first aside : List Char} {before after : List (List Char)} (isStep : IsStep aside)
      (way : IsWay start target (first :: (before ++ after))) :
      IsWay start target (first :: (before ++ aside :: ['.', '.'] :: after))

namespace IsWay

variable {start target way : List (List Char)}

/-- Climbing along a way leads to the path. -/
theorem foldl_climb (isWay : IsWay start target way) (areSteps : ∀ part ∈ start, IsStep part)
    (areStepsToo : ∀ part ∈ target, IsStep part) :
    way.foldl (Specifier.climb false) start.reverse = target.reverse := by
  induction isWay with
  | down inside =>
      subst inside
      have down := (List.forall_mem_append.1 areStepsToo).2
      rw [List.foldl_cons, Specifier.climb_here, Specifier.foldl_climb_steps down,
        List.reverse_append]
  | @up shared left rest leaves above inside =>
      subst above inside
      -- the directories to be left are on top, the innermost one first
      have areLeft : ∀ part ∈ left.reverse, IsStep part := fun part isPart =>
        areSteps part (List.mem_append_right _ (List.mem_reverse.1 isPart))
      have back : (List.replicate left.length ['.', '.']).foldl (Specifier.climb false)
          (left.reverse ++ shared.reverse) = shared.reverse := by
        rw [← List.length_reverse]
        exact Specifier.foldl_climb_above areLeft shared.reverse
      have down := (List.forall_mem_append.1 areStepsToo).2
      rw [List.foldl_append, List.reverse_append, back, Specifier.foldl_climb_steps down,
        List.reverse_append]
  | pause way ih =>
      simpa only [List.foldl_cons, List.foldl_append, Specifier.climb_here] using ih
  | detour isStep way ih =>
      simpa only [List.foldl_cons, List.foldl_append, Specifier.climb_step isStep,
        Specifier.climb_above isStep] using ih

theorem starts (isWay : IsWay start target way) : ∃ first rest, way = ('.' :: first) :: rest := by
  induction isWay with
  | down inside => exact ⟨_, _, rfl⟩
  | @up shared left rest leaves above inside =>
      obtain ⟨directory, others, rfl⟩ := List.exists_cons_of_ne_nil leaves
      exact ⟨_, _, rfl⟩
  | pause way ih | detour isStep way ih =>
      obtain ⟨first, rest, same⟩ := ih
      exact ⟨first, _, by rw [(List.cons.inj same).1]⟩

/-- All parts of a way are names. -/
theorem areNames (isWay : IsWay start target way) (areSteps : ∀ part ∈ target, IsStep part) :
    ∀ part ∈ way, IsName part := by
  have isHere : IsName ['.'] := by decide
  have isAbove : IsName ['.', '.'] := by decide
  induction isWay with
  | down inside =>
      subst inside
      have down := (List.forall_mem_append.1 areSteps).2
      exact List.forall_mem_cons.2 ⟨isHere, fun part isPart => (down part isPart).toIsName⟩
  | up leaves above inside =>
      subst above inside
      have down := (List.forall_mem_append.1 areSteps).2
      refine List.forall_mem_append.2 ⟨fun part isUp => ?_, fun part isPart =>
        (down part isPart).toIsName⟩
      exact List.eq_of_mem_replicate isUp ▸ isAbove
  | pause way ih =>
      simp only [List.forall_mem_cons, List.forall_mem_append] at ih ⊢
      exact ⟨ih.1, ih.2.1, isHere, ih.2.2⟩
  | detour isStep way ih =>
      simp only [List.forall_mem_cons, List.forall_mem_append] at ih ⊢
      exact ⟨ih.1, ih.2.1, isStep.toIsName, isAbove, ih.2.2⟩

end IsWay

end Path

namespace ModulePath

open DocHarvest.Path

variable {target way : List (List Char)}

/-- Below a resolved root a path of steps is resolved already. -/
theorem resolve_below {base : Path} {parts : List (List Char)}
    (resolved : ∀ part ∈ base.parts, part ≠ ['.', '.']) (areSteps : ∀ part ∈ parts, IsStep part) :
    Path.resolve base ⟨.single, base.parts ++ parts⟩ = ⟨.single, base.parts ++ parts⟩ := by
  have each : ∀ part ∈ base.parts ++ parts, part ≠ ['.', '.'] :=
    List.forall_mem_append.2 ⟨resolved, fun part isPart => (areSteps part isPart).ne_above⟩
  have climbed : (base.parts ++ parts).foldl climb [] = (base.parts ++ parts).reverse := by
    rw [foldl_climb_of_ne each, List.append_nil]
  change (⟨.single, ((base.parts ++ parts).foldl climb []).reverse⟩ : Path) = _
  rw [climbed, List.reverse_reverse]

/-- A file is named by its path from the root. -/
theorem exists_filePath {workingDirectory : Path} {root : String}
    (noNull : workingDirectory.hasNull = false) (noNullToo : (Path.ofText root).hasNull = false)
    (file : ProjectFile) : ∃ module, ModulePath.of workingDirectory root file.text = .ok module ∧
      module.filePath = file.text := by
  have nonempty : file.parts ≠ [] := by simp [ProjectFile.parts]
  have read : Path.ofText file.text = ⟨.relative, file.parts⟩ :=
    ofText_joined nonempty file.areSteps
  let base := Path.resolve workingDirectory (Path.ofText root)
  have below : base.append (Path.ofText file.text) = ⟨.single, base.parts ++ file.parts⟩ := by
    rw [read]
    rfl
  refine ⟨⟨base, ⟨.single, base.parts ++ file.parts⟩⟩, ?_, ?_⟩
  · rw [ModulePath.of, if_neg (by simp [noNullToo])]
    change Except.ok (⟨base, base.append (Path.ofText file.text)⟩ : ModulePath) = _
    rw [below]
  · have named : (⟨.single, base.parts ++ file.parts⟩ : Path).hasNull = false :=
      hasNull_eq_false.2 (List.forall_mem_append.2
        ⟨hasNull_eq_false.1 (hasNull_resolve noNull noNullToo), file.noNull⟩)
    have resolved : Path.resolve base ⟨.single, base.parts ++ file.parts⟩ =
        ⟨.single, base.parts ++ file.parts⟩ :=
      resolve_below (ne_above_of_mem_resolve workingDirectory (Path.ofText root)) file.areSteps
    have relative : Path.relativeTo? base ⟨.single, base.parts ++ file.parts⟩ =
        some ⟨.relative, file.parts⟩ := by
      rw [Path.relativeTo?, List.isPrefixOf?_eq_some_iff_append_eq.2 rfl]
      rfl
    unfold filePath
    dsimp only
    rw [named, resolved, relative]
    exact toText_relative nonempty

/-- An import along a way is resolved to the path that the way leads to. -/
theorem resolveImport_of_way (file : ProjectFile) (isWay : IsWay file.directories target way)
    (nonempty : target ≠ []) (areSteps : ∀ part ∈ target, IsStep part) :
    resolveImport file.text (String.ofList (joined way)) =
      String.ofList (if Specifier.hasExtension (joined target) then joined target
        else joined target ++ ".js".toList) := by
  obtain ⟨areDirectories, isFile⟩ := List.forall_mem_append.1 file.areSteps
  have noSlash := (isFile file.name (List.mem_singleton_self _)).no_slash
  have areNames (part) (isPart : part ∈ file.directories) : IsName part :=
    (areDirectories part isPart).toIsName
  have areNamesToo := isWay.areNames areSteps
  obtain ⟨first, rest, begins⟩ := isWay.starts
  have isSome : way ≠ [] := by simp [begins]
  have isRelative : ['.'].isPrefixOf (joined way) = true := by
    rw [List.isPrefixOf_iff_prefix, Text.singleton_isPrefix_iff, begins]
    exact head?_joined_cons '.' first rest
  have inDirectory : Specifier.append (Specifier.directory (joined file.parts)) (joined way) =
      joined (file.directories ++ way) := by
    rw [ProjectFile.parts, Specifier.directory_joined areNames noSlash]
    exact Specifier.append_joined areNames isSome areNamesToo
  have climbed : (file.directories ++ way).foldl (Specifier.climb false) [] = target.reverse := by
    rw [List.foldl_append, Specifier.foldl_climb_steps areDirectories, List.append_nil,
      isWay.foldl_climb areDirectories areSteps]
  have normal : Specifier.normalize (joined (file.directories ++ way)) = joined target :=
    Specifier.normalize_joined (List.append_ne_nil_of_right_ne_nil _ isSome)
      (List.forall_mem_append.2 ⟨areNames, areNamesToo⟩) nonempty
      (fun part isPart => (areSteps part isPart).toIsName) climbed
  unfold resolveImport
  dsimp only
  rw [String.toList_ofList, isRelative, if_pos rfl, ProjectFile.text, String.toList_ofList,
    inDirectory, normal]

/--
Below the root of a project, a file is named by its path, and an import along any way to a
JavaScript file names that file, with its extension or, where there is no other point in its name,
without it.
-/
theorem imports_resolved {workingDirectory : Path} {root : String}
    (noNull : workingDirectory.hasNull = false) (noNullToo : (Path.ofText root).hasNull = false)
    (importer imported : ProjectFile) {stem : List Char}
    (isScript : imported.name = stem ++ ".js".toList)
    (isNamed : ∃ character ∈ stem, character ≠ '.') :
    ∃ module, ModulePath.of workingDirectory root importer.text = .ok module ∧
      module.filePath = importer.text ∧
      (∀ way, IsWay importer.directories imported.parts way →
        resolveImport module.filePath (String.ofList (joined way)) = imported.text) ∧
      ('.' ∉ stem → ∀ way, IsWay importer.directories (imported.directories ++ [stem]) way →
        resolveImport module.filePath (String.ofList (joined way)) = imported.text) := by
  obtain ⟨module, located, named⟩ := exists_filePath noNull noNullToo importer
  obtain ⟨areDirectories, isName⟩ := List.forall_mem_append.1 imported.areSteps
  have noSlash := (isName imported.name (List.mem_singleton_self _)).no_slash
  have isFile : imported.parts = imported.directories ++ [stem ++ ".js".toList] := by
    rw [ProjectFile.parts, isScript]
  refine ⟨module, located, named, fun way isWay => ?_, fun noPoint way isWay => ?_⟩
  · have hasOne : Specifier.hasExtension (joined imported.parts) = true := by
      rw [isFile]
      exact Specifier.hasExtension_joined (isScript ▸ noSlash) isNamed imported.directories
    rw [named, resolveImport_of_way importer isWay (by simp [isFile]) imported.areSteps,
      if_pos hasOne, ProjectFile.text]
  · obtain ⟨character, isIn, -⟩ := isNamed
    have noSlashToo : '/' ∉ stem := fun isSlash =>
      noSlash (isScript ▸ List.mem_append_left _ isSlash)
    have isStep : IsStep stem := isStep_of_not_mem (List.ne_nil_of_mem isIn) noSlashToo noPoint
    have areSteps : ∀ part ∈ imported.directories ++ [stem], IsStep part :=
      List.forall_mem_append.2 ⟨areDirectories, by simpa using isStep⟩
    have hasNone : Specifier.hasExtension (joined (imported.directories ++ [stem])) = false :=
      Specifier.hasExtension_joined_of_not_mem noSlashToo noPoint imported.directories
    rw [named, resolveImport_of_way importer isWay (by simp) areSteps, hasNone, ProjectFile.text,
      isFile, Specifier.joined_concat, Specifier.joined_concat, List.append_assoc]
    rfl

theorem baz_imported_from_foo :
    ∃ module, ModulePath.of ⟨.single, []⟩ "/project" "src/foo.js" = .ok module ∧
      module.filePath = "src/foo.js" ∧
      resolveImport module.filePath "../lib/tests/.././baz.js" = "lib/baz.js" ∧
      resolveImport module.filePath "../lib/tests/.././baz" = "lib/baz.js" := by
  let foo : ProjectFile := ⟨["src".toList], "foo.js".toList, by decide, by decide⟩
  let baz : ProjectFile := ⟨["lib".toList], "baz.js".toList, by decide, by decide⟩
  have isWay (name : List Char) : IsWay foo.directories (baz.directories ++ [name])
      [['.', '.'], "lib".toList, "tests".toList, ['.', '.'], ['.'], name] := by
    have goesUp : IsWay foo.directories (baz.directories ++ [name])
        [['.', '.'], "lib".toList, name] :=
      @IsWay.up _ _ [] foo.directories ["lib".toList, name] (by decide) rfl rfl
    have turns : IsWay foo.directories (baz.directories ++ [name])
        [['.', '.'], "lib".toList, "tests".toList, ['.', '.'], name] :=
      @IsWay.detour _ _ _ "tests".toList ["lib".toList] [name] (by decide) goesUp
    exact @IsWay.pause _ _ _ ["lib".toList, "tests".toList, ['.', '.']] [name] turns
  have noNull : (⟨.single, []⟩ : Path).hasNull = false := by decide
  have noNullToo : (Path.ofText "/project").hasNull = false := by decide
  have isScript : baz.name = "baz".toList ++ ".js".toList := by decide
  obtain ⟨module, located, named, whole, short⟩ :=
    imports_resolved noNull noNullToo foo baz isScript ⟨'b', by decide, by decide⟩
  have wholeName := whole _ (isWay "baz.js".toList)
  have shortName := short (by decide) _ (isWay "baz".toList)
  exact ⟨module, located, named, wholeName, shortName⟩

end ModulePath

end DocHarvest
