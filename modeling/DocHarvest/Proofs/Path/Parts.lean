import DocHarvest.Path.Specifier
import DocHarvest.Proofs.Text.Cutting
import DocHarvest.Proofs.Text.Joining
import DocHarvest.Proofs.Text.Lines

/-!
# Paths by their parts

A path below a directory is given by its parts, each of which leads one level down, and its text
has a slash between each two of them. Such a text is cut into its parts again, ends in the name of a
file behind its directory, and is joined to another one by joining the lists of parts.
-/

namespace DocHarvest

namespace Text

/-- Joined texts are cut apart again at a separator that none of them holds. -/
theorem splitChar_join {separator : Char} {pieces : List (List Char)} (nonempty : pieces ≠ [])
    (absent : ∀ piece ∈ pieces, separator ∉ piece) :
    splitChar separator (join [separator] pieces) = pieces := by
  induction pieces with
  | nil => exact absurd rfl nonempty
  | cons piece pieces ih =>
      rw [List.forall_mem_cons] at absent
      cases pieces with
      | nil => simpa [join] using splitChar_of_not_mem absent.1
      | cons next rest =>
          have cut := splitChar_append_separator absent.1 (join [separator] (next :: rest))
          rw [ih (List.cons_ne_nil next rest) absent.2] at cut
          simpa [join, List.intercalate_cons_cons] using cut

end Text

namespace Path

/-- A text that may stand between two slashes of a path. -/
@[mk_iff]
structure IsName (part : List Char) : Prop where
  ne_nil : part ≠ []
  no_slash : '/' ∉ part

/-- A name that leads from a directory to something in it. -/
@[mk_iff]
structure IsStep (part : List Char) : Prop extends IsName part where
  ne_here : part ≠ ['.']
  ne_above : part ≠ ['.', '.']

/-- The characters of a path with some parts. -/
def joined (parts : List (List Char)) : List Char :=
  Text.join ['/'] parts

variable {part name : List Char} {parts others directories : List (List Char)}

instance : Decidable (IsName part) :=
  decidable_of_iff _ (isName_iff part).symm

instance : Decidable (IsStep part) :=
  decidable_of_iff _ (isStep_iff part).symm

theorem IsStep.isPart (isStep : IsStep part) : isPart part = true := by
  simp [Path.isPart, isStep.ne_nil, isStep.ne_here]

theorem isStep_of_not_mem (nonempty : part ≠ []) (noSlash : '/' ∉ part) (noPoint : '.' ∉ part) :
    IsStep part where
  ne_nil := nonempty
  no_slash := noSlash
  ne_here := by
    rintro rfl
    exact noPoint (by decide)
  ne_above := by
    rintro rfl
    exact noPoint (by decide)

theorem joined_append (nonempty : parts ≠ []) (nonemptyToo : others ≠ []) :
    joined (parts ++ others) = joined parts ++ '/' :: joined others := by
  rw [joined, Text.join_append ['/'] nonempty nonemptyToo, List.append_assoc,
    List.singleton_append]
  rfl

theorem joined_singleton (part : List Char) : joined [part] = part := by
  simp [joined, Text.join]

theorem joined_ne_nil (nonempty : parts ≠ []) (areNames : ∀ part ∈ parts, IsName part) :
    joined parts ≠ [] := by
  obtain ⟨first, rest, rfl⟩ := List.exists_cons_of_ne_nil nonempty
  have inJoined : first ⊆ joined (first :: rest) := Text.subset_join ['/'] List.mem_cons_self
  exact fun isNil =>
    (areNames first List.mem_cons_self).ne_nil (List.subset_nil.1 (isNil ▸ inJoined))

theorem head?_joined_cons (first : Char) (part : List Char) (parts : List (List Char)) :
    (joined ((first :: part) :: parts)).head? = some first := by
  cases parts <;> simp [joined, Text.join, List.intercalate_cons_cons]

theorem head?_joined (areNames : ∀ part ∈ parts, IsName part) :
    ∀ first ∈ (joined parts).head?, first ≠ '/' := by
  cases parts with
  | nil => simp [joined, Text.join]
  | cons part rest =>
      obtain ⟨isSome, noSlash⟩ := areNames part List.mem_cons_self
      obtain ⟨start, others, rfl⟩ := List.exists_cons_of_ne_nil isSome
      rw [head?_joined_cons]
      rintro _ ⟨⟩ rfl
      exact noSlash List.mem_cons_self

theorem getLast?_joined (areNames : ∀ part ∈ parts, IsName part) :
    ∀ last ∈ (joined parts).getLast?, last ≠ '/' := by
  rcases List.eq_nil_or_concat parts with rfl | ⟨before, part, rfl⟩
  · simp [joined, Text.join]
  · rw [List.concat_eq_append] at areNames ⊢
    obtain ⟨isSome, noSlash⟩ := areNames part (by simp)
    have ends : (joined (before ++ [part])).getLast? = part.getLast? := by
      by_cases isNil : before = []
      · rw [isNil, List.nil_append, joined_singleton]
      · rw [joined_append isNil (List.cons_ne_nil part []), joined_singleton,
          List.getLast?_append_of_ne_nil _ (List.cons_ne_nil _ _),
          List.getLast?_cons_of_ne_nil isSome]
    rw [ends]
    rintro last isLast rfl
    exact noSlash (List.mem_of_getLast? isLast)

/-! ## Reading -/

theorem rootOf_joined (areNames : ∀ part ∈ parts, IsName part) :
    rootOf (joined parts) = .relative := by
  have starts := head?_joined areNames
  unfold rootOf
  split <;> simp_all

/-- A text that joins steps denotes the relative path of these steps. -/
theorem ofText_joined (nonempty : parts ≠ []) (areSteps : ∀ part ∈ parts, IsStep part) :
    ofText (String.ofList (joined parts)) = ⟨.relative, parts⟩ := by
  have cut := Text.splitChar_join nonempty fun part isPart => (areSteps part isPart).no_slash
  have kept : parts.filter isPart = parts :=
    List.filter_eq_self.2 fun part isPart => (areSteps part isPart).isPart
  have relative := rootOf_joined fun part isPart => (areSteps part isPart).toIsName
  rw [ofText, String.toList_ofList, relative, joined, cut, kept]

theorem toText_relative (nonempty : parts ≠ []) :
    (⟨.relative, parts⟩ : Path).toText = String.ofList (joined parts) := by
  simp [toText, nonempty, PathRoot.text, joined]

namespace Specifier

/-- The text of a directory as it stands in front of what is in it. -/
def opened (directories : List (List Char)) : List Char :=
  if directories = [] then [] else joined directories ++ ['/']

theorem joined_concat (directories : List (List Char)) (name : List Char) :
    joined (directories ++ [name]) = opened directories ++ name := by
  unfold opened
  split
  · next isNil => rw [isNil, List.nil_append, List.nil_append, joined_singleton]
  · next isSome =>
    rw [joined_append isSome (List.cons_ne_nil name []), joined_singleton, List.append_assoc,
      List.singleton_append]

/-- Seen from its end, a text goes on with a slash behind the last name. -/
theorem head?_reverse_opened (directories : List (List Char)) :
    ∀ last ∈ (opened directories).reverse.head?, (last != '/') = false := by
  unfold opened
  split <;> simp

theorem bne_slash (noSlash : '/' ∉ name) :
    ∀ character ∈ name.reverse, (character != '/') = true := by
  intro character isIn
  exact bne_iff_ne.2 (ne_of_mem_of_not_mem (List.mem_reverse.1 isIn) noSlash)

theorem fileName_joined (noSlash : '/' ∉ name) (directories : List (List Char)) :
    fileName (joined (directories ++ [name])) = name := by
  rw [fileName, joined_concat, List.reverse_append,
    Text.takeWhile_eq (bne_slash noSlash) (head?_reverse_opened directories), List.reverse_reverse]

/-- A name has an extension if a point stands behind a character that is none. -/
theorem hasExtension_joined {stem extension : List Char} (noSlash : '/' ∉ stem ++ '.' :: extension)
    (isNamed : ∃ character ∈ stem, character ≠ '.') (directories : List (List Char)) :
    hasExtension (joined (directories ++ [stem ++ '.' :: extension])) = true := by
  have isKept : stem.dropWhile (· == '.') ≠ [] := by
    obtain ⟨character, isIn, noPoint⟩ := isNamed
    rw [Ne, List.dropWhile_eq_nil_iff]
    exact fun areAll => noPoint (beq_iff_eq.1 (areAll character isIn))
  rw [hasExtension, fileName_joined noSlash, List.dropWhile_append,
    if_neg (by simpa only [List.isEmpty_iff] using isKept)]
  simp

theorem hasExtension_joined_of_not_mem (noSlash : '/' ∉ name) (noPoint : '.' ∉ name)
    (directories : List (List Char)) :
    hasExtension (joined (directories ++ [name])) = false := by
  have absent : '.' ∉ name.dropWhile (· == '.') := fun isIn =>
    noPoint ((List.dropWhile_suffix _).subset isIn)
  rw [hasExtension, fileName_joined noSlash]
  simpa using absent

theorem upToSlash_joined (noSlash : '/' ∉ name) (directories : List (List Char)) :
    upToSlash (joined (directories ++ [name])) = opened directories := by
  rw [upToSlash, joined_concat, List.reverse_append,
    Text.dropWhile_eq (bne_slash noSlash) (head?_reverse_opened directories), List.reverse_reverse]

theorem directory_joined (areNames : ∀ part ∈ directories, IsName part)
    (noSlash : '/' ∉ name) : directory (joined (directories ++ [name])) = joined directories := by
  rw [directory, upToSlash_joined noSlash, opened]
  by_cases isNil : directories = []
  · rw [isNil]
    rfl
  · have ends := getLast?_joined areNames
    have isSome := joined_ne_nil isNil areNames
    have kept : Text.dropEndWhile (· == '/') (joined directories) = joined directories :=
      Text.dropEndWhile_of_getLast? fun last isLast => beq_false_of_ne (ends last isLast)
    have named : (joined directories ++ ['/']).all (· == '/') = false := by
      have isLast := List.getLast?_eq_getLast_of_ne_nil isSome
      rw [List.all_eq_false]
      exact ⟨_, List.mem_append_left _ (List.getLast_mem isSome), by simpa using ends _ isLast⟩
    rw [if_neg isNil]
    rw [named, Text.dropEndWhile_concat rfl, kept]
    rfl

theorem append_joined (areNames : ∀ part ∈ directories, IsName part) (nonempty : others ≠ [])
    (areNamesToo : ∀ part ∈ others, IsName part) :
    append (joined directories) (joined others) = joined (directories ++ others) := by
  have starts : ['/'].isPrefixOf (joined others) = false := by
    rw [Bool.eq_false_iff, Ne, List.isPrefixOf_iff_prefix, Text.singleton_isPrefix_iff]
    exact fun isSlash => head?_joined areNamesToo '/' isSlash rfl
  rw [append, starts]
  by_cases isNil : directories = []
  · rw [isNil]
    rfl
  · have ends :
        ((joined directories).isEmpty || (joined directories).getLast? == some '/') = false := by
      have isSome := joined_ne_nil isNil areNames
      rw [Bool.or_eq_false_iff, beq_eq_false_iff_ne, List.isEmpty_eq_false_iff]
      exact ⟨isSome, fun isSlash => getLast?_joined areNames '/' isSlash rfl⟩
    rw [ends, joined_append isNil nonempty]
    rfl

end Specifier

end Path

end DocHarvest
