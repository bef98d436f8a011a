import DocHarvest.Proofs.Comment.Tagging

/-!
# Fenced code in a comment

Inside a fence every `@` is shielded before the text is cut and restored afterwards. A fenced body
comes back as it was unless a `Z` follows an `@` in it: the backslash that ends the shield and this
`Z` make up the mark at which texts are cut.
-/

namespace DocHarvest.Comment

variable {name body rest : List Char}

/-! ## Shielded text -/

theorem shield_at_cons (body : List Char) : shield ('@' :: body) = shieldMark ++ shield body :=
  Text.replaceAll_mark_append (List.cons_ne_nil '@' []) body

theorem shield_cons {first : Char} (notAt : first ≠ '@') (body : List Char) :
    shield (first :: body) = first :: shield body := by
  have clear : Text.Clear ['@'] [first] body := .of_head? rfl (by simpa using notAt.symm)
  exact Text.replaceAll_append clear

theorem shield_append (before after : List Char) :
    shield (before ++ after) = shield before ++ shield after := by
  induction before with
  | nil => rfl
  | cons first before ih =>
      by_cases isAt : first = '@'
      · subst isAt
        rw [List.cons_append, shield_at_cons, shield_at_cons, ih, List.append_assoc]
      · rw [List.cons_append, shield_cons isAt, shield_cons isAt, ih, List.cons_append]

theorem shield_of_not_mem (noAt : '@' ∉ body) : shield body = body := by
  apply Text.replaceAll_of_absent
  intro occurs
  exact noAt (occurs.subset List.mem_cons_self)

theorem at_not_mem_shield (body : List Char) : '@' ∉ shield body := by
  induction body with
  | nil => decide
  | cons first body ih =>
      by_cases isAt : first = '@'
      · subst isAt
        have notMark : '@' ∉ shieldMark := by decide
        simp [shield_at_cons, notMark, ih]
      · simp [shield_cons isAt, Ne.symm isAt, ih]

/-- A shielded text is restored. -/
theorem unshield_shield_append (noBackslash : '\\' ∉ body) (rest : List Char) :
    Text.replaceAll shieldMark ['@'] (shield body ++ rest) =
      body ++ Text.replaceAll shieldMark ['@'] rest := by
  induction body with
  | nil => rfl
  | cons first body ih =>
      rw [List.mem_cons, not_or] at noBackslash
      by_cases isAt : first = '@'
      · subst isAt
        rw [shield_at_cons, List.append_assoc, Text.replaceAll_mark_append (by decide),
          ih noBackslash.2]
        rfl
      · have starts : shieldMark.head? = some '\\' := by decide
        have clear : Text.Clear shieldMark [first] (shield body ++ rest) :=
          .of_head? starts (by simpa using noBackslash.1)
        have step : Text.replaceAll shieldMark ['@'] ([first] ++ (shield body ++ rest)) = _ :=
          Text.replaceAll_append clear
        rw [List.singleton_append, List.singleton_append] at step
        rw [shield_cons isAt, List.cons_append, step, ih noBackslash.2, List.cons_append]

theorem clear_shieldMark : Text.Clear cutMark shieldMark rest ↔ ¬ ['Z'] <+: rest := by
  have spelled : shieldMark = ['\\', 'E', 'S', 'C', 'A', 'P', 'E', 'D', '_', 'A', 'T', '\\'] := by
    decide
  simp [spelled, cutMark, Text.clear_cons]

/-- The cut mark arises in a shielded text only where a `Z` follows an `@`. -/
theorem clear_shield (noBackslash : '\\' ∉ body) (absent : ¬ ['@', 'Z'] <:+: body)
    (ends : ¬ ['Z'] <+: rest) : Text.Clear cutMark (shield body) rest := by
  induction body with
  | nil => exact Text.clear_nil
  | cons first body ih =>
      rw [List.mem_cons, not_or] at noBackslash
      rw [List.infix_cons_iff, not_or] at absent
      have later := ih noBackslash.2 absent.2
      by_cases isAt : first = '@'
      · subst isAt
        rw [shield_at_cons, Text.clear_append, clear_shieldMark]
        refine ⟨?_, later⟩
        intro follows
        rcases body with _ | ⟨next, body⟩
        · exact ends follows
        · by_cases isAtToo : next = '@'
          · subst isAtToo
            rw [shield_at_cons] at follows
            exact absurd (List.cons_prefix_cons.1 follows).1 (by decide)
          · rw [shield_cons isAtToo] at follows
            have isZ := (List.cons_prefix_cons.1 follows).1
            exact absent.1 ⟨body, by rw [← isZ]; rfl⟩
      · rw [shield_cons isAt, Text.clear_cons]
        refine ⟨?_, later⟩
        intro isPrefix
        exact noBackslash.1 (List.cons_prefix_cons.1 isPrefix).1

/-! ## A tag with fenced code -/

/-- A block comment that holds a tag and, on the lines below it, fenced code. -/
def ofFenced (name body : List Char) : Comment :=
  ofText (name ++ '\n' :: fenceMark ++ '\n' :: body ++ '\n' :: fenceMark)

/-- The lines of fenced code below a tag. -/
def fenceLines (body : List Char) : List Char :=
  '\n' :: fenceMark ++ '\n' :: body ++ '\n' :: fenceMark ++ ['\n']

theorem not_mem_fenceLines {character : Char} (notNewline : character ≠ '\n')
    (notTick : character ≠ '`') (absent : character ∉ body) : character ∉ fenceLines body := by
  simp [fenceLines, fenceMark, notNewline, notTick, absent]

/-- The pieces between the fence marks are before, within and behind the fence. -/
theorem shieldFences_fenceLines (named : IsTagName name) (noTick : '`' ∉ body) :
    shieldFences (name ++ fenceLines body) = name ++ shield (fenceLines body) := by
  have noTickName : '`' ∉ name := named.not_mem (by decide) (by decide)
  have noTickBefore : '`' ∉ name ++ ['\n'] := by simp [noTickName]
  have noTickInside : '`' ∉ '\n' :: body ++ ['\n'] := by simp [noTick]
  have cut : Text.split fenceMark (name ++ fenceLines body) =
      [name ++ ['\n'], '\n' :: body ++ ['\n'], ['\n']] := by
    have whole : name ++ fenceLines body = (name ++ ['\n']) ++ fenceMark ++
        (('\n' :: body ++ ['\n']) ++ fenceMark ++ ['\n']) := by
      simp [fenceLines]
    rw [whole, Text.split_append_mark (by decide) (Text.Clear.of_head? (by decide) noTickBefore),
      Text.split_append_mark (by decide) (Text.Clear.of_head? (by decide) noTickInside)]
    rfl
  have outside : shield fenceMark = fenceMark := shield_of_not_mem (by decide)
  have shielded : shield (fenceLines body) =
      '\n' :: fenceMark ++ shield ('\n' :: body ++ ['\n']) ++ fenceMark ++ ['\n'] := by
    have whole : fenceLines body =
        ['\n'] ++ fenceMark ++ ('\n' :: body ++ ['\n']) ++ fenceMark ++ ['\n'] := by
      simp [fenceLines]
    have newline : shield ['\n'] = ['\n'] := shield_of_not_mem (by decide)
    rw [whole, shield_append, shield_append, shield_append, shield_append, outside, newline]
    rfl
  rw [shieldFences, cut, shielded]
  simp [shieldFenced, Text.join]

/-- Shielded lines start no tag. -/
theorem mapLines_shield {change : List Char → List Char}
    (unchanged : ∀ line, ¬ StartsTag line → change line = line) (body : List Char) :
    Text.mapLines change (shield body) = shield body := by
  apply Text.mapLines_eq_self
  intro line isLine
  apply unchanged
  apply not_startsTag_of_not_mem
  intro isIn
  exact at_not_mem_shield body ((Text.isInfix_of_mem_lines isLine).subset isIn)

/-- A tag with fenced code is cut behind its name, and from there on as its shielded code is. -/
theorem tags_ofFenced (named : IsTagName name) (noTick : '`' ∉ body) (noReturn : '\r' ∉ body) :
    (ofFenced name body).tags =
      collect (name :: Text.split cutMark (emptyMark ++ shield (fenceLines body))) := by
  have whole : (name ++ '\n' :: fenceMark ++ '\n' :: body ++ '\n' :: fenceMark) ++ ['\n'] =
      name ++ fenceLines body := by
    simp [fenceLines]
  have starts : ['@'] <+: name ++ '\n' :: fenceMark ++ '\n' :: body ++ '\n' :: fenceMark := by
    apply named.isPrefix.trans
    simp
  have unstarred :
      ¬ ['*'] <+: name ++ '\n' :: fenceMark ++ '\n' :: body ++ '\n' :: fenceMark := by
    intro starred
    exact absurd (List.prefix_of_prefix_length_le starts starred (by simp)) (by decide)
  have noReturnText :
      '\r' ∉ name ++ '\n' :: fenceMark ++ '\n' :: body ++ '\n' :: fenceMark := by
    have notName : '\r' ∉ name := named.not_mem (by decide) (by decide)
    simp [notName, noReturn, fenceMark]
  have solid : ∀ last ∈ (name ++ fenceLines body).getLast?, Text.isGap last = false := by
    rw [← whole, List.getLast?_concat]
    rintro last ⟨⟩
    decide
  have single : '\n' ∉ name := named.not_mem (by decide) (by decide)
  have singleBare : '\n' ∉ name ++ ' ' :: emptyMark := by simp [single, emptyMark]
  have newline : shield (fenceLines body) =
      '\n' :: shield (fenceMark ++ '\n' :: body ++ '\n' :: fenceMark ++ ['\n']) := by
    rw [← shield_cons (by decide)]
    simp [fenceLines]
  have bare : Text.mapLines markBare (name ++ shield (fenceLines body)) =
      name ++ ' ' :: emptyMark ++ shield (fenceLines body) := by
    rw [newline, Text.mapLines_line_append single, markBare_name named,
      mapLines_shield fun _ => markBare_of_not_startsTag]
  have cut : Text.mapLines markCut (name ++ ' ' :: emptyMark ++ shield (fenceLines body)) =
      cutMark ++ name ++ cutMark ++ (emptyMark ++ shield (fenceLines body)) := by
    rw [newline, Text.mapLines_line_append singleBare, markCut_name_append named,
      mapLines_shield fun _ => markCut_of_not_startsTag, List.append_assoc]
  rw [Comment.tags, ofFenced, dropMargin_ofText noReturnText unstarred, whole,
    pieces_of_isPrefix (by simpa [← whole] using starts.trans (List.prefix_append _ ['\n'])) solid,
    shieldFences_fenceLines named noTick, bare, cut, split_marked named,
    collect_cons_of_nameless (by decide)]

/-! ## What is kept of the code -/

theorem clear_emptyMark (rest : List Char) : Text.Clear cutMark emptyMark rest := by
  have spelled : emptyMark = ['\\', 'T', 'R', 'U', 'E'] := by decide
  simp [spelled, cutMark, Text.clear_cons]

/-- A name is followed by the piece up to the first cut mark, and shielded pieces are no names. -/
theorem collect_shielded (named : IsTagName name) {value : List Char} (noAt : '@' ∉ value)
    {later : List (List Char)} (nameless : ∀ piece ∈ later, '@' ∉ piece) :
    collect (name :: value :: later) = [tagOf name value] := by
  have noName {piece : List Char} (absent : '@' ∉ piece) : ¬ ['@'] <+: piece :=
    fun isName => absent (isName.subset List.mem_cons_self)
  rw [collect_name_value named.isPrefix (noName noAt),
    collect_eq_nil fun piece isPiece => noName (nameless piece isPiece)]

theorem cleanValue_emptyMark_append (noBackslash : '\\' ∉ body) (rest : List Char) :
    cleanValue (emptyMark ++ ('\n' :: shield body ++ rest)) =
      Text.dropEndWhile (· == '\n') (body ++ Text.replaceAll shieldMark ['@'] rest) := by
  have unmarked : Text.replaceFirst emptyMark [] (emptyMark ++ ('\n' :: shield body ++ rest)) = _ :=
    Text.replaceFirst_mark_append (by decide) _
  have newline : '\n' :: shield body = shield ('\n' :: body) := (shield_cons (by decide) body).symm
  rw [cleanValue, unmarked, List.nil_append, newline,
    unshield_shield_append (by simp [noBackslash]), List.cons_append]
  rfl

/-- Where no `Z` follows an `@`, nothing but the name is cut off. -/
theorem tags_ofFenced_of_unmarked (named : IsTagName name) (noTick : '`' ∉ body)
    (noReturn : '\r' ∉ body) (noBackslash : '\\' ∉ body) (absent : ¬ ['@', 'Z'] <:+: body) :
    (ofFenced name body).tags =
      [⟨String.ofList name, String.ofList (fenceMark ++ '\n' :: body ++ '\n' :: fenceMark)⟩] := by
  have absentAround : ¬ ['@', 'Z'] <:+: fenceLines body := by
    have whole : fenceLines body =
        '\n' :: fenceMark ++ '\n' :: (body ++ '\n' :: (fenceMark ++ ['\n'])) := by
      simp [fenceLines]
    have noNewline : '\n' ∉ ['@', 'Z'] := by decide
    intro occurs
    rw [whole] at occurs
    rcases Text.infix_of_foreign noNewline occurs with inFence | inBody
    · exact absurd inFence (by decide)
    · rcases Text.infix_of_foreign noNewline inBody with inBody | inFence
      · exact absent inBody
      · exact absurd inFence (by decide)
  have noBackslashAround : '\\' ∉ fenceLines body :=
    not_mem_fenceLines (by decide) (by decide) noBackslash
  have clear : Text.Clear cutMark (emptyMark ++ shield (fenceLines body)) [] := by
    rw [Text.clear_append]
    exact ⟨clear_emptyMark _, clear_shield noBackslashAround absentAround (by decide)⟩
  have noAt : '@' ∉ emptyMark ++ shield (fenceLines body) := by
    simp [at_not_mem_shield, emptyMark]
  have clean : cleanValue (emptyMark ++ shield (fenceLines body)) =
      fenceMark ++ '\n' :: body ++ '\n' :: fenceMark := by
    have whole : fenceLines body =
        '\n' :: (fenceMark ++ '\n' :: body ++ '\n' :: fenceMark ++ ['\n']) := by
      simp [fenceLines]
    rw [whole, List.mem_cons, not_or] at noBackslashAround
    have kept := cleanValue_emptyMark_append noBackslashAround.2 []
    have nothing : Text.replaceAll shieldMark ['@'] [] = [] := rfl
    rw [nothing, List.append_nil, List.append_nil, Text.dropEndWhile_concat (by simp)] at kept
    have spelled : fenceMark ++ '\n' :: body ++ '\n' :: fenceMark =
        fenceMark ++ '\n' :: body ++ ['\n'] ++ fenceMark := by
      simp
    rw [whole, shield_cons (by decide), kept, spelled]
    have ends : fenceMark.getLast? = some '`' := by decide
    exact Text.dropEndWhile_append_of_getLast? ends (by decide)
  rw [tags_ofFenced named noTick noReturn, Text.split_of_clear clear,
    collect_shielded named noAt (by simp), tagOf, clean]

/-- The first `Z` behind an `@` cuts the text, and what is behind it is lost. -/
theorem tags_ofFenced_of_at_Z {before after : List Char} (named : IsTagName name)
    (noTick : '`' ∉ before ++ '@' :: 'Z' :: after) (noReturn : '\r' ∉ before ++ '@' :: 'Z' :: after)
    (noBackslash : '\\' ∉ before) (absent : ¬ ['@', 'Z'] <:+: before) :
    (ofFenced name (before ++ '@' :: 'Z' :: after)).tags = [⟨String.ofList name,
      String.ofList (fenceMark ++ '\n' :: before ++ "\\ESCAPED_AT".toList)⟩] := by
  have whole : fenceLines (before ++ '@' :: 'Z' :: after) =
      '\n' :: (fenceMark ++ '\n' :: before) ++ '@' :: 'Z' ::
        (after ++ '\n' :: fenceMark ++ ['\n']) := by
    simp [fenceLines]
  have broken (rest : List Char) :
      shieldMark ++ 'Z' :: rest = "\\ESCAPED_AT".toList ++ cutMark ++ rest := rfl
  have absentBefore : ¬ ['@', 'Z'] <:+: '\n' :: (fenceMark ++ '\n' :: before) := by
    intro occurs
    have noNewline : '\n' ∉ ['@', 'Z'] := by decide
    have parts : ['@', 'Z'] <:+: '\n' :: fenceMark ∨ ['@', 'Z'] <:+: before :=
      Text.infix_of_foreign noNewline occurs
    rcases parts with inFence | inBody
    · exact absurd inFence (by decide)
    · exact absent inBody
  have noBackslashBefore : '\\' ∉ fenceMark ++ '\n' :: before := by
    simp [fenceMark, noBackslash]
  have shielded : emptyMark ++ shield (fenceLines (before ++ '@' :: 'Z' :: after)) =
      (emptyMark ++ ('\n' :: shield (fenceMark ++ '\n' :: before) ++ "\\ESCAPED_AT".toList)) ++
        cutMark ++ shield (after ++ '\n' :: fenceMark ++ ['\n']) := by
    rw [whole, shield_append, shield_at_cons, shield_cons (by decide), shield_cons (by decide),
      broken]
    simp
  have clear (rest : List Char) : Text.Clear cutMark
      (emptyMark ++ ('\n' :: shield (fenceMark ++ '\n' :: before) ++ "\\ESCAPED_AT".toList))
      (cutMark ++ rest) := by
    have head : Text.Clear cutMark "\\ESCAPED_AT".toList (cutMark ++ rest) := by
      have spelled : "\\ESCAPED_AT".toList =
          ['\\', 'E', 'S', 'C', 'A', 'P', 'E', 'D', '_', 'A', 'T'] := by decide
      simp [spelled, cutMark, Text.clear_cons]
    have inside : Text.Clear cutMark ('\n' :: shield (fenceMark ++ '\n' :: before))
        ("\\ESCAPED_AT".toList ++ (cutMark ++ rest)) := by
      rw [← shield_cons (by decide)]
      apply clear_shield (by simp [noBackslashBefore]) absentBefore
      intro isPrefix
      exact absurd (List.cons_prefix_cons.1 isPrefix).1 (by decide)
    rw [Text.clear_append, Text.clear_append]
    exact ⟨clear_emptyMark _, inside, head⟩
  have noAt : '@' ∉
      emptyMark ++ ('\n' :: shield (fenceMark ++ '\n' :: before) ++ "\\ESCAPED_AT".toList) := by
    have notMarks : '@' ∉ emptyMark ∧ '@' ∉ "\\ESCAPED_AT".toList := by decide
    simp [at_not_mem_shield, notMarks]
  have clean : cleanValue
      (emptyMark ++ ('\n' :: shield (fenceMark ++ '\n' :: before) ++ "\\ESCAPED_AT".toList)) =
      fenceMark ++ '\n' :: before ++ "\\ESCAPED_AT".toList := by
    have kept : Text.replaceAll shieldMark ['@'] "\\ESCAPED_AT".toList = "\\ESCAPED_AT".toList :=
      Text.replaceAll_of_absent (by decide)
    rw [cleanValue_emptyMark_append noBackslashBefore, kept]
    have ends : "\\ESCAPED_AT".toList.getLast? = some 'T' := by decide
    exact Text.dropEndWhile_append_of_getLast? ends (by decide)
  rw [tags_ofFenced named noTick noReturn, shielded,
    Text.split_append_mark cutMark_ne_nil (clear _), collect_shielded named noAt, tagOf, clean]
  intro piece isPiece isIn
  exact at_not_mem_shield _ (Text.subset_of_mem_split cutMark_ne_nil isPiece isIn)

/--
Fenced code below a tag is read back as the text of this tag alone, as it was written, if no `Z`
follows an `@` in it. Otherwise the text breaks off in the middle of the first such `@`.
-/
theorem fenced_code_kept (named : IsTagName name) (noTick : '`' ∉ body) (noReturn : '\r' ∉ body)
    (noBackslash : '\\' ∉ body) :
    (¬ ['@', 'Z'] <:+: body → (ofFenced name body).tags =
      [⟨String.ofList name, String.ofList (fenceMark ++ '\n' :: body ++ '\n' :: fenceMark)⟩]) ∧
    ∀ before after, body = before ++ '@' :: 'Z' :: after → ¬ ['@', 'Z'] <:+: before →
      (ofFenced name body).tags = [⟨String.ofList name,
        String.ofList (fenceMark ++ '\n' :: before ++ "\\ESCAPED_AT".toList)⟩] := by
  constructor
  · exact tags_ofFenced_of_unmarked named noTick noReturn noBackslash
  · rintro before after rfl absent
    have noBackslashBefore : '\\' ∉ before :=
      fun isIn => noBackslash (List.mem_append_left _ isIn)
    exact tags_ofFenced_of_at_Z named noTick noReturn noBackslashBefore absent

theorem fenced_example_kept :
    (ofFenced "@example".toList "@decorator\nclass Foo {}".toList).tags =
      [⟨"@example", "```\n@decorator\nclass Foo {}\n```"⟩] ∧
    (ofFenced "@example".toList "@Input() x\n@Zone()".toList).tags =
      [⟨"@example", "```\n@Input() x\n\\ESCAPED_AT"⟩] := by
  have named : IsTagName "@example".toList := by decide +kernel
  have kept := @fenced_code_kept _ "@decorator\nclass Foo {}".toList named
    (by decide +kernel) (by decide +kernel) (by decide +kernel)
  have broken := @fenced_code_kept _ "@Input() x\n@Zone()".toList named
    (by decide +kernel) (by decide +kernel) (by decide +kernel)
  constructor
  · exact kept.1 (by decide +kernel)
  · exact broken.2 "@Input() x\n".toList "one()".toList (by decide +kernel) (by decide +kernel)

theorem fenced_zone_lost :
    IsTagName "@example".toList ∧ '`' ∉ "@Zone()".toList ∧ '\r' ∉ "@Zone()".toList ∧
    '\\' ∉ "@Zone()".toList ∧
    (ofFenced "@example".toList "@Zone()".toList).tags = [⟨"@example", "```\n\\ESCAPED_AT"⟩] := by
  decide +kernel

end DocHarvest.Comment
