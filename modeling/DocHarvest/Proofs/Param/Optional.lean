import DocHarvest.Param.Parse
import DocHarvest.Proofs.Param.Splitting

/-!
# Optional parameters

A name in brackets makes a parameter optional, and what stands behind `=` in the brackets is its
default: JSON text for the value that it denotes, any other text for itself. The brackets are found by
their depth, so a default may hold brackets of its own; but it is told from the name by cutting at
every `=`, so a default that holds an `=` itself is lost.
-/

namespace DocHarvest.Param

variable {name default : List Char}

/-- A name that is no more than that: without brackets, blanks and a default. -/
structure IsPlainName (name : List Char) : Prop where
  noDefault : '=' ∉ name
  unbracketed : ∀ character ∈ name, character ≠ '[' ∧ character ≠ ']'
  solid : ∀ character ∈ name, Text.isBlank character = false

instance : DecidablePred IsPlainName := fun name =>
  decidable_of_iff ('=' ∉ name ∧ (name.all fun character => character ≠ '[' ∧ character ≠ ']') ∧
      name.all fun character => Text.isBlank character = false) <| by
    simp only [List.all_eq_true, decide_eq_true_eq]
    constructor
    · rintro ⟨noDefault, unbracketed, solid⟩
      exact ⟨noDefault, unbracketed, solid⟩
    · rintro ⟨noDefault, unbracketed, solid⟩
      exact ⟨noDefault, unbracketed, solid⟩

theorem nested_append_default (plain : IsPlainName name) (nested : squares.Nested default) :
    squares.Nested (name ++ '=' :: default) := by
  have noBracket : ∀ character ∈ name ++ ['='],
      squares.closing? character = none ∧ squares.isClosing character = false := by
    intro character isIn
    rcases List.mem_append.1 isIn with inName | isEquals
    · have notBracket := plain.unbracketed character inName
      simp [squares, Text.Brackets.closing?, Text.Brackets.isClosing, notBracket.1,
        Ne.symm notBracket.2]
    · rw [List.mem_singleton.1 isEquals]
      decide
  have whole : squares.Nested (name ++ ['='] ++ default) :=
    (Text.Brackets.closes_append_of_plain _ noBracket).2 nested
  rwa [List.append_assoc, List.singleton_append] at whole

theorem trim_plainName (plain : IsPlainName name) : Text.trim name = name := by
  apply Text.IsTrimmed.trim_eq
  constructor
  · intro first isFirst
    exact plain.solid first (List.mem_of_mem_head? isFirst)
  · intro last isLast
    exact plain.solid last (List.mem_of_getLast? isLast)

/-- What a name with a default says of its parameter: the default counts only without a further `=`. -/
theorem withName_default (plain : IsPlainName name) (param : Param) :
    withName (some (String.ofList ('[' :: (name ++ '=' :: default ++ [']'])))) param =
      let named := { param with optional := some true, name := some (String.ofList name) }
      if '=' ∈ default then named
      else { named with
        defaultText := some (String.ofList default)
        defaultValue := valueOfDefault (String.ofList default) } := by
  have cut := Text.splitChar_append_separator plain.noDefault default
  have nonempty : (String.ofList ('[' :: (name ++ '=' :: default ++ [']']))).isEmpty = false := by
    simp
  have bare : Text.dropLast ']' (Text.dropFirst '[' ('[' :: (name ++ '=' :: default ++ [']']))) =
      name ++ '=' :: default := by
    simp [Text.dropFirst, Text.dropLast]
  have isOptional : ['['].isPrefixOf ('[' :: (name ++ '=' :: default ++ [']'])) = true := rfl
  simp only [withName, nonempty, Bool.false_eq_true, if_false, String.toList_ofList, isOptional,
    if_true, bare, cut, List.headD_cons, trim_plainName plain]
  by_cases several : '=' ∈ default
  · obtain ⟨first, next, later, pieces⟩ := Text.exists_splitChar_of_mem several
    rw [if_pos several, pieces]
  · rw [if_neg several, Text.splitChar_of_not_mem several]

theorem ofParts_anything (name description : Option String) :
    ofParts (some "*") name description =
      .ok { withName name { types := ["*"], spread := some false } with description } := by
  have typed : withType (some "*") {} = { types := ["*"], spread := some false } := by rfl
  have nonempty : (["*"].any String.isEmpty) = false := by decide
  simp only [ofParts, typed, nonempty, Bool.false_eq_true, if_false]

/-- A parameter of any type that is written with a default. -/
theorem parse_default {name default description : String} (plain : IsPlainName name.toList)
    (nested : squares.Nested default.toList) (trimmed : Text.IsTrimmed description.toList) :
    parse {} ("\x7b*\x7d [" ++ name ++ "=" ++ default ++ "] - " ++ description) = .ok (
      let named : Param :=
        { types := ["*"], name := some name, optional := some true, spread := some false,
          description := some description }
      if '=' ∈ default.toList then named
      else { named with defaultText := some default, defaultValue := valueOfDefault default }) := by
  have fits : FitsBraces ['*'] := by decide
  have isName : IsName ('[' :: (name.toList ++ '=' :: default.toList ++ [']'])) :=
    .bracketed (.of_nested (nested_append_default plain nested))
  have parts := split_of_toList fits isName trimmed
    ("\x7b*\x7d [" ++ name ++ "=" ++ default ++ "] - " ++ description) (by simp)
  have anything : String.ofList ['*'] = "*" := rfl
  simp only [parse, parts, anything, ofParts_anything, withName_default plain, String.ofList_toList]
  split <;> rfl

/--
A parameter that is written with a default is optional and keeps its name and its description. Its
default is kept whole, and read as JSON if it is JSON, just if it holds no `=`; otherwise it is lost.
-/
theorem default_kept_without_equals {name default description : String}
    (plain : IsPlainName name.toList) (nested : squares.Nested default.toList)
    (trimmed : Text.IsTrimmed description.toList) :
    ∃ param, parse {} ("\x7b*\x7d [" ++ name ++ "=" ++ default ++ "] - " ++ description) = .ok param ∧
      param.types = ["*"] ∧ param.optional = some true ∧ param.name = some name ∧
      param.description = some description ∧
      ('=' ∉ default.toList → param.defaultText = some default ∧
        (∀ value, Value.ofJson? default = some value → param.defaultValue = value) ∧
        (Value.ofJson? default = none → param.defaultValue = .text default)) ∧
      ('=' ∈ default.toList → param.defaultText = none ∧ param.defaultValue = .null) := by
  refine ⟨_, parse_default plain nested trimmed, ?_⟩
  by_cases several : '=' ∈ default.toList
  · simp [several]
  · rw [if_neg several]
    refine ⟨rfl, rfl, rfl, rfl, fun _ => ⟨rfl, ?_, ?_⟩, fun isIn => absurd isIn several⟩
    · intro value isJson
      simp [valueOfDefault, isJson]
    · intro noJson
      simp [valueOfDefault, noJson]

/-- A list is kept as the value that it denotes. -/
theorem list_default_kept :
    IsPlainName "xs".toList ∧ squares.Nested "[1, [2]]".toList ∧ Text.IsTrimmed "- all".toList ∧
    ∃ param, parse {} ("\x7b*\x7d [" ++ "xs" ++ "=" ++ "[1, [2]]" ++ "] - " ++ "- all") = .ok param ∧
      param.optional = some true ∧ param.name = some "xs" ∧ param.description = some "- all" ∧
      param.defaultText = some "[1, [2]]" ∧
      param.defaultValue = .list [.integer 1, .list [.integer 2]] := by
  have plain : IsPlainName "xs".toList := by decide +kernel
  have nested : squares.Nested "[1, [2]]".toList := by decide +kernel
  have trimmed : Text.IsTrimmed "- all".toList := by decide +kernel
  have one : Numeral.decimal? ['1'] = some 1 := by decide +kernel
  have two : Numeral.decimal? ['2'] = some 2 := by decide +kernel
  have isJson : Value.ofJson? "[1, [2]]" = some (.list [.integer 1, .list [.integer 2]]) := by
    simp +decide [Value.ofJson?, Value.value?, Value.items?, Value.scalar?, Value.name?,
      Value.names, Value.number?, Value.wholePart?, Value.fractionPart, Value.exponentPart,
      Value.skipBlanks, Value.isJsonBlank, Numeral.signed, one, two]
  obtain ⟨param, parsed, -, optional, named, described, kept, -⟩ :=
    default_kept_without_equals plain nested trimmed
  have whole := kept (by decide +kernel)
  exact ⟨plain, nested, trimmed, param, parsed, optional, named, described, whole.1,
    whole.2.1 _ isJson⟩

/-- A function as a default is lost, although its brackets are closed. -/
theorem arrow_default_lost :
    squares.Nested "x=>x".toList ∧
    ∃ param, parse {} "\x7b*\x7d [f=x=>x] - D" = .ok param ∧
      param.optional = some true ∧ param.name = some "f" ∧ param.description = some "D" ∧
      param.defaultText = none ∧ param.defaultValue = .null := by
  refine ⟨by decide +kernel, _, rfl, ?_, ?_, ?_, ?_, rfl⟩ <;> decide +kernel

end DocHarvest.Param
