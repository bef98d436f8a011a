import DocHarvest.Param.Guess
import DocHarvest.Proofs.Text.Joining
import DocHarvest.Proofs.Value.Plain

/-!
# Types of object literals

The type of an object literal lists the types of its members. Two guesses make such a type: of a
value, where a member counts as unknown unless its literal is truthy, and of the default of a
parameter, where every literal counts. Only the second one agrees with the types that the literals
have on their own.
-/

namespace DocHarvest.Param

/-- A property of an object literal that gives a name to a literal. -/
inductive GivesLiteral (property : Node) : String × Node → Prop
  | intro {key value : Node} {computed : Bool} {name : String} {constant : Value} {kind : LiteralKind}
      (shape : property.shape = .objectProperty (some key) (some value) computed)
      (named : key.shape = .identifier name) (literal : value.shape = .literal constant kind) :
      GivesLiteral property (name, value)

/-- The type of an object whose members have the types that a function gives them. -/
def objectOf (type : Node → String) (members : List (String × Node)) : String :=
  objectType (members.map fun member => quotedEntry member.1 (type member.2))

/-- The type of a literal inside of an object literal. -/
def typeInside (value : Node) : String :=
  if (literalValue (some value)).isTruthy then (literalValue (some value)).typeName else "*"

/-- The type of a value on its own. -/
def typeAlone (value : Node) : String :=
  typeOf (some value)

/-- The kind of a literal. -/
def literalKind? (value : Node) : Option LiteralKind :=
  match value.shape with
  | .literal _ kind => some kind
  | _ => none

/-- The type of a literal is the same inside of an object literal as on its own. -/
structure ShowsType (value : Node) : Prop where
  noRegex : literalKind? value ≠ some .regex
  truthy : (literalValue (some value)).isTruthy ↔ literalKind? value ≠ some .null

/-! ## Type texts -/

/-- The types that literals can have. -/
def literalTypes : List String :=
  ["*", "RegExp", "boolean", "number", "string", "object"]

theorem literalTypes_told {type other : String} (isType : type ∈ literalTypes)
    (isTypeToo : other ∈ literalTypes) {rest restToo : List Char}
    (same : type.toList ++ rest = other.toList ++ restToo) : type = other := by
  have initials : ∀ type ∈ literalTypes, ∀ other ∈ literalTypes,
      type.toList.head? = other.toList.head? → type = other := by decide
  have nonempty : ∀ type ∈ literalTypes, type.toList ≠ [] := by decide
  apply initials type isType other isTypeToo
  have heads := congrArg List.head? same
  rwa [List.head?_append_of_ne_nil _ (nonempty type isType),
    List.head?_append_of_ne_nil _ (nonempty other isTypeToo)] at heads

variable {property object : Node} {properties : List Node} {member : String × Node}
  {members : List (String × Node)}

theorem typeName_mem_literalTypes (value : Value) : value.typeName ∈ literalTypes := by
  cases value <;> simp [Value.typeName, literalTypes]

theorem typeInside_mem_literalTypes (value : Node) : typeInside value ∈ literalTypes := by
  unfold typeInside
  split
  · exact typeName_mem_literalTypes _
  · decide

/-- The type of a literal by its value and its kind. -/
def literalType (constant : Value) : LiteralKind → String
  | .null => "*"
  | .regex => "RegExp"
  | _ => constant.typeName

theorem typeAlone_of_literal {value : Node} {constant : Value} {kind : LiteralKind}
    (literal : value.shape = .literal constant kind) :
    typeAlone value = literalType constant kind := by
  unfold typeAlone typeOf
  rw [Option.map_some, literal]
  cases kind <;> rfl

theorem typeAlone_mem_literalTypes {value : Node} {constant : Value} {kind : LiteralKind}
    (literal : value.shape = .literal constant kind) : typeAlone value ∈ literalTypes := by
  rw [typeAlone_of_literal literal]
  unfold literalType
  split
  · decide
  · decide
  · exact typeName_mem_literalTypes constant

theorem objectOf_congr {type other : Node → String}
    (same : ∀ member ∈ members, type member.2 = other member.2) :
    objectOf type members = objectOf other members := by
  have entries : ∀ member ∈ members,
      quotedEntry member.1 (type member.2) = quotedEntry member.1 (other member.2) := by
    intro member isMember
    rw [same member isMember]
  rw [objectOf, objectOf, List.map_congr_left entries]

/-- Two types of one object are the same if each member has the same type in both. -/
theorem objectOf_inj {type other : Node → String}
    (areTypes : ∀ member ∈ members, type member.2 ∈ literalTypes ∧ other member.2 ∈ literalTypes) :
    objectOf type members = objectOf other members ↔
      ∀ member ∈ members, type member.2 = other member.2 := by
  constructor
  · intro same
    have texts := congrArg String.toList same
    simp only [objectOf, objectType, Text.joinStrings, String.toList_append, String.toList_ofList,
      List.append_cancel_left_eq, List.append_cancel_right_eq, List.map_map] at texts
    have entries := Text.join_map_injective ?_ texts
    · intro member isMember
      have entry := entries member isMember
      simpa [quotedEntry, String.toList_inj] using entry
    · intro member isMember rest restToo same
      rcases areTypes member isMember with ⟨isType, isTypeToo⟩
      have types : (type member.2).toList ++ rest = (other member.2).toList ++ restToo := by
        simpa [quotedEntry] using same
      simp [literalTypes_told isType isTypeToo types]
  · exact objectOf_congr

theorem typeInside_eq_iff {value : Node} {constant : Value} {kind : LiteralKind}
    (literal : value.shape = .literal constant kind) :
    typeInside value = typeAlone value ↔ ShowsType value := by
  have shows : ShowsType value ↔ kind ≠ .regex ∧ (constant.isTruthy ↔ kind ≠ .null) := by
    constructor
    · rintro ⟨noRegex, truthy⟩
      simpa [literalKind?, literalValue, Node.literal?, literal] using And.intro noRegex truthy
    · rintro ⟨noRegex, truthy⟩
      constructor
      · simpa [literalKind?, literal] using noRegex
      · simpa [literalKind?, literalValue, Node.literal?, literal] using truthy
  have unlike : constant.typeName ≠ "*" ∧ constant.typeName ≠ "RegExp" := by
    cases constant <;> simp [Value.typeName]
  have inside : typeInside value = if constant.isTruthy then constant.typeName else "*" := by
    simp [typeInside, literalValue, Node.literal?, literal]
  rw [shows, inside, typeAlone_of_literal literal]
  cases kind <;> cases constant.isTruthy <;> simp [literalType, unlike, Ne.symm unlike.1]

theorem guessType_of_literal {value : Node} {constant : Value} {kind : LiteralKind}
    (literal : value.shape = .literal constant kind) :
    guessType (some value) = .ok (ofType (typeAlone value)) := by
  simp [guessType, typeIsWritable, literal, ofExpression, typeAlone]

theorem defaultType_eq_typeAlone {value : Node} {constant : Value} {kind : LiteralKind}
    (literal : value.shape = .literal constant kind) (notNull : literalKind? value ≠ some .null)
    (noRegex : literalKind? value ≠ some .regex) :
    defaultType (some value) = typeAlone value := by
  rw [typeAlone_of_literal literal]
  cases kind <;> simp_all [literalKind?, defaultType, Node.literal?, literalType]

/-! ## Members of an object literal -/

theorem isOk_guess_singleton (parameter : Node) :
    (guess [parameter]).isOk ↔ isWritableParam parameter := by
  cases writable : isWritableParam parameter <;>
    simp [guess, writable, Except.isOk, Except.toBool]

section

variable (given : List.Forall₂ GivesLiteral properties members)

include given

theorem literals_of_given :
    ∀ member ∈ members, ∃ constant kind, member.2.shape = .literal constant kind := by
  induction given with
  | nil => simp
  | cons first rest ih =>
      rcases first with ⟨shape, named, literal⟩
      exact List.forall_mem_cons.2 ⟨⟨_, _, literal⟩, ih⟩

theorem typeEntries_of_given : properties.filterMap typeEntry? =
    members.map fun member => ("\"" ++ member.1 ++ "\"", typeInside member.2) := by
  induction given with
  | nil => rfl
  | cons first rest ih =>
      rcases first with ⟨shape, named, literal⟩
      rw [List.filterMap_cons, List.map_cons, ih]
      simp [ typeEntry?, shape, keyName?, named, typeInside, Text.orNone]

theorem namedProperties_of_given : namedProperties properties =
    members.map fun member => (member.1, some member.2) := by
  induction given with
  | nil => rfl
  | cons first rest ih =>
      rcases first with ⟨shape, named, literal⟩
      simp only [namedProperties] at ih ⊢
      rw [List.filterMap_cons, List.map_cons, ih]
      simp [shape, keyName?, named]

theorem keysAreWritable_of_given : (properties.map propertyKey?).all keyIsWritable = true := by
  induction given with
  | nil => rfl
  | cons first rest ih =>
      rcases first with ⟨shape, named, literal⟩
      rw [List.map_cons, List.all_cons, ih]
      simp [propertyKey?, shape, keyIsWritable, literalValue, Node.literal?, named, Value.isWritable]

theorem typeIsWritable_of_given (shape : object.shape = .object properties) :
    typeIsWritable (some object) = true := by
  simp only [typeIsWritable, Option.map_some, shape]
  clear shape
  induction given with
  | nil => rfl
  | cons first rest ih =>
      rcases first with ⟨shape, named, literal⟩
      rw [List.all_cons, ih]
      simp [shape, keyIsWritable, literalValue, Node.literal?, named, Value.isWritable]

theorem typeOf_of_given (shape : object.shape = .object properties)
    (different : (members.map Prod.fst).Nodup) :
    typeOf (some object) = objectOf typeInside members := by
  let entry (member : String × Node) : String × String :=
    ("\"" ++ member.1 ++ "\"", typeInside member.2)
  have quoted : Function.Injective fun name : String => "\"" ++ name ++ "\"" := by
    intro name other same
    simpa using same
  have entriesDiffer : ((members.map entry).map Prod.fst).Nodup := by
    have named := different.map quoted
    rwa [List.map_map] at named ⊢
  have filled := Value.foldl_setMember [] Prod.fst Prod.snd entriesDiffer
  have written (member : String × Node) : (entry member).1 ++ ": " ++ (entry member).2 =
      quotedEntry member.1 (typeInside member.2) := by
    apply String.toList_injective
    simp [entry, quotedEntry]
  simp only [typeOf, Option.map_some, shape, typeEntries_of_given given]
  rw [filled]
  simp [objectOf, Function.comp_def, written]

/-- The default that an object literal makes lists the names with their types and values. -/
theorem withDefault_of_given (shape : object.shape = .object properties)
    (different : (members.map Prod.fst).Nodup) {left : Node} {name : String}
    (named : left.shape = .identifier name) (param : Param) :
    (withDefault (some left) (some object) param).types =
        [objectOf (fun value => defaultType (some value)) members] ∧
      (withDefault (some left) (some object) param).defaultValue =
        .object (members.map fun member => (member.1, literalValue (some member.2))) := by
  let entry (member : String × Node) : String × Option Node := (member.1, some member.2)
  have entriesDiffer : ((members.map entry).map Prod.fst).Nodup := by
    rw [List.map_map]
    exact different
  have types := Value.foldl_setMember [] Prod.fst (fun entry => defaultType entry.2)
    entriesDiffer
  have values := Value.foldl_setMember [] Prod.fst (fun entry => literalValue entry.2)
    entriesDiffer
  have unbound : patternNames (some left) = [] := by
    simp [patternNames, named]
  simp only [withDefault, Option.map_some, shape, unbound, List.foldl_nil,
    namedProperties_of_given given]
  rw [types, values]
  simp [objectOf, entry, Function.comp_def]

/--
A parameter with an object literal for its default can be guessed if the literals can be written
out.
-/
theorem isWritableParam_of_given (shape : object.shape = .object properties)
    (different : (members.map Prod.fst).Nodup) {parameter left : Node} {name : String}
    (pattern : parameter.shape = .assignmentPattern (some left) (some object))
    (named : left.shape = .identifier name) :
    isWritableParam parameter ↔ ∀ member ∈ members, (literalValue (some member.2)).isWritable := by
  have noKeys : patternKeys (some left) = [] := by
    simp [patternKeys, named]
  have default := (withDefault_of_given given shape different named {}).2
  simp only [isWritableParam, pattern, defaultIsWritable, Option.map_some, shape, noKeys, default,
    List.nil_append, keysAreWritable_of_given given, Bool.true_and, Value.isWritable,
    Value.membersAreWritable_iff, List.forall_mem_map]

/-- A guessed parameter with an object literal for its default lists the types of the literals. -/
theorem types_of_guess (shape : object.shape = .object properties)
    (different : (members.map Prod.fst).Nodup) {parameter left : Node} {name : String}
    (pattern : parameter.shape = .assignmentPattern (some left) (some object))
    (named : left.shape = .identifier name)
    (kinds : ∀ member ∈ members,
      literalKind? member.2 ≠ some .null ∧ literalKind? member.2 ≠ some .regex)
    {before after : List Node} {params : List Param}
    (guessed : guess (before ++ parameter :: after) = .ok params) :
    (params[before.length]?).map Param.types = some [objectOf typeAlone members] := by
  have all : params = guessAll (before ++ parameter :: after) := by
    unfold guess at guessed
    split at guessed
    · cases guessed
      rfl
    · cases guessed
  have types := (withDefault_of_given given shape different named
    { name := defaultedName? before.length (some left), optional := some true }).1
  have same : objectOf (fun value => defaultType (some value)) members =
      objectOf typeAlone members := by
    apply objectOf_congr
    intro member isMember
    rcases literals_of_given given member isMember with ⟨constant, kind, literal⟩
    exact defaultType_eq_typeAlone literal (kinds member isMember).1 (kinds member isMember).2
  simp [all, guessAll, ofNode, pattern, types, same]

end

/--
The type that a guess gives an object literal lists the names in their order, but it is made from
the types of the literals on their own only if every literal shows its type inside: if it is truthy
and no regular expression, or is null. A guess of a parameter with the object literal for its
default lists the types of the literals on their own, whether they are truthy or not.
-/
theorem object_types_listed (given : List.Forall₂ GivesLiteral properties members)
    (shape : object.shape = .object properties) (different : (members.map Prod.fst).Nodup) :
    (∀ member ∈ members, guessType (some member.2) = .ok (ofType (typeAlone member.2))) ∧
    guessType (some object) = .ok (ofType (objectOf typeInside members)) ∧
    (objectOf typeInside members = objectOf typeAlone members ↔
      ∀ member ∈ members, ShowsType member.2) ∧
    ∀ (parameter left : Node) (name : String),
      parameter.shape = .assignmentPattern (some left) (some object) → left.shape = .identifier name →
        (∀ member ∈ members,
          literalKind? member.2 ≠ some .null ∧ literalKind? member.2 ≠ some .regex) →
        ((guess [parameter]).isOk ↔ ∀ member ∈ members, (literalValue (some member.2)).isWritable) ∧
        ∀ before after params, guess (before ++ parameter :: after) = .ok params →
          (params[before.length]?).map Param.types = some [objectOf typeAlone members] := by
  have literals := literals_of_given given
  refine ⟨?_, ?_, ?_, ?_⟩
  · intro member isMember
    rcases literals member isMember with ⟨constant, kind, literal⟩
    exact guessType_of_literal literal
  · rw [guessType, if_pos (typeIsWritable_of_given given shape), ofExpression,
      typeOf_of_given given shape different]
  · have areTypes : ∀ member ∈ members,
        typeInside member.2 ∈ literalTypes ∧ typeAlone member.2 ∈ literalTypes := by
      intro member isMember
      rcases literals member isMember with ⟨constant, kind, literal⟩
      exact ⟨typeInside_mem_literalTypes _, typeAlone_mem_literalTypes literal⟩
    rw [objectOf_inj areTypes]
    refine forall₂_congr fun member isMember => ?_
    rcases literals member isMember with ⟨constant, kind, literal⟩
    exact typeInside_eq_iff literal
  · intro parameter left name pattern named kinds
    constructor
    · rw [← isWritableParam_of_given given shape different pattern named]
      exact isOk_guess_singleton parameter
    · intro before after params guessed
      exact types_of_guess given shape different pattern named kinds guessed

/-- The members of the object literal of a size and the label `x`. -/
def labelled (size : Int) : List (String × Node) :=
  [("size", .mk { id := 1 } (.literal (.integer size) .number)),
    ("label", .mk { id := 2 } (.literal (.text "x") .string))]

/-- A property that gives a name to a value. -/
def propertyOf (member : String × Node) : Node :=
  .mk { id := 3 + member.2.id }
    (.objectProperty (some (.mk { id := 5 + member.2.id } (.identifier member.1)))
      (some member.2) false)

/-- The object literal with the given members. -/
def objectLiteral (members : List (String × Node)) : Node :=
  .mk { id := 0 } (.object (members.map propertyOf))

/-- The type of an object literal lists the types of its literals if these are truthy. -/
theorem truthy_members_listed :
    List.Forall₂ GivesLiteral ((labelled 1).map propertyOf) (labelled 1) ∧
    ((labelled 1).map Prod.fst).Nodup ∧
    guessType (some (objectLiteral (labelled 1))) =
      .ok (ofType (objectOf typeAlone (labelled 1))) ∧
    objectOf typeAlone (labelled 1) = "\x7b\"size\": number, \"label\": string\x7d" := by
  have given : List.Forall₂ GivesLiteral ((labelled 1).map propertyOf) (labelled 1) :=
    .cons (.intro rfl rfl rfl) (.cons (.intro rfl rfl rfl) .nil)
  have different : ((labelled 1).map Prod.fst).Nodup := by decide
  have shown : ∀ member ∈ labelled 1, ShowsType member.2 := by
    refine List.forall_mem_cons.2 ⟨⟨?_, ?_⟩, List.forall_mem_cons.2 ⟨⟨?_, ?_⟩, by simp⟩⟩ <;>
      decide +kernel
  have shape : (objectLiteral (labelled 1)).shape = .object ((labelled 1).map propertyOf) := rfl
  rcases object_types_listed given shape different with
    ⟨-, guessed, agrees, -⟩
  rw [agrees.2 shown] at guessed
  exact ⟨given, different, guessed, by decide +kernel⟩

/--
A number is of type `number` on its own and in a default, but not inside of an object literal if it
is zero.
-/
theorem zero_member_unknown :
    List.Forall₂ GivesLiteral ((labelled 0).map propertyOf) (labelled 0) ∧
    ((labelled 0).map Prod.fst).Nodup ∧
    (labelled 0).map (fun member => typeAlone member.2) = ["number", "string"] ∧
    (guessType (some (objectLiteral (labelled 0)))).toOption.map Param.types =
      some ["\x7b\"size\": *, \"label\": string\x7d"] ∧
    (guess [.mk { id := 10 } (.assignmentPattern (some (.mk { id := 11 } (.identifier "options")))
      (some (objectLiteral (labelled 0))))]).toOption.map (·.map Param.types) =
      some [["\x7b\"size\": number, \"label\": string\x7d"]] := by
  refine ⟨.cons (.intro rfl rfl rfl) (.cons (.intro rfl rfl rfl) .nil), ?_⟩
  decide +kernel

end DocHarvest.Param
