import DocHarvest.Command

/-!
# Arguments of the command

The options that a list of arguments asks for: flags stand alone, settings take the argument after
them, and at most one argument names the file.
-/

namespace DocHarvest.CommandOptions

/-- The options with a flag set, if an argument is a flag. -/
def withFlag? (options : CommandOptions) : String → Option CommandOptions
  | "--test" => some { options with request := { options.request with isTest := true } }
  | "--json" => some { options with json := true }
  | "--verbose" => some options
  | "-v" => some options
  | _ => none

/-- The options with a setting made, if an argument names one. -/
def withSetting? (options : CommandOptions) (value : String) : String → Option CommandOptions
  | "--code" => some { options with request := { options.request with code := some value } }
  | "--language" =>
      some { options with request := { options.request with language := some value } }
  | "--handle-error" =>
      some { options with request := { options.request with policyName := some value } }
  | "--root" => some { options with request := { options.request with root := some value } }
  | "--name" => some { options with request := { options.request with name := some value } }
  | "--category" => some { options with category := some value }
  | _ => none

/-- The options with the path of the file, which can be given once. -/
def withPath? (options : CommandOptions) (path : String) : Option CommandOptions :=
  if options.request.path.isSome || ['-'].isPrefixOf path.toList then none
  else some { options with request := { options.request with path := some path } }

/-- The options that arguments ask for, on top of some options. -/
def extend? (options : CommandOptions) : List String → Option CommandOptions
  | [] => some options
  | [argument] => (options.withFlag? argument).or (options.withPath? argument)
  | argument :: value :: rest =>
      match options.withSetting? value argument with
      | some options => options.extend? rest
      | none =>
          match (options.withFlag? argument).or (options.withPath? argument) with
          | some options => options.extend? (value :: rest)
          | none => none

/-- The options that arguments ask for. -/
def ofArguments? (arguments : List String) : Option CommandOptions :=
  extend? {} arguments

end DocHarvest.CommandOptions
