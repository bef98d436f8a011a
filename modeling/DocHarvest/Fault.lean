import DocHarvest.Text.Basic
import DocHarvest.Text.Quoted
import DocHarvest.Text.Utf8
import DocHarvest.Value.Basic

/-!
# Faults

Everything that can go wrong while documentation is produced, by its cause. The wording is in
`Fault.message` alone, and `Fault.kind` groups the causes.
-/

namespace DocHarvest

/-- The cause of a failure. -/
inductive Fault
  /-- A tag gives a type with an empty alternative. -/
  | emptyType (name description : Option String)
  /-- A variable was to be documented by a node that declares none. -/
  | notVariable (type : String)
  /-- A declaration binds something other than a name or a pattern with parts. -/
  | unknownBinding (type : Option String)
  /-- A decorator is neither a name, a member nor a call. -/
  | unknownDecorator (type : Option String)
  /-- A test block is opened by an unknown function. -/
  | unknownBlock (callee : String)
  /-- A record with this id is already stored. -/
  | duplicateId (id : Int)
  /-- Something other than a program was to be documented. -/
  | notProgram (type : String)
  /-- The path of the module is no text. -/
  | pathNotText (type : String)
  /-- A name of no fault policy. -/
  | unknownPolicy (name : String)
  /-- The root of a syntax tree is no program. -/
  | rootNotProgram (type : String)
  /-- A part that a decorator needs is missing from the syntax tree. -/
  | missingPart
  /-- A list of statements was to be searched as if it were the body of a function. -/
  | looseBody
  /-- The environment names no fault policy. -/
  | invalidPolicySetting (setting : String)
  /-- A language that is not supported. -/
  | unsupportedLanguage (name : String)
  /-- A file extension that belongs to no supported language. -/
  | unsupportedExtension (extension : String)
  /-- Neither a language nor a path to tell it from. -/
  | languageUnknown
  /-- Neither a path nor code. -/
  | sourceMissing
  /-- No file at a path. -/
  | fileMissing (path : String)
  /-- A directory where a file was expected. -/
  | notAFile (path : String)
  /-- A path that goes on after a file. -/
  | notADirectory (path : String)
  /-- A path, or a name in it, that is longer than files may have. -/
  | pathTooLong (path : String)
  /-- A path with a null character. -/
  | nullInPath
  /-- A file that is not well-formed UTF-8 at these bytes. -/
  | illFormed (start stop : Nat) (lead : UInt8) (reason : Text.Utf8.Reason)
  /-- An integer with more digits than are written out. -/
  | integerTooLong
  /-- A closing tag in printed text that closes nothing. -/
  | unopenedTag (tag : String)
  /-- A list or an object in place of an id. -/
  | notAnId (type : String)
  /-- A question about a field that records do not have. -/
  | unknownField (name : String)
  /-- Data that makes no record. -/
  | invalidRecord
  /-- A cause of which only the wording is known. -/
  | other (text : String)
deriving DecidableEq, Repr

/-- The groups that causes fall into. -/
inductive FaultKind
  | value
  | type
  | missingFile
  | directory
  | pathThroughFile
  | fileSystem
  | encoding
  | markup
  | field
  | record
deriving DecidableEq, Repr

namespace Fault

/-- The group of a cause. -/
def kind : Fault → FaultKind
  | .notProgram _ | .pathNotText _ | .rootNotProgram _ | .notAnId _ => .type
  | .fileMissing _ => .missingFile
  | .notAFile _ => .directory
  | .notADirectory _ => .pathThroughFile
  | .pathTooLong _ => .fileSystem
  | .unopenedTag _ => .markup
  | .illFormed .. => .encoding
  | .missingPart | .looseBody | .unknownField _ => .field
  | .invalidRecord => .record
  | .emptyType .. | .notVariable _ | .unknownBinding _ | .unknownDecorator _ | .unknownBlock _
  | .duplicateId _ | .unknownPolicy _ | .invalidPolicySetting _ | .unsupportedLanguage _
  | .unsupportedExtension _ | .languageUnknown | .sourceMissing | .nullInPath | .integerTooLong
  | .other _ => .value

/-- The wording of a reason for ill-formed bytes. -/
def reasonText : Text.Utf8.Reason → String
  | .invalidStart => "invalid start byte"
  | .invalidContinuation => "invalid continuation byte"
  | .unexpectedEnd => "unexpected end of data"

/-- Where ill-formed bytes stand; a single byte is shown as well. -/
def bytesText (start stop : Nat) (lead : UInt8) : String :=
  if stop == start + 1 then
    "byte 0x" ++ String.ofList (Text.Quoted.hexadecimal 2 lead.toNat) ++ " in position " ++
      Value.integerText start
  else
    "bytes in position " ++ Value.integerText start ++ "-" ++
      Value.integerText ((stop : Int) - 1)

/-- The wording of a cause. -/
def message : Fault → String
  | .emptyType name description =>
      "Empty type found name=" ++ Text.orNone name ++ " desc=" ++ Text.orNone description
  | .notVariable type => "not a variable declaration: " ++ type
  | .unknownBinding type => "unknown declarations type: " ++ Text.orNone type
  | .unknownDecorator type => "unknown decorator expression type: " ++ Text.orNone type
  | .unknownBlock callee => "Unknown name. node.callee.name = " ++ callee
  | .duplicateId id => "Duplicate doc id " ++ Value.integerText id
  | .notProgram type => "'ast' is not a 'Program': " ++ type
  | .pathNotText type => "'file_path' is not a 'string': " ++ type
  | .unknownPolicy name =>
      "Unknown handle_error: " ++ name ++ ". Expected one of log, throw"
  | .rootNotProgram type => "expected a program root, got " ++ type
  | .missingPart => "'NoneType' object has no attribute 'type'"
  | .looseBody => "'list' object has no attribute 'children'"
  | .invalidPolicySetting setting =>
      "CODEX_DOCS_HANDLE_ERROR must be 'log' or 'throw', got '" ++ setting ++ "'"
  | .unsupportedLanguage name =>
      "Unsupported language '" ++ name ++ "'. Supported: ['javascript']"
  | .unsupportedExtension extension => "Unsupported file extension: " ++ extension
  | .languageUnknown => "Language must be provided when no file path is available."
  | .sourceMissing => "Either a path or code must be provided."
  | .fileMissing path => "File not found: " ++ path
  | .notAFile path => "[Errno 21] Is a directory: " ++ Text.Quoted.quoted path
  | .notADirectory path => "[Errno 20] Not a directory: " ++ Text.Quoted.quoted path
  | .pathTooLong path => "[Errno 36] File name too long: " ++ Text.Quoted.quoted path
  | .nullInPath => "embedded null byte"
  | .integerTooLong =>
      "Exceeds the limit (4300 digits) for integer string conversion; " ++
        "use sys.set_int_max_str_digits() to increase the limit"
  | .unopenedTag tag => "closing tag '[" ++ tag ++ "]' doesn't match any open tag"
  | .illFormed start stop lead reason =>
      "'utf-8' codec can't decode " ++ bytesText start stop lead ++ ": " ++ reasonText reason
  | .notAnId type => "unhashable type: '" ++ type ++ "'"
  | .unknownField name => "'DocObject' object has no attribute " ++ Text.Quoted.quoted name
  | .invalidRecord => "invalid record"
  | .other text => text

/-- Whether a cause is one that a user can mend and that is reported in a message. -/
def isReported (fault : Fault) : Bool :=
  match fault.kind with
  | .value | .type | .missingFile | .encoding => true
  | .directory | .pathThroughFile | .fileSystem | .markup | .field | .record => false

end Fault

end DocHarvest
