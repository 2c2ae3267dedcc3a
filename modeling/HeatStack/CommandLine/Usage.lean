/-! # Usage errors

Why a command line is not carried out: it asks for help or for the version, or it is wrong. -/
set_option autoImplicit false
namespace HeatStack.CommandLine

inductive UsageError
  | helpRequested
  | versionRequested
  /-- There are no arguments at all. -/
  | noCommand
  | unknownCommand
  | unknownArgument
  | missingArgument
  /-- An option without its value, an empty path, or a word that is none of the possible ones. -/
  | invalidValue
  /-- No number, or one out of its range. -/
  | invalidNumber
  /-- An option given twice that may occur once. -/
  | repeatedArgument
  /-- A value for an option that takes none. -/
  | superfluousValue
deriving DecidableEq

def UsageError.message : UsageError → String
  | .unknownCommand => "unknown command"
  | .unknownArgument => "unexpected argument"
  | .missingArgument => "a required argument is missing"
  | .invalidValue => "a value is missing or not possible"
  | .invalidNumber => "a number is not valid"
  | .repeatedArgument => "an option is given twice"
  | .superfluousValue => "an option takes no value"
  | _ => ""

end HeatStack.CommandLine
