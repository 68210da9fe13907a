import CodeAtlas.FileSystem.Path

namespace CodeAtlas

structure BuildArguments where
  path : Option Path := none
  repoUrl : Option String := none
  output : Option Path := none
  jobs : Option Nat := none
  stdout : Bool := false
deriving DecidableEq

inductive Command where
  | build (arguments : BuildArguments)
  | languages
  | pending (graph : Option Path)
  | init (force : Bool)
deriving DecidableEq

structure CommandLine where
  verbose : Bool := false
  config : Option Path := none
  command : Command
deriving DecidableEq

/-- Arguments are named as they are shown, `--jobs <JOBS>`. -/
inductive ArgumentError where
  | unexpected (word : String)
  | unknownCommand (name : String)
  | noCommand
  | noValue (argument : String)
  | badValue (argument value reason : String)
  | extraValue (argument value : String)
  | repeated (argument : String)
  | conflict (argument other : String)
deriving DecidableEq

def ArgumentError.message : ArgumentError → String
  | unexpected word => "unexpected argument '" ++ word ++ "' found"
  | unknownCommand name => "unrecognized subcommand '" ++ name ++ "'"
  | noCommand => "'codeskel' requires a subcommand but one was not provided"
  | noValue argument =>
    "a value is required for '" ++ argument ++ "' but none was supplied"
  | badValue argument value reason =>
    "invalid value '" ++ value ++ "' for '" ++ argument ++ "': " ++ reason
  | extraValue argument value =>
    "unexpected value '" ++ value ++ "' for '" ++ argument ++ "' found; no more were expected"
  | repeated argument => "the argument '" ++ argument ++ "' cannot be used multiple times"
  | conflict argument other =>
    "the argument '" ++ argument ++ "' cannot be used with '" ++ other ++ "'"

end CodeAtlas
