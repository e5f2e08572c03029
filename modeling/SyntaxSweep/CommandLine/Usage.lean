import SyntaxSweep.CommandLine.Reading

namespace SyntaxSweep.CommandLine

def helpText : String :=
  "Usage: check-syntax [OPTIONS] [FILES]...\n\n" ++
  "  --stdin              take the list of files from standard input\n" ++
  "  --staged             take the files staged in git\n" ++
  "  --run-on <PATH>      a root to scan, may be given again\n" ++
  "  --extension <EXT>    an extension to select, may be given again\n" ++
  "  --ignore <PATTERN>   a part of a path that leaves a file out, may be given again\n" ++
  "  --checker <PROGRAM>  the program that checks a file\n" ++
  "  -j, --jobs <N>       how many files are checked at once\n" ++
  "  --timeout <SECS>     stop after so many seconds\n" ++
  "  --config <FILE>      the settings file\n" ++
  "  --output <FORMAT>    human or json\n" ++
  "  -v, --verbose        say more\n" ++
  "  -h, --help           print this text\n" ++
  "  -V, --version        print the version\n"

def versionText : String :=
  "check-syntax\n"

namespace UsageProblem

def message : UsageProblem → String
  | .helpAsked => helpText
  | .versionAsked => versionText
  | .unknownArgument => "error: there is no such argument\n"
  | .invalidValue => "error: a value is missing or not allowed\n"
  | .badNumber => "error: a value is not a number in range\n"
  | .notUtf8 => "error: a value is not text\n"
  | .tooManyValues => "error: a flag takes no value\n"
  | .conflict => "error: arguments exclude each other\n"

def isAnswer (p : UsageProblem) : Bool :=
  p.exitCode == 0

end UsageProblem

end SyntaxSweep.CommandLine
