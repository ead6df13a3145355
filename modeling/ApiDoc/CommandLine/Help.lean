import ApiDoc.CommandLine.Arguments

/-!
# Help texts

How to call the program and its commands, as the options for help show it, and in front of messages about arguments.
-/

namespace ApiDoc.CommandLine

/-- The name of the program, with the command if there is one. -/
def Scope.programName : Scope → String
  | .program => "phpdoc-tree"
  | .command c => "phpdoc-tree " ++ c.word

/-- How to call the program or a command, in one line. -/
def Scope.usage : Scope → String
  | .program => "usage: phpdoc-tree [-h] [--comment-selection \x7bfirst,last\x7d] \x7bbuild,dump\x7d ...\n"
  | .command .build => "usage: phpdoc-tree build [-h] [-o OUTPUT] source\n"
  | .command .dump => "usage: phpdoc-tree dump [-h] source\n"

/-- What stands below the line that tells how to call the program or a command. -/
def Scope.details : Scope → List String
  | .program => [
    "",
    "PHP API documentation tree generator",
    "",
    "positional arguments:",
    "  \x7bbuild,dump\x7d",
    "    build               Print the documentation tree as JSON",
    "    dump                Print an outline of the loaded syntax tree",
    "",
    "options:",
    "  -h, --help            show this help message and exit",
    "  --comment-selection \x7bfirst,last\x7d",
    "                        Which attached comment documents a declaration",
    "                        (default from settings)"]
  | .command .build => [
    "",
    "positional arguments:",
    "  source                JSON dump written by php-parse --json-dump",
    "",
    "options:",
    "  -h, --help            show this help message and exit",
    "  -o OUTPUT, --output OUTPUT",
    "                        Write JSON here instead of stdout"]
  | .command .dump => [
    "",
    "positional arguments:",
    "  source      JSON dump written by php-parse --json-dump",
    "",
    "options:",
    "  -h, --help  show this help message and exit"]

def Scope.help (scope : Scope) : String := scope.usage ++ String.join (scope.details.map (· ++ "\n"))

/-- What is shown about arguments that are wrong. -/
def UsageError.text (scope : Scope) (e : UsageError) : String :=
  scope.usage ++ scope.programName ++ ": error: " ++ e.message ++ "\n"

end ApiDoc.CommandLine
