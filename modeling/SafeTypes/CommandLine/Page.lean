/-! The usage and help texts of the program and its commands. -/
namespace SafeTypes.CommandLine

/-- The program as a whole, or one of its commands. -/
inductive Page where
  | overview
  | list
  | lookup
  deriving DecidableEq

namespace Page

def program : String := "threadsafety-registry"

/-- The name under which a page reports problems. -/
def title : Page → String
  | .overview => program
  | .list => program ++ " list"
  | .lookup => program ++ " lookup"

def usage : Page → String
  | .overview =>
      "usage: threadsafety-registry [-h] [--version] [-v] [--flag NAME=VALUE]\n" ++
      "                             [--mutable NAME]\n" ++
      "                             <command> ...\n"
  | .list => "usage: threadsafety-registry list [-h] [--format \x7btext,json\x7d] [--unsafe]\n"
  | .lookup => "usage: threadsafety-registry lookup [-h] NAME [NAME ...]\n"

/-- What a page says behind its usage. -/
def details : Page → String
  | .overview =>
      "\n" ++
      "Inspect the registry of types with known thread safety.\n" ++
      "\n" ++
      "positional arguments:\n" ++
      "  <command>\n" ++
      "    list             List known types.\n" ++
      "    lookup           Classify individual type names.\n" ++
      "\n" ++
      "options:\n" ++
      "  -h, --help         show this help message and exit\n" ++
      "  --version          show program's version number and exit\n" ++
      "  -v, --verbose      Increase log verbosity (-v INFO, -vv DEBUG).\n" ++
      "  --flag NAME=VALUE  Analysis flag, e.g. ThreadSafe:KnownThreadSafe=a.B,c.D\n" ++
      "                     (repeatable).\n" ++
      "  --mutable NAME     Fully qualified name of a type known to be mutable\n" ++
      "                     (repeatable).\n"
  | .list =>
      "\n" ++
      "options:\n" ++
      "  -h, --help            show this help message and exit\n" ++
      "  --format \x7btext,json\x7d\n" ++
      "  --unsafe              List the types known to be mutable instead.\n"
  | .lookup =>
      "\n" ++
      "positional arguments:\n" ++
      "  NAME\n" ++
      "\n" ++
      "options:\n" ++
      "  -h, --help  show this help message and exit\n"

def help (page : Page) : String :=
  page.usage ++ page.details

end Page

end SafeTypes.CommandLine
