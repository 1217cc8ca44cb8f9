import TaggedCatalog.Text.Lines

/-! # Help pages -/

namespace TaggedCatalog

inductive HelpPage where
  | group
  | generate
  | version
deriving DecidableEq, Repr

namespace HelpPage

def usage : HelpPage → String
  | group => "Usage: cmdcatalog [OPTIONS] [COMMAND] [ARGS]..."
  | generate => "Usage: cmdcatalog generate [OPTIONS] [PATHS]..."
  | version => "Usage: cmdcatalog version [OPTIONS]"

/-- How to ask for the page. -/
def request : HelpPage → String
  | group => "cmdcatalog --help"
  | generate => "cmdcatalog generate --help"
  | version => "cmdcatalog version --help"

/-- What is behind the usage line. -/
def body : HelpPage → List String
  | group =>
      ["",
       "  Render a catalog of the tagged command classes in a code base.",
       "",
       "Options:",
       "  -v, --verbose                Report more on stderr; repeat for more detail.",
       "  -q, --quiet                  Silence status messages on stderr.",
       "  --color [auto|always|never]  Styled output: auto (default), always or never.",
       "  --no-color                   Same as --color=never.",
       "  -h, --help                   Show this message and exit.",
       "",
       "Commands:",
       "  generate  Render the command catalog for the given source roots.",
       "  version   Show the installed CmdCatalog version."]
  | generate =>
      ["",
       "  Render the command catalog for the given source roots.",
       "",
       "Options:",
       "  --format TEXT         Catalog format: 'html' renders HTML; any other value",
       "                        renders plain text.",
       "  --plugin-prefix TEXT  Package prefix before '.plugin.' (e.g. 'org.example').",
       "                        Default: any prefix.",
       "  --marker TEXT         Decorator name that tags command classes (default:",
       "                        'command').",
       "  -m, --module TEXT     Import this module and catalog its tagged classes",
       "                        (repeatable).",
       "  -e, --exclude TEXT    Skip files matching this gitignore-style pattern",
       "                        (repeatable).",
       "  -o, --output TEXT     Write the catalog to this file ('-' for stdout, the",
       "                        default).",
       "  --config FILE         Read configuration from this TOML file instead of",
       "                        discovering one.",
       "  --no-config           Ignore configuration files.",
       "  -h, --help            Show this message and exit.",
       "",
       "  PATHS are directories holding top-level packages (e.g. 'src') or single .py",
       "  files. Without PATHS or --module, the [sources] table of the config file is",
       "  used."]
  | version =>
      ["",
       "  Show the installed CmdCatalog version.",
       "",
       "Options:",
       "  --format REPORTFORMAT  Report layout (text, markdown; default: text).",
       "  -h, --help             Show this message and exit."]

/-- The page without a line end behind its last line. -/
def text (page : HelpPage) : String := Text.joinStrings "\n" (page.usage :: page.body)

/-- What is shown for a mistake in the arguments of a command. -/
def mistake (page : HelpPage) (message : String) : String :=
  page.usage ++ "\nTry '" ++ page.request ++ "' for help.\n\nError: " ++ message ++ "\n"

end HelpPage

end TaggedCatalog
