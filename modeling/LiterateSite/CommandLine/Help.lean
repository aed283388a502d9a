import LiterateSite.CommandLine.Arguments

/-!
# Help

* `helpText`: what the program says about itself.
* `versionText`: its name and version.
-/

namespace LiterateSite.CommandLine

/-- Lines, each with its end. -/
def unlines (lines : List String) : String := String.join (lines.map (· ++ "\n"))

/-- What the program says about itself. -/
def helpText : Topic → String
  | .program => unlines
    ["Build a static site from annotated, executable examples",
      "",
      "Usage: exemplar [OPTIONS] [COMMAND]",
      "",
      "Commands:",
      "  init   Scaffold a config, a sample example and the page templates",
      "  build  Run the examples and build the site (default)",
      "  help   Print this message or the help of the given subcommand(s)",
      "",
      "Options:",
      "  -c, --config <CONFIG>  Path to exemplar.toml config file [default: exemplar.toml]",
      "  -v, --verbose          Enable verbose output",
      "  -h, --help             Print help",
      "  -V, --version          Print version"]
  | .init => unlines
    ["Scaffold a config, a sample example and the page templates",
      "",
      "Usage: exemplar init [OPTIONS]",
      "",
      "Options:",
      "  -y, --yes   Overwrite existing files",
      "  -h, --help  Print help"]
  | .build => unlines
    ["Run the examples and build the site (default)",
      "",
      "Usage: exemplar build [OPTIONS]",
      "",
      "Options:",
      "  -o, --output <OUTPUT>  Output directory (defaults to config or \"public\")",
      "      --no-minify        Skip minification",
      "  -h, --help             Print help"]
  | .help => unlines
    ["Print this message or the help of the given subcommand(s)",
      "",
      "Usage: exemplar help [COMMAND]...",
      "",
      "Arguments:",
      "  [COMMAND]...  Print help for the subcommand(s)"]

def versionText : String := "exemplar 0.1.0\n"

end LiterateSite.CommandLine
