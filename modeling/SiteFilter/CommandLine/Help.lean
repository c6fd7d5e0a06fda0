import SiteFilter.CommandLine.Word

/-!
# Help and version

What is printed on request, line by line.
-/

namespace SiteFilter.CommandLine

/-- Lines as text, each with its newline. -/
def printed (lines : List String) : Text := lines.flatMap fun line => line.toList ++ ['\n']

def versionText : Text := printed ["malsites 0.1.0"]

def briefHelpText : Text := printed
  ["Filter string generator for HTTP malicious domains",
   "",
   "Usage: malsites [OPTIONS]",
   "",
   "Options:",
   "  -n, --count <COUNT>          Number of filter strings to generate [default: 2]",
   "      --log-level <LOG_LEVEL>  Set stderr log verbosity [default: info] [possible values: trace, debug, info, warn, error]",
   "  -h, --help                   Print help (see more with '--help')",
   "  -V, --version                Print version"]

def fullHelpText : Text := printed
  ["Copy the first N entries of $HOME/malicious_site_list.txt into $HOME/malicious_sites_trunc.txt.",
   "",
   "Each entry is trimmed of surrounding whitespace and entries are separated by a single newline, with no newline after the last one. Set MALSITES_ROOT to use a base directory other than $HOME.",
   "",
   "Usage: malsites [OPTIONS]",
   "",
   "Options:",
   "  -n, --count <COUNT>",
   "          Number of filter strings to generate",
   "          ",
   "          [default: 2]",
   "",
   "      --log-level <LOG_LEVEL>",
   "          Set stderr log verbosity",
   "          ",
   "          [default: info]",
   "          [possible values: trace, debug, info, warn, error]",
   "",
   "  -h, --help",
   "          Print help (see a summary with '-h')",
   "",
   "  -V, --version",
   "          Print version"]

def Request.text : Request → Text
  | .briefHelp => briefHelpText
  | .fullHelp => fullHelpText
  | .version => versionText

end SiteFilter.CommandLine
