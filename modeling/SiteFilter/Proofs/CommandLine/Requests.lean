import SiteFilter.CommandLine.Help
import SiteFilter.Proofs.CommandLine.Words

/-!
# Requests

A command line may ask for a text in place of a run. `Asks` holds the arguments that ask for one, and
`Prints` the three texts as they are printed.

What is proved:
  1. `ofArgument_of_asks` — an argument that asks for a text is read as a request.
  2. `prints_text`, `Prints.unique` — a request prints its text, letter for letter, and no other.
-/

namespace SiteFilter.CommandLine

/-- The spellings of a request. Whatever follows the letter of one in its cluster does not count. -/
inductive Asks : Request → Bytes → Prop where
  | briefHelp (rest : Bytes) : Asks .briefHelp (spelled "-h" ++ rest)
  | fullHelp : Asks .fullHelp (spelled "--help")
  | versionLetter (rest : Bytes) : Asks .version (spelled "-V" ++ rest)
  | versionName : Asks .version (spelled "--version")

theorem ofArgument_of_asks {request : Request} {a : Bytes} (h : Asks request a) :
    Word.ofArgument a = .request request := by
  cases h with
  | briefHelp rest => rfl
  | fullHelp => rfl
  | versionLetter rest => rfl
  | versionName => rfl

/-! ## The texts -/

/-- What a request prints. -/
inductive Prints : Request → Text → Prop where
  | version : Prints .version "malsites 0.1.0\n".toList
  | briefHelp : Prints .briefHelp (
      "Filter string generator for HTTP malicious domains\n".toList ++
      "\n".toList ++
      "Usage: malsites [OPTIONS]\n".toList ++
      "\n".toList ++
      "Options:\n".toList ++
      "  -n, --count <COUNT>          Number of filter strings to generate [default: 2]\n".toList ++
      "      --log-level <LOG_LEVEL>  Set stderr log verbosity [default: info] [possible values: trace, debug, info, warn, error]\n".toList ++
      "  -h, --help                   Print help (see more with '--help')\n".toList ++
      "  -V, --version                Print version\n".toList)
  | fullHelp : Prints .fullHelp (
      "Copy the first N entries of $HOME/malicious_site_list.txt into $HOME/malicious_sites_trunc.txt.\n".toList ++
      "\n".toList ++
      "Each entry is trimmed of surrounding whitespace and entries are separated by a single newline, with no newline after the last one. Set MALSITES_ROOT to use a base directory other than $HOME.\n".toList ++
      "\n".toList ++
      "Usage: malsites [OPTIONS]\n".toList ++
      "\n".toList ++
      "Options:\n".toList ++
      "  -n, --count <COUNT>\n".toList ++
      "          Number of filter strings to generate\n".toList ++
      "          \n".toList ++
      "          [default: 2]\n".toList ++
      "\n".toList ++
      "      --log-level <LOG_LEVEL>\n".toList ++
      "          Set stderr log verbosity\n".toList ++
      "          \n".toList ++
      "          [default: info]\n".toList ++
      "          [possible values: trace, debug, info, warn, error]\n".toList ++
      "\n".toList ++
      "  -h, --help\n".toList ++
      "          Print help (see a summary with '-h')\n".toList ++
      "\n".toList ++
      "  -V, --version\n".toList ++
      "          Print version\n".toList)

theorem printed_cons (line : String) (lines : List String) :
    printed (line :: lines) = (line ++ "\n").toList ++ printed lines := by
  rw [String.toList_append]
  rfl

theorem printed_nil : printed [] = [] := rfl

/-- The lines of each text, with their line feeds, are put together from the left or from the right. -/
theorem prints_text (request : Request) : Prints request request.text := by
  cases request with
  | version =>
    have h := Prints.version
    show Prints .version versionText
    simp only [versionText, printed_cons, printed_nil, String.reduceAppend, List.append_nil]
    exact h
  | briefHelp =>
    have h := Prints.briefHelp
    simp only [List.append_assoc] at h
    show Prints .briefHelp briefHelpText
    simp only [briefHelpText, printed_cons, printed_nil, String.reduceAppend, List.append_nil]
    exact h
  | fullHelp =>
    have h := Prints.fullHelp
    simp only [List.append_assoc] at h
    show Prints .fullHelp fullHelpText
    simp only [fullHelpText, printed_cons, printed_nil, String.reduceAppend, List.append_nil]
    exact h

theorem Prints.unique {request : Request} {t u : Text} (h : Prints request t)
    (h' : Prints request u) : t = u := by
  cases h <;> cases h' <;> rfl

end SiteFilter.CommandLine
