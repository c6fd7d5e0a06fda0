import SiteFilter.Session
import SiteFilter.Main
import SiteFilter.Proofs.FileTree.Directories
import SiteFilter.Proofs.FileTree.Writing
import SiteFilter.Proofs.Line.Decomposition
import SiteFilter.Proofs.Path.Joined
import SiteFilter.Proofs.Run.Course
import SiteFilter.Proofs.Run.TreeEffect
import SiteFilter.Proofs.Run.Reports
import SiteFilter.Proofs.Run.Outcome
import SiteFilter.Proofs.Run.Interrupt
import SiteFilter.Proofs.Text.EncodedForm
import SiteFilter.Proofs.CommandLine.Numeral
import SiteFilter.Proofs.CommandLine.Words
import SiteFilter.Proofs.CommandLine.Progress
import SiteFilter.Proofs.CommandLine.Grammar
import SiteFilter.Proofs.Run.Repetition
import SiteFilter.Proofs.Run.Resident
import SiteFilter.Proofs.Run.Agreement
import SiteFilter.Proofs.Session.History
import SiteFilter.Proofs.Run.Account
import SiteFilter.Proofs.Selection.Recovery
import SiteFilter.Proofs.Log.LifeCycle
import SiteFilter.Proofs.FileTree.Resolution
import SiteFilter.Proofs.Session.SiteFiles
import SiteFilter.Proofs.Run.LogSettings
import SiteFilter.Proofs.Line.Concatenation
import SiteFilter.Proofs.Selection.Continuation
import SiteFilter.Proofs.Selection.Reselection
import SiteFilter.Proofs.Run.ReportLine
import SiteFilter.Proofs.Run.FilterFile
import SiteFilter.Proofs.Selection.UnifiedEnds
import SiteFilter.Proofs.Selection.Padding
import SiteFilter.Proofs.SitePaths.BaseDirectory
import SiteFilter.Proofs.CommandLine.FirstProblem
import SiteFilter.Proofs.Digest.Fingerprint
import SiteFilter.Proofs.CommandLine.CountLaw
import SiteFilter.Proofs.Log.StyleChoice
import SiteFilter.Proofs.SitePaths.Collision
import SiteFilter.Proofs.Run.GivenCount
