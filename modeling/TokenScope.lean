import TokenScope.Lexer.Session
import TokenScope.Main
import TokenScope.Tree.Record
import TokenScope.Tree.Shelf
import TokenScope.Tree.Workbench
import TokenScope.Proofs.Lexing.Pieces
import TokenScope.Proofs.Lexing.Places
import TokenScope.Proofs.Lexing.Partition
import TokenScope.Proofs.Lexing.Separation
import TokenScope.Proofs.Lexing.LineFeeds
import TokenScope.Proofs.Lexing.Lines
import TokenScope.Proofs.Lexing.Numerals
import TokenScope.Proofs.Lexing.Language
import TokenScope.Proofs.Lexing.RoundTrip
import TokenScope.Proofs.Lexing.Requests
import TokenScope.Proofs.Lexing.Findings
import TokenScope.Proofs.Recording.Explained
import TokenScope.Proofs.Browser.SourceLines
import TokenScope.Proofs.Browser.Colouring
import TokenScope.Proofs.Browser.Runs
import TokenScope.Proofs.Browser.Messages
import TokenScope.Proofs.Browser.TokenWindow
import TokenScope.Proofs.Browser.Screen
import TokenScope.Proofs.Browser.SourceWindow
import TokenScope.Proofs.Command.Dump
import TokenScope.Proofs.Tree.Readability
import TokenScope.Proofs.Tree.Chains
import TokenScope.Proofs.Tree.Sameness
import TokenScope.Proofs.Lexing.LongestRuns
import TokenScope.Proofs.Command.Reports
import TokenScope.Proofs.Browser.Checked
import TokenScope.Proofs.Browser.Independence
import TokenScope.Proofs.Browser.Unfailing
import TokenScope.Proofs.Lexing.Limits
import TokenScope.Proofs.Browser.ErrorMessages
import TokenScope.Proofs.Browser.Stepping
import TokenScope.Proofs.Browser.TokenListing
import TokenScope.Proofs.Browser.SourceEnd
import TokenScope.Proofs.Recording.Agreement
import TokenScope.Proofs.Recording.Walks
import TokenScope.Proofs.Browser.Slicing
import TokenScope.Proofs.Lexing.Progress
import TokenScope.Proofs.Browser.Redrawing
import TokenScope.Proofs.Lexing.Lookahead
import TokenScope.Proofs.Tree.Sequences
import TokenScope.Proofs.Tree.NodeCount
