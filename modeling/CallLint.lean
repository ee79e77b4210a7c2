import CallLint.Forest.Tally
import CallLint.Session
import CallLint.Proofs.Argument.Address
import CallLint.Proofs.Argument.Agreement
import CallLint.Proofs.Config.Loading
import CallLint.Proofs.Forest.Joining
import CallLint.Proofs.Layout.Cover
import CallLint.Proofs.Layout.Joining
import CallLint.Proofs.Layout.Shown
import CallLint.Proofs.Layout.Subtree
import CallLint.Proofs.Lint.Address
import CallLint.Proofs.Lint.Expectation
import CallLint.Proofs.Lint.Ignoring
import CallLint.Proofs.Lint.Recording
import CallLint.Proofs.Layout.PostOrder
import CallLint.Proofs.Session.Replay
import CallLint.Proofs.Forest.Case
import CallLint.Proofs.Argument.Case
import CallLint.Proofs.Layout.Case
import CallLint.Proofs.Lint.Case
import CallLint.Proofs.Argument.Rejoining
import CallLint.Proofs.Argument.Separators
import CallLint.Proofs.Json.Literal
import CallLint.Proofs.Json.Items
import CallLint.Proofs.Json.Textual
import CallLint.Proofs.Config.Setting
import CallLint.Proofs.Config.Options
import CallLint.Proofs.Argument.Alone
import CallLint.Proofs.Lint.Reported
import CallLint.Proofs.Argument.Grammar
import CallLint.Proofs.Pattern.Rounds
import CallLint.Proofs.Pattern.Search
import CallLint.Proofs.Pattern.Leftover
import CallLint.Proofs.Pattern.Behind
import CallLint.Proofs.Pattern.Bounds
import CallLint.Proofs.Pattern.Sticky
import CallLint.Proofs.Layout.Open
import CallLint.Proofs.Layout.Lexical
import CallLint.Proofs.Layout.Mending
import CallLint.Proofs.Argument.Trivia
