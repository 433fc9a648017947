import PageWalk.Text.Basic
import PageWalk.Text.Character
import PageWalk.Text.LowerCase
import PageWalk.Text.Numeral
import PageWalk.Command.Parser
import PageWalk.Command.Printer
import PageWalk.TestSource.Statement
import PageWalk.Json.Decode
import PageWalk.Json.Reader
import PageWalk.Locator.Target
import PageWalk.Run.Batch
import PageWalk.Browser.Kind
import PageWalk.Browser.Viewport
import PageWalk.Browser.Key
import PageWalk.Browser.CookieScope
import PageWalk.TestSource.Test
import PageWalk.TestSource.Prompt
import PageWalk.Failure
import PageWalk.Url.Redaction
import PageWalk.Report.Exploration
import PageWalk.World.FileTree
import PageWalk.World.Console
import PageWalk.Session.Store
import PageWalk.Run.Interactive
import PageWalk.Browser.Start
import PageWalk.Browser.Storage
import PageWalk.Cli.Check
import PageWalk.Text.Calendar
import PageWalk.Cli.Request
import PageWalk.Cli.Dispatch
import PageWalk.Main
import PageWalk.Proofs.Field
import PageWalk.Proofs.Grammar
import PageWalk.Proofs.Spelling
import PageWalk.Proofs.RoundTrip
import PageWalk.Proofs.Program
import PageWalk.Proofs.Retry
import PageWalk.Proofs.FailStop
import PageWalk.Proofs.Batch
import PageWalk.Proofs.Interaction
import PageWalk.Proofs.Replay
import PageWalk.Proofs.Watching
import PageWalk.Proofs.Lines
import PageWalk.Proofs.TestLines
import PageWalk.Proofs.Utf8
import PageWalk.Proofs.Entered
import PageWalk.Proofs.JsonParts
import PageWalk.Proofs.JsonText
import PageWalk.Proofs.JsonBounds
import PageWalk.Proofs.Decoding
import PageWalk.Proofs.SessionText
import PageWalk.Proofs.FilePath
import PageWalk.Proofs.FileTree
import PageWalk.Proofs.SessionFile
import PageWalk.Proofs.SessionList
import PageWalk.Proofs.Shelf
import PageWalk.Proofs.StoreRuns
import PageWalk.Proofs.Machine
import PageWalk.Proofs.Exploring
import PageWalk.Proofs.BrowserSteps
import PageWalk.Proofs.NamedRun
import PageWalk.Proofs.NamedTalk
import PageWalk.Proofs.SessionHistory
import PageWalk.Proofs.Attempts
import PageWalk.Proofs.TwoRuns
import PageWalk.Proofs.CommandCalls
import PageWalk.Proofs.Unnoticed
import PageWalk.Proofs.OneField
import PageWalk.Proofs.Secrets
import PageWalk.Proofs.SavedStorage
import PageWalk.Proofs.Closing
import PageWalk.Proofs.Healed
import PageWalk.Proofs.LocatorText
import PageWalk.Proofs.Rendering
import PageWalk.Proofs.Loops
import PageWalk.Proofs.NewestErrors
import PageWalk.Proofs.HealedOnce
import PageWalk.Proofs.Query
import PageWalk.Proofs.Redaction
import PageWalk.Proofs.Collapsing
import PageWalk.Proofs.PromptLines
import PageWalk.Proofs.Expectations
import PageWalk.Proofs.XPathExpression
import PageWalk.Proofs.Leads
import PageWalk.Proofs.Contexts
import PageWalk.Proofs.Checking
import PageWalk.Proofs.TextPart
import PageWalk.Proofs.CookieLabels
import PageWalk.Proofs.RestoredStorage
import PageWalk.Proofs.ReadNumbers
import PageWalk.Proofs.CommandErrors
import PageWalk.Proofs.Comments
import PageWalk.Proofs.FirstColon
import PageWalk.Proofs.Keyword
