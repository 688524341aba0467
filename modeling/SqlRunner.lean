import SqlRunner.Bench
import SqlRunner.Gateway
import SqlRunner.Operation
import SqlRunner.Proofs.Account
import SqlRunner.Proofs.Account.Handle
import SqlRunner.Proofs.Account.Runner
import SqlRunner.Proofs.Addresses
import SqlRunner.Proofs.Announcements
import SqlRunner.Proofs.Binding
import SqlRunner.Proofs.Blocks
import SqlRunner.Proofs.Bracketing
import SqlRunner.Proofs.CallForm
import SqlRunner.Proofs.CallGrammar
import SqlRunner.Proofs.CallRoutes
import SqlRunner.Proofs.ChangeWrapper
import SqlRunner.Proofs.CloseFailures
import SqlRunner.Proofs.Columns
import SqlRunner.Proofs.Comments
import SqlRunner.Proofs.Contexts
import SqlRunner.Proofs.CursorLife
import SqlRunner.Proofs.Errands
import SqlRunner.Proofs.EscapeModes
import SqlRunner.Proofs.Hurdles
import SqlRunner.Proofs.Interpolation
import SqlRunner.Proofs.Layers
import SqlRunner.Proofs.LastWrites
import SqlRunner.Proofs.Limits
import SqlRunner.Proofs.LowerCase
import SqlRunner.Proofs.Mending
import SqlRunner.Proofs.Mistakes
import SqlRunner.Proofs.Nesting
import SqlRunner.Proofs.Preflight
import SqlRunner.Proofs.PreviewAgreement
import SqlRunner.Proofs.PreviewRuns
import SqlRunner.Proofs.PuttingBack
import SqlRunner.Proofs.ReadingBack
import SqlRunner.Proofs.Registrations
import SqlRunner.Proofs.Rejoining
import SqlRunner.Proofs.Rows
import SqlRunner.Proofs.Schedule
import SqlRunner.Proofs.SeparatorLines
import SqlRunner.Proofs.Signs
import SqlRunner.Proofs.Splitting
import SqlRunner.Proofs.Stranding
import SqlRunner.Proofs.Templates
import SqlRunner.Proofs.Translation
import SqlRunner.Proofs.UpperCase
