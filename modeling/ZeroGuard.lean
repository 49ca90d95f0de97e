import ZeroGuard.Http.Serve
import ZeroGuard.Log.Template
import ZeroGuard.Variant
import ZeroGuard.Proofs.Decimal.Magnitude
import ZeroGuard.Proofs.Decimal.Failure
import ZeroGuard.Proofs.Binary.Overflow
import ZeroGuard.Proofs.Number.Zero
import ZeroGuard.Proofs.Number.Division
import ZeroGuard.Proofs.Number.Length
import ZeroGuard.Proofs.Operand
import ZeroGuard.Proofs.Service.Course
import ZeroGuard.Proofs.Service.Escape
import ZeroGuard.Proofs.Service.Guard
import ZeroGuard.Proofs.Integer
import ZeroGuard.Proofs.Json.Short
import ZeroGuard.Proofs.Http.Division
import ZeroGuard.Proofs.Decimal.Text
import ZeroGuard.Proofs.Decimal.Range
import ZeroGuard.Proofs.Rational
import ZeroGuard.Proofs.Service.RoundTrip
import ZeroGuard.Session
import ZeroGuard.Proofs.Value.Double
import ZeroGuard.Proofs.Candidate
import ZeroGuard.Proofs.Http.Grammar
import ZeroGuard.Proofs.Log.Root
import ZeroGuard.Proofs.Session.Step
import ZeroGuard.Proofs.Session.Log
import ZeroGuard.Proofs.Session.Settings
import ZeroGuard.Proofs.Text.Clean
import ZeroGuard.Proofs.Number.Text
import ZeroGuard.Proofs.Service.Messages
import ZeroGuard.Proofs.Binary.Underflow
import ZeroGuard.Proofs.Value.Guard
import ZeroGuard.Proofs.Http.Default
import ZeroGuard.Proofs.Decimal.Nearest
import ZeroGuard.Proofs.Text.Numeral
import ZeroGuard.Proofs.Decimal.Spelling
import ZeroGuard.Proofs.Service.Rounding
import ZeroGuard.Proofs.Binary.Nearest
import ZeroGuard.Proofs.Binary.Exact
import ZeroGuard.Proofs.Number.Nearest
import ZeroGuard.Proofs.Service.Nearest
import ZeroGuard.Proofs.Rational.Denotation
import ZeroGuard.Proofs.Number.Floor
import ZeroGuard.Proofs.Service.Canonical
import ZeroGuard.Proofs.Service.Floor
import ZeroGuard.Proofs.Number.Word
import ZeroGuard.Proofs.Service.Word
import ZeroGuard.Proofs.Binary.Order
import ZeroGuard.Proofs.Binary.Rounded
import ZeroGuard.Proofs.Binary.Shortest
import ZeroGuard.Proofs.Binary.Text
import ZeroGuard.Proofs.Text.Folded
import ZeroGuard.Proofs.Operand.Text
import ZeroGuard.Proofs.Operand.Integer
import ZeroGuard.Proofs.Operand.Float
import ZeroGuard.Proofs.Operand.Denotation
import ZeroGuard.Proofs.Service.Divisor
import ZeroGuard.Proofs.Json.ReadBack
import ZeroGuard.Proofs.Log.Line
import ZeroGuard.Proofs.Session.Level
import ZeroGuard.Proofs.Service.Report
import ZeroGuard.Proofs.Session.Calls
import ZeroGuard.Proofs.Service.Double
import ZeroGuard.Proofs.Value.Support
import ZeroGuard.Proofs.Value.Equality
import ZeroGuard.Proofs.Settings.Resolution
