import SqlInterval.Numeral
import SqlInterval.Qualifier
import SqlInterval.TypeName
import SqlInterval.FaultCode
import SqlInterval.Error
import SqlInterval.Calendar.Date
import SqlInterval.Calendar.DayNumber
import SqlInterval.Calendar.Month
import SqlInterval.Calendar.TimeOfDay
import SqlInterval.Calendar.Text
import SqlInterval.Interval.Basic
import SqlInterval.Interval.Absolute
import SqlInterval.Interval.Convert
import SqlInterval.Interval.Literal
import SqlInterval.Decimal.Basic
import SqlInterval.Decimal.Text
import SqlInterval.Decimal.Division
import SqlInterval.Double.Basic
import SqlInterval.Double.Rounding
import SqlInterval.Double.Shortest
import SqlInterval.Double.Text
import SqlInterval.SqlType
import SqlInterval.Value.Basic
import SqlInterval.Value.Fields
import SqlInterval.Value.Literal
import SqlInterval.Operator.Basic
import SqlInterval.Operator.Resolve
import SqlInterval.Operator.Sum
import SqlInterval.Operator.Scaling
import SqlInterval.Operator.Shift
import SqlInterval.Operator.Difference
import SqlInterval.Operator.Apply
import SqlInterval.Session
import SqlInterval.Expr.Basic
import SqlInterval.Expr.Columns
import SqlInterval.Expr.Evaluate
import SqlInterval.Expr.Text
import SqlInterval.Expr.Log
import SqlInterval.WhiteSpace
import SqlInterval.Calendar.Iso
import SqlInterval.Json.Text
import SqlInterval.Json.Number
import SqlInterval.Json.Basic
import SqlInterval.Json.Record
import SqlInterval.Value.Document
import SqlInterval.Document
import SqlInterval.Proofs.Qualifier
import SqlInterval.Proofs.Interval.Absolute
import SqlInterval.Proofs.Interval.Convert
import SqlInterval.Proofs.Interval.Negate
import SqlInterval.Proofs.Interval.Rounding
import SqlInterval.Proofs.Interval.Requalify
import SqlInterval.Proofs.Calendar.Iso
import SqlInterval.Proofs.Json.Basic
import SqlInterval.Proofs.Json.Number
import SqlInterval.Proofs.Value.Document
import SqlInterval.Proofs.Calendar.Month
import SqlInterval.Proofs.Value.Month
import SqlInterval.Proofs.Operator.Typing
import SqlInterval.Proofs.Operator.Shift
import SqlInterval.Proofs.Operator.MonthShift
import SqlInterval.Proofs.Operator.Sum
import SqlInterval.Proofs.Operator.Difference
import SqlInterval.Proofs.Operator.Granularity
import SqlInterval.Proofs.Operator.Validity
import SqlInterval.Proofs.Operator.Negation
import SqlInterval.Proofs.Operator.Inverse
import SqlInterval.Proofs.Expr.Operands
import SqlInterval.Proofs.Expr.Folding
import SqlInterval.Proofs.Expr.NormalForm
import SqlInterval.Proofs.Expr.Typing
import SqlInterval.Proofs.Expr.Sum
import SqlInterval.Proofs.Expr.RunTimeChecks
import SqlInterval.Proofs.Expr.Validity
import SqlInterval.Proofs.Decimal.Order
import SqlInterval.Proofs.Expr.Null
import SqlInterval.Proofs.Decimal.Text
import SqlInterval.Proofs.Value.RoundTrip
import SqlInterval.Proofs.Calendar.Text
import SqlInterval.Proofs.TypeName
import SqlInterval.Proofs.Interval.Literal
import SqlInterval.Proofs.Value.Literal
import SqlInterval.Proofs.Decimal.Arithmetic
import SqlInterval.Proofs.Decimal.Division
import SqlInterval.Proofs.Operator.Congruence
import SqlInterval.Proofs.Expr.Text
import SqlInterval.Proofs.Operator.Cast
import SqlInterval.Proofs.Operator.Ratio
import SqlInterval.Proofs.Operator.Scaling
import SqlInterval.Proofs.Operator.Multiple
import SqlInterval.Proofs.Operator.Proportion
import SqlInterval.Proofs.Expr.Precision
import SqlInterval.Proofs.Calendar.Order
import SqlInterval.Proofs.Value.Rebuild
import SqlInterval.Proofs.Word.Basic
import SqlInterval.Proofs.Word.Fields
import SqlInterval.Proofs.Word.Interval
import SqlInterval.Proofs.Word.Shift
import SqlInterval.Proofs.Word.Difference
import SqlInterval.Proofs.Word.Operator
