import SqlDdl.Expr.DecodeLemmas
import SqlDdl.Select.DecodeLemmas
import SqlDdl.Statement.Decode
import SqlDdl.Proofs.Comments
import SqlDdl.Proofs.EncodedStatement
import SqlDdl.Proofs.Literals
import SqlDdl.Proofs.NameLists
import SqlDdl.Proofs.QuotedNames
import SqlDdl.Proofs.UniqueReading
import SqlDdl.Proofs.Failures
import SqlDdl.Proofs.NormalKeywords
import SqlDdl.Proofs.TidyStatement
import SqlDdl.Proofs.TableBody
import SqlDdl.Proofs.TriggerEvents
import SqlDdl.Proofs.EventReader
import SqlDdl.Proofs.ConstraintNames
import SqlDdl.Proofs.JoinedTables
import SqlDdl.Proofs.EmptyNames
import SqlDdl.Proofs.OuterParentheses
import SqlDdl.Proofs.SelectClauses
import SqlDdl.Proofs.SetOperations
import SqlDdl.Proofs.Spellings
import SqlDdl.Proofs.ExtraFields
import SqlDdl.Proofs.Dispatch
import SqlDdl.Proofs.RelistedStatement
import SqlDdl.Proofs.TokenCalls
import SqlDdl.Proofs.OptionalClauses
import SqlDdl.Proofs.Builders
import SqlDdl.Proofs.GeneratedColumns
import SqlDdl.Proofs.BareNames
