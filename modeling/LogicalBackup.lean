import LogicalBackup.Options.Decoding
import LogicalBackup.Restore.Apply
import LogicalBackup.Server.Canned
import LogicalBackup.Server.Scripted
import LogicalBackup.Dump.Run
import LogicalBackup.Storage
import LogicalBackup.Transform
import LogicalBackup.Proofs.Restore.Lines
import LogicalBackup.Proofs.Restore.Statements
import LogicalBackup.Proofs.Program.Trace
import LogicalBackup.Proofs.Sink.Recording
import LogicalBackup.Proofs.Batch.Groups
import LogicalBackup.Proofs.Value.Literal
import LogicalBackup.Proofs.Value.Tuples
import LogicalBackup.Proofs.Batch.RoundTrip
import LogicalBackup.Proofs.Program.Outcome
import LogicalBackup.Proofs.Batch.Receive
import LogicalBackup.Proofs.Dump.Events
import LogicalBackup.Proofs.Dump.Faults
import LogicalBackup.Proofs.Dump.Bracketing
import LogicalBackup.Proofs.Dump.Sections
import LogicalBackup.Proofs.Restore.Renaming
import LogicalBackup.Proofs.Catalog.ViewDefinition
import LogicalBackup.Proofs.Dump.Answers
import LogicalBackup.Proofs.Dump.Contents
import LogicalBackup.Proofs.Dump.Statements
import LogicalBackup.Proofs.Restore.SourceText
import LogicalBackup.Proofs.Restore.Transactions
import LogicalBackup.Proofs.Dump.Pieces
import LogicalBackup.Proofs.Dump.Targets
import LogicalBackup.Proofs.Dump.Interruption
import LogicalBackup.Proofs.Sink.Limits
import LogicalBackup.Proofs.Dump.LimitedSinks
import LogicalBackup.Proofs.Dump.Interleaving
import LogicalBackup.Proofs.Dump.Independence
import LogicalBackup.Proofs.Dump.Accounting
import LogicalBackup.Proofs.Dump.Planning
import LogicalBackup.Proofs.Dump.Combined
import LogicalBackup.Proofs.Restore.Closings
import LogicalBackup.Proofs.Restore.Regions
import LogicalBackup.Proofs.Restore.Names
import LogicalBackup.Proofs.Dump.TableNames
import LogicalBackup.Proofs.Batch.Packing
import LogicalBackup.Proofs.Restore.LineGrammar
import LogicalBackup.Proofs.Restore.DatabaseNames
import LogicalBackup.Proofs.Sink.Honest
import LogicalBackup.Proofs.Dump.Counts
import LogicalBackup.Proofs.Dump.Summaries
import LogicalBackup.Proofs.Restore.Report
import LogicalBackup.Proofs.Value.Decoding
import LogicalBackup.Proofs.Column.Scanning
import LogicalBackup.Proofs.Number.Integer
import LogicalBackup.Proofs.Column.Integers
import LogicalBackup.Proofs.Batch.Rejection
import LogicalBackup.Proofs.Text.Keywords
import LogicalBackup.Proofs.Catalog.DefinerClause
import LogicalBackup.Proofs.Text.Words
import LogicalBackup.Proofs.Catalog.Introspection
import LogicalBackup.Proofs.Storage.Tree
import LogicalBackup.Proofs.Storage.Objects
import LogicalBackup.Proofs.Text.Identifiers
import LogicalBackup.Proofs.Catalog.TableStatements
import LogicalBackup.Proofs.Dump.Assignments
import LogicalBackup.Proofs.Column.Protocols
