import QueryLayer.Db
import QueryLayer.Executor.Script
import QueryLayer.Monitor.Sink
import QueryLayer.Monitor.Tree
import QueryLayer.Postgres.Connection
import QueryLayer.Postgres.Pool
import QueryLayer.Proofs.Reading.Name
import QueryLayer.Session.Inspect
import QueryLayer.Session.Query
import QueryLayer.Session.Write
import QueryLayer.Proofs.Reading.Literal
import QueryLayer.Proofs.Reading.Numeral
import QueryLayer.Proofs.Reading.Number
import QueryLayer.Proofs.Filter.Meaning
import QueryLayer.Proofs.Reading.Clause
import QueryLayer.Proofs.Filter.Predicate
import QueryLayer.Proofs.Session.Journal
import QueryLayer.Proofs.Session.Write
import QueryLayer.Proofs.Session.Kind
import QueryLayer.Proofs.Session.Writing
import QueryLayer.Proofs.Session.Guard
import QueryLayer.Proofs.Session.Upsert
import QueryLayer.Proofs.Reading.Operand
import QueryLayer.Proofs.Reading.Assignment
import QueryLayer.Proofs.Reading.Insertion
import QueryLayer.Proofs.Reading.Update
import QueryLayer.Proofs.Session.Watching
import QueryLayer.Proofs.Concurrent.Schedule
import QueryLayer.Proofs.Concurrent.Server
import QueryLayer.Proofs.Concurrent.Race
import QueryLayer.Proofs.Session.Operation
import QueryLayer.Proofs.Session.Refusal
import QueryLayer.Proofs.Session.Lockstep
import QueryLayer.Proofs.Session.Restriction
import QueryLayer.Proofs.Text.Digits
import QueryLayer.Proofs.Session.Printed
import QueryLayer.Proofs.Wording.Phrase
import QueryLayer.Proofs.Wording.Clause
import QueryLayer.Proofs.Wording.Content
import QueryLayer.Proofs.Wording.Drafted
import QueryLayer.Proofs.Reading.Selection
import QueryLayer.Proofs.Rows.Collected
import QueryLayer.Proofs.Naming.Resolution
import QueryLayer.Proofs.Naming.Columns
import QueryLayer.Proofs.Naming.Relation
import QueryLayer.Proofs.Naming.Opening
import QueryLayer.Proofs.Naming.Target
import QueryLayer.Proofs.Monitor.Stack
import QueryLayer.Proofs.Monitor.FanOut
import QueryLayer.Proofs.Text.Marks
import QueryLayer.Proofs.Text.Lead
import QueryLayer.Proofs.Filter.Pattern
import QueryLayer.Proofs.Reading.Spread
import QueryLayer.Proofs.Reading.Places
import QueryLayer.Proofs.Reading.Lists
import QueryLayer.Proofs.Rows.Shape
import QueryLayer.Proofs.Text.Abbreviation
import QueryLayer.Proofs.Naming.Frame
import QueryLayer.Proofs.Naming.Selected
import QueryLayer.Proofs.Rows.History
import QueryLayer.Proofs.Text.Count
import QueryLayer.Proofs.Text.Rounds
