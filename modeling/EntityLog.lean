import EntityLog.Text.Utf8
import EntityLog.Text.Alphanumeric
import EntityLog.Text.Quoted
import EntityLog.Number.Shortest
import EntityLog.Number.Read
import EntityLog.Path
import EntityLog.Component.Descriptor
import EntityLog.Time.Point
import EntityLog.Schema.DataType
import EntityLog.Schema.TypeText
import EntityLog.TypedArray.Error
import EntityLog.TypedArray.Basic
import EntityLog.TypedArray.Lists
import EntityLog.TypedArray.Cast
import EntityLog.Coercion
import EntityLog.Component.Column
import EntityLog.Component.Serialization
import EntityLog.Time.Column
import EntityLog.Schema.ColumnDescriptor
import EntityLog.Dynamic.Fields
import EntityLog.Bundle
import EntityLog.Sink
import EntityLog.Session
import EntityLog.Proofs.Results
import EntityLog.Proofs.TypedArray.Lists
import EntityLog.Proofs.TypedArray.EmptyArrays
import EntityLog.Proofs.Coercion.Types
import EntityLog.Proofs.Dynamic.Pins
import EntityLog.Proofs.Recording.Merging
import EntityLog.Proofs.Recording.RowCounts
import EntityLog.Proofs.Coercion.Places
import EntityLog.Proofs.Path.RoundTrip
import EntityLog.Proofs.Component.Columns
import EntityLog.Proofs.Recording.Policies
import EntityLog.Proofs.Recording.Tables
import EntityLog.Proofs.Coercion.Untyped
import EntityLog.Proofs.Number.Exact
import EntityLog.Proofs.Coercion.Tensors
import EntityLog.Proofs.Recording.Entities
import EntityLog.Recording.Recorder
import EntityLog.Recording.Thread
import EntityLog.Proofs.Schema.ColumnNames
import EntityLog.Proofs.Recording.Failures
import EntityLog.Proofs.Recording.Sinks
import EntityLog.Proofs.Recording.Journals
import EntityLog.Proofs.Recording.Keeping
import EntityLog.Proofs.Recording.Outcomes
import EntityLog.Proofs.Recording.Identifiers
import EntityLog.Proofs.Dynamic.Agreement
import EntityLog.Proofs.Coercion.Targets
import EntityLog.Proofs.Component.ListArrays
import EntityLog.Proofs.Recording.Builders
import EntityLog.Proofs.Coercion.Integers
import EntityLog.Proofs.Dynamic.Snapshots
import EntityLog.Proofs.Time.Readings
import EntityLog.Proofs.Coercion.TensorSizes
import EntityLog.Proofs.Path.Tokens
import EntityLog.Proofs.Recording.TimeSettings
import EntityLog.Proofs.Recording.Threads
import EntityLog.Proofs.Recording.UnitColumns
import EntityLog.Proofs.Recording.Scopes
import EntityLog.Proofs.Dynamic.EmptyValues
import EntityLog.Proofs.Coercion.TensorValues
import EntityLog.Proofs.TypedArray.Bounds
