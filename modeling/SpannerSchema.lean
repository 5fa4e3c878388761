import SpannerSchema.Main
import SpannerSchema.Proofs.Compiler.Reuse
import SpannerSchema.Proofs.Keys.Sorting
import SpannerSchema.Proofs.Compiler.Parts
import SpannerSchema.Proofs.ColumnType.Target
import SpannerSchema.Proofs.Compiler.FirstFault
import SpannerSchema.Proofs.Ddl.TableText
import SpannerSchema.Proofs.Ddl.Decoding
import SpannerSchema.Proofs.ColumnType.Numeric
import SpannerSchema.Proofs.Builder.Calls
import SpannerSchema.Proofs.Compiler.Order
import SpannerSchema.Proofs.Compiler.Untyped
import SpannerSchema.Proofs.Compiler.Unrelated
import SpannerSchema.Proofs.Ddl.ForeignKeys
import SpannerSchema.Proofs.Compiler.Synthesis
import SpannerSchema.Proofs.Compiler.Modes
import SpannerSchema.Proofs.FileWork.Runs
import SpannerSchema.Proofs.FileWork.AllOrNothing
import SpannerSchema.Proofs.CommandLine.CompileWords
import SpannerSchema.Proofs.FileWork.Agreement
import SpannerSchema.Proofs.Number.Nearest
import SpannerSchema.Proofs.Text.Digits
import SpannerSchema.Proofs.Json.Numbers
import SpannerSchema.Proofs.Json.Strings
import SpannerSchema.Proofs.Json.RoundTrip
import SpannerSchema.Proofs.Number.DecimalText
import SpannerSchema.Proofs.Json.LineBreaks
import SpannerSchema.Proofs.FileWork.Reconversion
import SpannerSchema.Proofs.Keys.Members
import SpannerSchema.Proofs.Keys.Shared
import SpannerSchema.Proofs.Ddl.Splitting
import SpannerSchema.Proofs.FileWork.RowFaults
import SpannerSchema.Proofs.Keys.Routing
import SpannerSchema.Proofs.Ddl.IndexNames
import SpannerSchema.Proofs.ColumnType.Lists
import SpannerSchema.Proofs.ColumnType.ValueLists
import SpannerSchema.Proofs.ColumnType.Dissection
import SpannerSchema.Proofs.ColumnType.Spelling
import SpannerSchema.Proofs.ColumnType.Qualifiers
import SpannerSchema.Proofs.ColumnType.Lengths
import SpannerSchema.Proofs.Rows.Shape
import SpannerSchema.Proofs.Rows.Forms
import SpannerSchema.Proofs.Rows.Fieldwise
import SpannerSchema.Proofs.Ddl.Terminators
import SpannerSchema.Proofs.Rows.Objects
import SpannerSchema.Proofs.Rows.Exact
import SpannerSchema.Proofs.Rows.Literals
