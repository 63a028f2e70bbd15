import ModelStore.Assoc
import ModelStore.Base64
import ModelStore.Binary64.Basic
import ModelStore.Binary64.Decimal
import ModelStore.Calendar.Date
import ModelStore.Calendar.DateTime
import ModelStore.Calendar.Iso
import ModelStore.Clause
import ModelStore.Collection
import ModelStore.Converter
import ModelStore.Driver
import ModelStore.Error
import ModelStore.Evaluator
import ModelStore.Event
import ModelStore.Fault
import ModelStore.Filter
import ModelStore.Mapping.Basic
import ModelStore.Mapping.Conversion
import ModelStore.Mapping.Declaration
import ModelStore.Mapping.Reading
import ModelStore.Mapping.Writing
import ModelStore.Model
import ModelStore.Pattern.Basic
import ModelStore.Pattern.Matching
import ModelStore.Pattern.Reading
import ModelStore.Proofs.Assoc
import ModelStore.Proofs.Calendar.Chronology
import ModelStore.Proofs.Calendar.Order
import ModelStore.Proofs.Conversion
import ModelStore.Proofs.Evaluator
import ModelStore.Proofs.Filter.Accepted
import ModelStore.Proofs.Filter.Clauses
import ModelStore.Proofs.Filter.Comparisons
import ModelStore.Proofs.Filter.Disjunction
import ModelStore.Proofs.Filter.Grammar
import ModelStore.Proofs.Filter.Meaning
import ModelStore.Proofs.Mapping.Building
import ModelStore.Proofs.Mapping.Chain
import ModelStore.Proofs.Mapping.Checks
import ModelStore.Proofs.Mapping.Columns
import ModelStore.Proofs.Mapping.Comparing
import ModelStore.Proofs.Mapping.Conversion
import ModelStore.Proofs.Mapping.Declared
import ModelStore.Proofs.Mapping.Descent
import ModelStore.Proofs.Mapping.Fields
import ModelStore.Proofs.Mapping.Fitting
import ModelStore.Proofs.Mapping.Hierarchy
import ModelStore.Proofs.Mapping.Identity
import ModelStore.Proofs.Mapping.Keys
import ModelStore.Proofs.Mapping.Options
import ModelStore.Proofs.Mapping.Owned
import ModelStore.Proofs.Mapping.Parsing
import ModelStore.Proofs.Mapping.Regular
import ModelStore.Proofs.Mapping.Reporting
import ModelStore.Proofs.Mapping.Restoring
import ModelStore.Proofs.Mapping.Siblings
import ModelStore.Proofs.Outcome
import ModelStore.Proofs.Query.Calls
import ModelStore.Proofs.Query.Growth
import ModelStore.Proofs.Query.Issue
import ModelStore.Proofs.Query.Preorder
import ModelStore.Proofs.Query.Rebuilding
import ModelStore.Proofs.Query.Spine
import ModelStore.Proofs.Query.Tree
import ModelStore.Proofs.Schema.Phases
import ModelStore.Proofs.Store.Dates
import ModelStore.Proofs.Store.Effects
import ModelStore.Proofs.Store.Ordering
import ModelStore.Proofs.Store.Rows
import ModelStore.Proofs.Store.Selecting
import ModelStore.Proofs.Store.Slicing
import ModelStore.Proofs.Store.StableSorting
import ModelStore.Proofs.Store.Uniqueness
import ModelStore.Proofs.Store.Writes
import ModelStore.Proofs.Value.Equality
import ModelStore.Proofs.Value.Stored
import ModelStore.Proofs.Value.Symmetry
import ModelStore.Proofs.Value.Transitivity
import ModelStore.Proofs.Workspace.Atomicity
import ModelStore.Proofs.Workspace.Calls
import ModelStore.Proofs.Workspace.Chains
import ModelStore.Proofs.Workspace.Construction
import ModelStore.Proofs.Workspace.Declaring
import ModelStore.Proofs.Workspace.Filled
import ModelStore.Proofs.Workspace.Filtering
import ModelStore.Proofs.Workspace.Fetching
import ModelStore.Proofs.Workspace.Finding
import ModelStore.Proofs.Workspace.Grown
import ModelStore.Proofs.Workspace.Hits
import ModelStore.Proofs.Workspace.Isolation
import ModelStore.Proofs.Workspace.Leaving
import ModelStore.Proofs.Workspace.Listing
import ModelStore.Proofs.Workspace.Origins
import ModelStore.Proofs.Workspace.Parsing
import ModelStore.Proofs.Workspace.Reached
import ModelStore.Proofs.Workspace.Recorded
import ModelStore.Proofs.Workspace.Reporting
import ModelStore.Proofs.Workspace.Resolving
import ModelStore.Proofs.Workspace.RoundTrip
import ModelStore.Proofs.Workspace.Runs
import ModelStore.Proofs.Workspace.Transactions
import ModelStore.Proofs.Workspace.Uniqueness
import ModelStore.Query.Basic
import ModelStore.Record
import ModelStore.Schema.Basic
import ModelStore.Schema.Provisioning
import ModelStore.Source
import ModelStore.Store.Basic
import ModelStore.Store.Search
import ModelStore.Store.Sorting
import ModelStore.Store.Writing
import ModelStore.Text.Case
import ModelStore.Text.CharClass
import ModelStore.Text.CharTable
import ModelStore.Text.Decimal
import ModelStore.Text.Numeral
import ModelStore.Text.Quoted
import ModelStore.Text.Similarity
import ModelStore.Validation.Checked
import ModelStore.Validation.Descriptor
import ModelStore.Validation.Scalar
import ModelStore.Value.Basic
import ModelStore.Value.Equality
import ModelStore.Value.Membership
import ModelStore.Value.Order
import ModelStore.Value.Text
import ModelStore.Vocabulary
import ModelStore.Workspace.Attributes
import ModelStore.Workspace.Basic
import ModelStore.Workspace.Fetching
import ModelStore.Workspace.Mapped
import ModelStore.Workspace.Sources
import ModelStore.Workspace.Storage
import ModelStore.Proofs.Store.Answering
import ModelStore.Proofs.Workspace.Answering
import ModelStore.Proofs.Mapping.Reproducing
import ModelStore.Proofs.Workspace.Reproducing
import ModelStore.Proofs.Workspace.Extent
import ModelStore.Proofs.Store.Matching
import ModelStore.Proofs.Workspace.Provisioning
import ModelStore.Proofs.Workspace.Failing
import ModelStore.Proofs.Workspace.Subsets
import ModelStore.Proofs.Workspace.Paging
import ModelStore.Proofs.Store.Alignment
import ModelStore.Proofs.Workspace.Managing
import ModelStore.Proofs.Store.Numbering
import ModelStore.Proofs.Mapping.Equivalents
import ModelStore.Proofs.Workspace.Equivalents
import ModelStore.Proofs.Workspace.Indexing
import ModelStore.Proofs.Workspace.Addressing
import ModelStore.Proofs.Workspace.Overlapping
import ModelStore.Proofs.Workspace.Choosing
import ModelStore.Proofs.Mapping.Reordering
import ModelStore.Proofs.Query.Written
import ModelStore.Proofs.Workspace.Naming
