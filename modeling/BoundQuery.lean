import BoundQuery.Client.Fetch
import BoundQuery.Client.Script
import BoundQuery.Condition.Meaning
import BoundQuery.Search
import BoundQuery.Value.Trial
import BoundQuery.Wire.Catalog
import BoundQuery.Workbench
import BoundQuery.Proofs.AlikePlans
import BoundQuery.Proofs.AllowLists
import BoundQuery.Proofs.ArrayCasts
import BoundQuery.Proofs.ArrayFrames
import BoundQuery.Proofs.AttributeArguments
import BoundQuery.Proofs.AttributeNames
import BoundQuery.Proofs.Beginnings
import BoundQuery.Proofs.CanonicalDecimals
import BoundQuery.Proofs.Conjuncts
import BoundQuery.Proofs.Contiguity
import BoundQuery.Proofs.Contribution
import BoundQuery.Proofs.DecimalTexts
import BoundQuery.Proofs.Demands
import BoundQuery.Proofs.DenyLists
import BoundQuery.Proofs.Dialogues
import BoundQuery.Proofs.DropStates
import BoundQuery.Proofs.Editing
import BoundQuery.Proofs.Errors
import BoundQuery.Proofs.Faults
import BoundQuery.Proofs.FilterConditions
import BoundQuery.Proofs.FilterContribution
import BoundQuery.Proofs.FilterFolding
import BoundQuery.Proofs.FilterGrowth
import BoundQuery.Proofs.FilterPlans
import BoundQuery.Proofs.FilterTexts
import BoundQuery.Proofs.FoldedDrafts
import BoundQuery.Proofs.Grammar
import BoundQuery.Proofs.Growth
import BoundQuery.Proofs.IntegerEncoding
import BoundQuery.Proofs.JsonRoundTrips
import BoundQuery.Proofs.LayeredLogs
import BoundQuery.Proofs.Letters
import BoundQuery.Proofs.Likeness
import BoundQuery.Proofs.ListForms
import BoundQuery.Proofs.Lookups
import BoundQuery.Proofs.NameLists
import BoundQuery.Proofs.Narrowing
import BoundQuery.Proofs.NearestNumbers
import BoundQuery.Proofs.NestedLists
import BoundQuery.Proofs.NestedText
import BoundQuery.Proofs.Nesting
import BoundQuery.Proofs.Noninterference
import BoundQuery.Proofs.OfferedAssets
import BoundQuery.Proofs.Operations
import BoundQuery.Proofs.Paging
import BoundQuery.Proofs.Plans
import BoundQuery.Proofs.Precedence
import BoundQuery.Proofs.PresentArguments
import BoundQuery.Proofs.Programs
import BoundQuery.Proofs.Quoting
import BoundQuery.Proofs.Reordering
import BoundQuery.Proofs.Restating
import BoundQuery.Proofs.RowOrder
import BoundQuery.Proofs.SearchContribution
import BoundQuery.Proofs.SearchPlans
import BoundQuery.Proofs.SearchQuoting
import BoundQuery.Proofs.SelfEquality
import BoundQuery.Proofs.TokenCuts
import BoundQuery.Proofs.Trials
import BoundQuery.Proofs.Workbenches
