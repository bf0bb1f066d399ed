import FieldRules.Message.Json
import FieldRules.Session.Step
import FieldRules.Proofs.Message.Texts
import FieldRules.Proofs.Store.Names
import FieldRules.Proofs.Store.Writes
import FieldRules.Proofs.Outcomes
import FieldRules.Proofs.Rule.Clauses
import FieldRules.Proofs.Path
import FieldRules.Proofs.Rule.Compilation
import FieldRules.Proofs.Rule.Binding
import FieldRules.Proofs.Rule.FieldsOnly
import FieldRules.Proofs.RuleBook.Evaluation
import FieldRules.Proofs.RuleBook.Compiled
import FieldRules.Proofs.Rule.Errors
import FieldRules.Proofs.Instance.Outcomes
import FieldRules.Proofs.Registry
import FieldRules.Proofs.Site.Writes
import FieldRules.Proofs.Store.History
import FieldRules.Proofs.Store.Observation
import FieldRules.Proofs.Site.Reachable
import FieldRules.Proofs.Site.Failure
import FieldRules.Proofs.Rule.Soundness
import FieldRules.Proofs.Store.Fields
import FieldRules.Proofs.RuleBook.Widths
import FieldRules.Proofs.Instance.Sharing
import FieldRules.Proofs.Store.Results
import FieldRules.Proofs.Instance.Reports
import FieldRules.Proofs.Site.Validation
import FieldRules.Proofs.Site.AnyOrder
import FieldRules.Proofs.Site.Sharing
import FieldRules.Proofs.Site.Visits
import FieldRules.Proofs.RuleBook.Localization
import FieldRules.Proofs.Site.Localization
import FieldRules.Proofs.RuleBook.Repetition
import FieldRules.Proofs.Site.Repetition
import FieldRules.Proofs.RuleTable.Declarations
import FieldRules.Proofs.RuleBook.Alike
import FieldRules.Proofs.Site.Declarations
import FieldRules.Proofs.Registry.Calls
import FieldRules.Proofs.Path.Normal
import FieldRules.Proofs.Path.Stages
import FieldRules.Proofs.Number.Numeral
import FieldRules.Proofs.Number.Decimal
import FieldRules.Proofs.Number.Binary
import FieldRules.Proofs.Number.Integral
import FieldRules.Proofs.Number.Order
import FieldRules.Proofs.Rule.Bound
import FieldRules.Proofs.Rule.Comparison
import FieldRules.Proofs.Rule.Conditions
import FieldRules.Proofs.Rule.FirstNumber
import FieldRules.Proofs.Rule.Bare
import FieldRules.Proofs.Rule.EqualNumbers
import FieldRules.Proofs.Json.Text
import FieldRules.Proofs.Message.Json
import FieldRules.Proofs.Site.Proxy
import FieldRules.Proofs.Channel.Accounts
import FieldRules.Proofs.Channel.Pending
import FieldRules.Proofs.Channel.Senders
import FieldRules.Proofs.Store.Subscribers
import FieldRules.Proofs.Message.Verdicts
import FieldRules.Proofs.Store.Checks
import FieldRules.Proofs.Site.OneField
import FieldRules.Proofs.RuleTable.Extension
import FieldRules.Proofs.Site.OneMoreRule
import FieldRules.Proofs.Site.Registration
import FieldRules.Proofs.Store.Nameless
import FieldRules.Proofs.Site.DeclaredFields
import FieldRules.Proofs.Rule.Lengths
import FieldRules.Proofs.Session.Capacity
