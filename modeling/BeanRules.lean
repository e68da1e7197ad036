import BeanRules.Inspect.Views
import BeanRules.Proofs.Draft
import BeanRules.Proofs.Journal
import BeanRules.Proofs.Accounting
import BeanRules.Proofs.Admission
import BeanRules.Proofs.Naming
import BeanRules.Proofs.Placement
import BeanRules.Proofs.Leniency
import BeanRules.Proofs.Lookup
import BeanRules.Proofs.Sequences
import BeanRules.Proofs.Decimal.Interval
import BeanRules.Proofs.Decimal.Shortest
import BeanRules.Proofs.Decimal.Reading
import BeanRules.Proofs.Decimal.Rounding
import BeanRules.Proofs.Decimal.Acceptance
import BeanRules.Proofs.Decimal.Spelling
import BeanRules.Proofs.Json.Numbers
import BeanRules.Proofs.Json.Strings
import BeanRules.Proofs.Json.Writer
import BeanRules.Proofs.Export
import BeanRules.Proofs.Beans
import BeanRules.Proofs.Isolation
import BeanRules.Proofs.Execution
import BeanRules.Proofs.Logging
import BeanRules.Proofs.ByteOrder
import BeanRules.Proofs.Verdict
import BeanRules.Proofs.Judgement
import BeanRules.Proofs.Setters
import BeanRules.Proofs.Json.Path
import BeanRules.Proofs.Json.Skipping
import BeanRules.Proofs.Promises
import BeanRules.Proofs.Registration
import BeanRules.Proofs.Assignment
import BeanRules.Proofs.Json.Decoding
import BeanRules.Proofs.Policy.Members
import BeanRules.Proofs.Json.Written
import BeanRules.Proofs.Policy.Texts
import BeanRules.Proofs.Policy.ReadBack
import BeanRules.Proofs.Spelling.Shown
