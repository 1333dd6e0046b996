import WebhookOperator.Admission.Error
import WebhookOperator.Admission.Handler
import WebhookOperator.Admission.MediaType
import WebhookOperator.Admission.Review
import WebhookOperator.Admission.Server
import WebhookOperator.Admission.Verdict
import WebhookOperator.Api.Client
import WebhookOperator.Api.Error
import WebhookOperator.Api.Session
import WebhookOperator.Api.Status
import WebhookOperator.Api.Target
import WebhookOperator.Cluster.Claim
import WebhookOperator.Cluster.Data
import WebhookOperator.Cluster.Disk
import WebhookOperator.Cluster.Env
import WebhookOperator.Cluster.Event
import WebhookOperator.Cluster.FieldSet
import WebhookOperator.Cluster.Meta
import WebhookOperator.Cluster.Pod
import WebhookOperator.Cluster.Selector
import WebhookOperator.Cluster.Time
import WebhookOperator.Cluster.Volume
import WebhookOperator.Cluster.Webhook
import WebhookOperator.Codec
import WebhookOperator.Config
import WebhookOperator.CustomResource
import WebhookOperator.Decimal
import WebhookOperator.Dict
import WebhookOperator.Form
import WebhookOperator.Health.Metrics
import WebhookOperator.Health.Page
import WebhookOperator.Health.Probe
import WebhookOperator.Json.Basic
import WebhookOperator.Json.Patch
import WebhookOperator.Json.Pointer
import WebhookOperator.Json.Reader
import WebhookOperator.Json.Render
import WebhookOperator.Json.Token
import WebhookOperator.Outline
import WebhookOperator.Preset.Basic
import WebhookOperator.Preset.Conflict
import WebhookOperator.Preset.Injection
import WebhookOperator.Preset.Matching
import WebhookOperator.Preset.Merge
import WebhookOperator.Registration.Defaults
import WebhookOperator.Registration.Desired
import WebhookOperator.Registration.Error
import WebhookOperator.Registration.Plan
import WebhookOperator.Registration.Reconcile
import WebhookOperator.Registration.Registry
import WebhookOperator.Registration.Rule
import WebhookOperator.Registration.Store
import WebhookOperator.Registration.Upsert
import WebhookOperator.Registration.Watch
import WebhookOperator.Tenancy.OperandRequest
import WebhookOperator.Tenancy.Source
import WebhookOperator.Tenancy.Table
import WebhookOperator.Text.Base64
import WebhookOperator.Text.Blank
import WebhookOperator.Text.FormUrl
import WebhookOperator.Text.Printable
import WebhookOperator.Text.Quoted
import WebhookOperator.Yaml.Cursor
import WebhookOperator.Yaml.Document
import WebhookOperator.Yaml.Node
import WebhookOperator.Yaml.Scalar
import WebhookOperator.Yaml.Token.Basic
import WebhookOperator.Yaml.Token.Lexer
import WebhookOperator.Yaml.Token.Name
import WebhookOperator.Yaml.Token.Text
import WebhookOperator.Proofs.Merge.Agreement
import WebhookOperator.Proofs.Merge.Composition
import WebhookOperator.Proofs.Injection.Order
import WebhookOperator.Proofs.Injection.Successive
import WebhookOperator.Proofs.Injection.Selection
import WebhookOperator.Proofs.Tenancy.Breaches
import WebhookOperator.Proofs.Merge.Outcome
import WebhookOperator.Proofs.Injection.Outcome
import WebhookOperator.Proofs.Injection.Ledger
import WebhookOperator.Proofs.Json.Difference
import WebhookOperator.Proofs.Codec.Lawful
import WebhookOperator.Proofs.Codec.Cluster
import WebhookOperator.Proofs.Injection.Matching
import WebhookOperator.Proofs.Injection.Readmission
import WebhookOperator.Proofs.Injection.Effect
import WebhookOperator.Proofs.Json.Performing
import WebhookOperator.Proofs.Json.Leading
import WebhookOperator.Proofs.Codec.Carried
import WebhookOperator.Proofs.Injection.Patching
import WebhookOperator.Proofs.Json.Reading
import WebhookOperator.Proofs.Codec.Registration
import WebhookOperator.Proofs.Injection.History
import WebhookOperator.Proofs.Registration.Convergence
import WebhookOperator.Proofs.Registration.Serving
import WebhookOperator.Proofs.Registration.Upsert
import WebhookOperator.Proofs.Registration.Reconcile
import WebhookOperator.Proofs.Json.Exact
import WebhookOperator.Proofs.Codec.Tenancy
import WebhookOperator.Proofs.Admission.Object
import WebhookOperator.Proofs.Tenancy.Redirection
import WebhookOperator.Proofs.Tenancy.Rules
import WebhookOperator.Proofs.Tenancy.Acceptance
import WebhookOperator.Proofs.Api.Running
import WebhookOperator.Proofs.Tenancy.Decision
import WebhookOperator.Proofs.Admission.Pods
import WebhookOperator.Proofs.Registration.Trust
import WebhookOperator.Proofs.Merge.Exact
import WebhookOperator.Proofs.Codec.Formats
import WebhookOperator.Proofs.Registration.Registry
import WebhookOperator.Proofs.Admission.Asking
import WebhookOperator.Proofs.Admission.Accounts
import WebhookOperator.Proofs.Merge.Held
import WebhookOperator.Proofs.Registration.Planning
import WebhookOperator.Proofs.Registration.Retrying
import WebhookOperator.Proofs.Config.Port
import WebhookOperator.Proofs.Tenancy.Targetless
import WebhookOperator.Proofs.Codec.Spelling
import WebhookOperator.Proofs.Merge.Stepwise
import WebhookOperator.Proofs.Outline.Unambiguous
import WebhookOperator.Proofs.Outline.Legible
import WebhookOperator.Proofs.Form.Sound
import WebhookOperator.Proofs.Form.Time
import WebhookOperator.Proofs.Form.FieldSet
import WebhookOperator.Proofs.Form.Cluster
import WebhookOperator.Proofs.Merge.Differences
