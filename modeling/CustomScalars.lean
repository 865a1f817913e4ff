import CustomScalars.Value.Same
import CustomScalars.Value.Summary
import CustomScalars.Session.Step
import CustomScalars.Execution.Response
import CustomScalars.Proofs.Effect
import CustomScalars.Proofs.Settings.Memory
import CustomScalars.Proofs.Settings.Reading
import CustomScalars.Proofs.Session.Moves
import CustomScalars.Proofs.Session.Isolation
import CustomScalars.Proofs.Settings.Freshness
import CustomScalars.Proofs.Settings.Numbering
import CustomScalars.Proofs.Session.Freshness
import CustomScalars.Proofs.Image.Extension
import CustomScalars.Proofs.Image.Acceptance
import CustomScalars.Proofs.Image.Positions
import CustomScalars.Proofs.Settings.Within
import CustomScalars.Proofs.Session.Bracketing
import CustomScalars.Proofs.Schema.Binding
import CustomScalars.Proofs.Registry
import CustomScalars.Proofs.Session.Registration
import CustomScalars.Proofs.Settings.Remembering
import CustomScalars.Proofs.Startup
import CustomScalars.Proofs.Session.Validation
import CustomScalars.Proofs.Image.Usefulness
import CustomScalars.Proofs.Session.Usefulness
import CustomScalars.Proofs.Definition.Drafts
import CustomScalars.Proofs.Definition.Surfaces
import CustomScalars.Proofs.Execution.Answering
import CustomScalars.Proofs.Execution.Fields
import CustomScalars.Proofs.Execution.Outputs
import CustomScalars.Proofs.Execution.Inputs
import CustomScalars.Proofs.Definition.Naming
import CustomScalars.Proofs.Settings.Layering
import CustomScalars.Proofs.Settings.Gathering
import CustomScalars.Proofs.Enabling
import CustomScalars.Proofs.Image.Precedence
import CustomScalars.Proofs.Settings.Folders
import CustomScalars.Proofs.Session.Configuring
import CustomScalars.Proofs.Repeating
import CustomScalars.Proofs.Session.Starting
import CustomScalars.Proofs.Literal
import CustomScalars.Proofs.Text.Lowercase
import CustomScalars.Proofs.Text.Lowercase.Spelling
import CustomScalars.Proofs.Text.Ordered
import CustomScalars.Proofs.Image.LookAlikes
import CustomScalars.Proofs.Image.Collections
import CustomScalars.Proofs.Image.Spelling
import CustomScalars.Proofs.Image.Rebuilding
import CustomScalars.Proofs.Image.Verdicts
