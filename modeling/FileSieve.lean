import FileSieve.Config.Session
import FileSieve.Proofs.Filter.Atomicity
import FileSieve.Proofs.Filter.Rendered
import FileSieve.Proofs.Glob.Injection
import FileSieve.Proofs.Glob.Language
import FileSieve.Proofs.Glob.Malformed
import FileSieve.Proofs.Glob.Separation
import FileSieve.Proofs.Pattern.Delimiter
import FileSieve.Proofs.Pattern.Failure
import FileSieve.Proofs.Pattern.Literal
import FileSieve.Proofs.Predicate.Reading
import FileSieve.Proofs.Config.Merge
import FileSieve.Proofs.Config.Precedence
import FileSieve.Proofs.Number.Reading
import FileSieve.Proofs.Size.Grammar
import FileSieve.Proofs.Size.Outcome
import FileSieve.Proofs.Time.Calendar
import FileSieve.Proofs.Time.Seconds
import FileSieve.Proofs.Time.Outcome
import FileSieve.Proofs.Filter.Instants
import FileSieve.Proofs.Config.Independence
import FileSieve.Proofs.Config.Loading
import FileSieve.Proofs.Config.Manager
import FileSieve.Proofs.Config.Root
import FileSieve.Proofs.Config.Setting
import FileSieve.Proofs.Config.Environment
import FileSieve.Proofs.Filter.Calls
import FileSieve.Proofs.Log.Configure
import FileSieve.Proofs.Regex.Escaped
import FileSieve.Proofs.Glob.Escaping
import FileSieve.Proofs.Glob.Stars
import FileSieve.Proofs.Pattern.Template
import FileSieve.Proofs.Pattern.Octets
import FileSieve.Proofs.Pattern.Equality
import FileSieve.Proofs.Glob.Bracket
import FileSieve.Proofs.Glob.Folding
import FileSieve.Proofs.Number.Rounding
import FileSieve.Proofs.Size.Count
import FileSieve.Proofs.Size.Rounding
import FileSieve.Proofs.Filter.Wordings
import FileSieve.Proofs.Time.Padding
import FileSieve.Proofs.Time.Excess
import FileSieve.Proofs.Time.Again
import FileSieve.Proofs.Time.Formats
import FileSieve.Proofs.Config.Order
import FileSieve.Proofs.Config.Logging
import FileSieve.Proofs.Log.Applied
import FileSieve.Proofs.Log.Nesting
