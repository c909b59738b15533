import LoadingIndicator.Gallery
import LoadingIndicator.Json.Reader
import LoadingIndicator.Json.Spelling
import LoadingIndicator.Markup.Reader
import LoadingIndicator.Query.Spelling
import LoadingIndicator.Size.Text
import LoadingIndicator.Style.Edit
import LoadingIndicator.Proofs.WrittenSize
import LoadingIndicator.Proofs.Mounting
import LoadingIndicator.Proofs.Rendering
import LoadingIndicator.Proofs.Clicks
import LoadingIndicator.Proofs.StoredText
import LoadingIndicator.Proofs.NameReading
import LoadingIndicator.Proofs.Separation
import LoadingIndicator.Proofs.RefusedNames
import LoadingIndicator.Json.Continued
import LoadingIndicator.Size.Continued
import LoadingIndicator.Proofs.FirstFailure
import LoadingIndicator.Proofs.Truncation
import LoadingIndicator.Proofs.ValueAndText
import LoadingIndicator.Proofs.QueryParts
import LoadingIndicator.Text.Utf8.Sequence
import LoadingIndicator.Proofs.ShownBytes
import LoadingIndicator.Proofs.AddedClasses
import LoadingIndicator.Proofs.FoldedClasses
import LoadingIndicator.Proofs.EqualStyles
import LoadingIndicator.Proofs.RefusedSizes
import LoadingIndicator.Proofs.ReadLists
import LoadingIndicator.Proofs.StoredLists
