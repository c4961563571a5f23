import MailFilter.Main
import MailFilter.Proofs.Filter.Alternatives
import MailFilter.Proofs.Filter.Refusals
import MailFilter.Proofs.Filter.Saving
import MailFilter.Proofs.Filter.Stages
import MailFilter.Proofs.Filter.Effects
import MailFilter.Proofs.Filter.Requirements
import MailFilter.Proofs.Filter.Comparison
import MailFilter.Proofs.Filter.OuterStars
import MailFilter.Proofs.Annotations.Enforced
import MailFilter.Proofs.Annotations.Search
import MailFilter.Proofs.Settings
import MailFilter.Proofs.Command.ExitCodes
import MailFilter.Proofs.Command.Listing
import MailFilter.Proofs.Filter.Alignment
import MailFilter.Proofs.Filter.Wording
import MailFilter.Proofs.Script.Rereading
import MailFilter.Proofs.Filter.Replies
import MailFilter.Proofs.Script.Shorthand
import MailFilter.Proofs.Filter.Records
