import TimePhrase.Main
import TimePhrase.Proofs.InnerYears
import TimePhrase.Proofs.Chain.Legal
import TimePhrase.Proofs.Chain.Exact
import TimePhrase.Proofs.Chain.Months
import TimePhrase.Proofs.Phrase.Normalize
import TimePhrase.Proofs.DayLevel
import TimePhrase.Proofs.Calendar.Nested
import TimePhrase.Proofs.Calendar.Lengths
import TimePhrase.Proofs.LastWeek
import TimePhrase.Proofs.WeekSetting
import TimePhrase.Proofs.Unreachable
import TimePhrase.Proofs.Synonyms
import TimePhrase.Proofs.WholeMonths
import TimePhrase.Proofs.Format.Accepted
import TimePhrase.Proofs.Command.Arguments
import TimePhrase.Proofs.Command.Run
import TimePhrase.Proofs.FieldSetting
import TimePhrase.Proofs.MonthOrder
import TimePhrase.Proofs.Format.Digits
import TimePhrase.Proofs.Format.Reading
import TimePhrase.Proofs.FormatFaults
import TimePhrase.Proofs.ReferenceRoundTrip
import TimePhrase.Proofs.Text.CaseFolding
import TimePhrase.Proofs.Phrase.Folding
import TimePhrase.Proofs.Normalization
