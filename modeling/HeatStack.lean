import HeatStack.Files.Tree
import HeatStack.Main
import HeatStack.Proofs.AcceptedDefaults
import HeatStack.Proofs.AssignedValues
import HeatStack.Proofs.Cancellation
import HeatStack.Proofs.ClauseReading
import HeatStack.Proofs.ConcurrentSaves
import HeatStack.Proofs.FailureCounter
import HeatStack.Proofs.FatalDocuments
import HeatStack.Proofs.ListItems
import HeatStack.Proofs.LiveStream
import HeatStack.Proofs.MaskedViews
import HeatStack.Proofs.NumberChecks
import HeatStack.Proofs.PatternMatches
import HeatStack.Proofs.PollSchedule
import HeatStack.Proofs.ProfileChecks
import HeatStack.Proofs.Rehearsals
import HeatStack.Proofs.ResolutionSpec
import HeatStack.Proofs.RunOutcome
import HeatStack.Proofs.RunTrail
import HeatStack.Proofs.SavedTemplates
import HeatStack.Proofs.SecretMasking
import HeatStack.Proofs.SecretSealing
import HeatStack.Proofs.SectionDetection
import HeatStack.Proofs.SectionEntries
import HeatStack.Proofs.StatusChanges
import HeatStack.Proofs.StatusVerdicts
import HeatStack.Proofs.StructuredTags
import HeatStack.Proofs.SubmittedValues
import HeatStack.Proofs.TemplateIdentity
import HeatStack.Proofs.TrailBroadcast
import HeatStack.Proofs.TrailCourse
import HeatStack.Proofs.TrailRecords
