import Gamebook.Main
import Gamebook.Session
import Gamebook.Proofs.BlockGrammar
import Gamebook.Proofs.BlockReading
import Gamebook.Proofs.Inlining
import Gamebook.Proofs.NarrativeText
import Gamebook.Proofs.ReadNodes
import Gamebook.Proofs.Acts
import Gamebook.Proofs.ParsedLibrary
import Gamebook.Proofs.SoundPlay
import Gamebook.Proofs.ConditionGrammar
import Gamebook.Proofs.DescribedCondition
import Gamebook.Proofs.CursorStack
import Gamebook.Proofs.SessionEnd
import Gamebook.Proofs.InStep
import Gamebook.Proofs.StoryStore
import Gamebook.Proofs.OnDemand
import Gamebook.Proofs.Reloading
import Gamebook.Proofs.UnsetNames
import Gamebook.Proofs.Passages
import Gamebook.Proofs.Histories
import Gamebook.Proofs.GameOver
import Gamebook.Proofs.FailedActs
import Gamebook.Proofs.LabelReplies
import Gamebook.Proofs.StoryPaths
import Gamebook.Proofs.TextPieces
import Gamebook.Proofs.StoryShape
import Gamebook.Proofs.LineEnds
import Gamebook.Proofs.NarrativeWriting
import Gamebook.Proofs.NarrativeRoundTrip
import Gamebook.Proofs.GrantedTokens
import Gamebook.Proofs.GrantedLines
import Gamebook.Proofs.FrameStack
import Gamebook.Proofs.CleanedReplies
import Gamebook.Proofs.MenuReplies
import Gamebook.Proofs.OptionWriting
import Gamebook.Proofs.OptionRoundTrip
import Gamebook.Proofs.StepLimit
import Gamebook.Proofs.MovedColumns
import Gamebook.Proofs.FlawColumns
import Gamebook.Proofs.ErrorPlaces
import Gamebook.Proofs.GuardColumns
import Gamebook.Proofs.NodesAhead
import Gamebook.Proofs.StateWrites
import Gamebook.Proofs.DirectiveEffects
import Gamebook.Proofs.LineBreaks
import Gamebook.Proofs.JoinedFiles
import Gamebook.Proofs.DirectiveLayout
import Gamebook.Proofs.LargerGrammars
import Gamebook.Proofs.TextModes
import Gamebook.Proofs.PrintedLines
import Gamebook.Proofs.IndependentWrites
import Gamebook.Proofs.AskedQuestions
import Gamebook.Proofs.TokenPieces
import Gamebook.Proofs.TokenSlices
import Gamebook.Proofs.UnbrokenText
import Gamebook.Proofs.Conclusions
import Gamebook.Proofs.SessionOutcome
