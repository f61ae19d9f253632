import MarkupIslands.Jsx.GeneratedNode
import MarkupIslands.Markup.Edit
import MarkupIslands.Proofs.Island.Repetition
import MarkupIslands.Proofs.Island.ScriptMarker
import MarkupIslands.Proofs.Jsx.Declarations
import MarkupIslands.Proofs.Jsx.Props
import MarkupIslands.Proofs.Jsx.Readability
import MarkupIslands.Proofs.Markup.RawText
import MarkupIslands.Proofs.Markup.Readability
import MarkupIslands.Proofs.Plugin.HiddenIslands
import MarkupIslands.Proofs.Plugin.LoadHistory
import MarkupIslands.Proofs.Plugin.PassedJson
import MarkupIslands.Proofs.Plugin.SeparateHooks
import MarkupIslands.Ui.Survey
import MarkupIslands.Proofs.Jsx.StyleNames
import MarkupIslands.Proofs.Jsx.VoidElements
import MarkupIslands.Proofs.Markup.ForeignAttributes
import MarkupIslands.Proofs.Ui.Encounters
import MarkupIslands.Proofs.Ui.SurveyLog
import MarkupIslands.Proofs.Jsx.DeclarationCuts
import MarkupIslands.Proofs.Markup.OpeningTag
