import Manuscript.Main
import Manuscript.Proofs.Conversion.Document
import Manuscript.Proofs.Files.Errand
import Manuscript.Proofs.Render.Balance
import Manuscript.Proofs.Render.Probe
import Manuscript.Proofs.Render.Weave
import Manuscript.Proofs.Task.Pool
import Manuscript.Proofs.Template.Substitution
import Manuscript.Proofs.Template.Insertion
import Manuscript.Proofs.Template.NormalForm
import Manuscript.Proofs.Latex.Passes
import Manuscript.Proofs.Conversion.Isolation
import Manuscript.Proofs.Path.Names
import Manuscript.Proofs.Files.Alteration
import Manuscript.Proofs.Conversion.Collision
import Manuscript.Proofs.Conversion.Source
import Manuscript.Proofs.Image.Original
import Manuscript.Proofs.Markdown.LiteralText
import Manuscript.Proofs.Markdown.Depth
import Manuscript.Proofs.Markdown.Layout
import Manuscript.Proofs.Template.Overlay
import Manuscript.Proofs.Template.Precedence
import Manuscript.Proofs.Render.Fillings
import Manuscript.Proofs.Render.Calls
import Manuscript.Proofs.Markdown.Columns
import Manuscript.Proofs.Conversion.Fallback
import Manuscript.Proofs.Latex.RunningText
import Manuscript.Proofs.Render.Rows
import Manuscript.Proofs.Render.Uses
import Manuscript.Proofs.Token.Nesting
import Manuscript.Proofs.Settings.Precedence
import Manuscript.Proofs.CommandLine.Items
import Manuscript.Proofs.CommandLine.Overrides
import Manuscript.Proofs.Files.Surroundings
import Manuscript.Proofs.Conversion.Effect
import Manuscript.Proofs.Image.Collision
import Manuscript.Proofs.Image.Formats
import Manuscript.Proofs.Latex.LogBytes
import Manuscript.Proofs.Latex.FailureSummary
import Manuscript.Proofs.Render.Alignments
import Manuscript.Proofs.Render.Headings
import Manuscript.Proofs.Image.Notes
import Manuscript.Proofs.Markdown.Enclosure
import Manuscript.Proofs.Latex.Warnings
import Manuscript.Proofs.Token.PlainText
import Manuscript.Proofs.Tokenizer.Detection
