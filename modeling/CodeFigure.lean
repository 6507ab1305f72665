import CodeFigure.Main
import CodeFigure.Caption.Reading
import CodeFigure.CommandLine.Outcome
import CodeFigure.Config.Template
import CodeFigure.Directive.Grammar
import CodeFigure.Gist.ReferenceForm
import CodeFigure.Markup.Comment
import CodeFigure.Markup.Nesting
import CodeFigure.Params.TagPlace
import CodeFigure.Text.LineBreak
import CodeFigure.Proofs.Directive.Tags
import CodeFigure.Proofs.Directive.RoundTrip
import CodeFigure.Proofs.Directive.Reading
import CodeFigure.Proofs.Figure.Rendering
import CodeFigure.Proofs.Gist.Course
import CodeFigure.Proofs.Gist.Session
import CodeFigure.Proofs.Markup.CommentEnd
import CodeFigure.Proofs.Gist.ErrorComment
import CodeFigure.Proofs.Gist.ReferenceGrammar
import CodeFigure.Proofs.Gist.ReferenceRoundTrip
import CodeFigure.Proofs.Caption.Addresses
import CodeFigure.Proofs.Caption.Words
import CodeFigure.Proofs.Gist.PageLink
import CodeFigure.Proofs.Caption.Links
import CodeFigure.Proofs.Params.CaptionText
import CodeFigure.Proofs.Params.Placement
import CodeFigure.Proofs.Params.FileTypes
import CodeFigure.Proofs.Directive.Rendering
import CodeFigure.Proofs.Figure.Nesting
import CodeFigure.Proofs.Figure.PlainRoutes
import CodeFigure.Proofs.Figure.Lines
import CodeFigure.Proofs.Config.Overriding
import CodeFigure.Proofs.Config.Provenance
import CodeFigure.Proofs.Config.Hosts
import CodeFigure.Proofs.CommandLine.Endings
import CodeFigure.Proofs.Gist.Collisions
import CodeFigure.Proofs.Gist.CaptionBoundary
import CodeFigure.Proofs.Gist.ErrorText
import CodeFigure.Figure.Recovery
import CodeFigure.Proofs.Figure.Recovery
import CodeFigure.Proofs.Gist.FailureReasons
import CodeFigure.Proofs.Config.Templates
import CodeFigure.Proofs.Highlight.Attributes
