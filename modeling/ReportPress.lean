import ReportPress.Asset.Fault
import ReportPress.Asset.Fetch
import ReportPress.Asset.Prepare
import ReportPress.Asset.Resolver
import ReportPress.Command.Basic
import ReportPress.Command.Markup
import ReportPress.Command.Run
import ReportPress.Command.Screen
import ReportPress.Command.Session
import ReportPress.Command.Switch
import ReportPress.Config.Basic
import ReportPress.Config.Locate
import ReportPress.Config.Reader
import ReportPress.Document.Render
import ReportPress.Expr.Basic
import ReportPress.Expr.Eval
import ReportPress.Expr.Parser
import ReportPress.Expr.Token
import ReportPress.Failure
import ReportPress.Files.Home
import ReportPress.Files.Path
import ReportPress.Files.Tree
import ReportPress.Flow.Cursor
import ReportPress.Flow.Footer
import ReportPress.Flow.Instance
import ReportPress.Flow.Label
import ReportPress.Flow.Layout
import ReportPress.Flow.Plan
import ReportPress.Font.BuiltIn
import ReportPress.Font.TrueType
import ReportPress.Font.Weight
import ReportPress.Json.Fault
import ReportPress.Json.Reader
import ReportPress.Main
import ReportPress.Note
import ReportPress.Number.Binary64
import ReportPress.Number.Numeral
import ReportPress.Number.Shortest
import ReportPress.Order.Stable
import ReportPress.Page.Canvas
import ReportPress.Page.Colour
import ReportPress.Page.Geometry
import ReportPress.Page.Listing
import ReportPress.Paint.Component
import ReportPress.Paint.Image
import ReportPress.Paint.Job
import ReportPress.Paint.Shape
import ReportPress.Paint.Table
import ReportPress.Paint.Text
import ReportPress.Paint.Work
import ReportPress.Proofs.Asset.Directory
import ReportPress.Proofs.Asset.Loading
import ReportPress.Proofs.Config.Ranges
import ReportPress.Proofs.Config.Refusal
import ReportPress.Proofs.Document.Completion
import ReportPress.Proofs.Document.Fonts
import ReportPress.Proofs.Document.Footers
import ReportPress.Proofs.Document.Geometry
import ReportPress.Proofs.Document.Isolation
import ReportPress.Proofs.Document.Legible
import ReportPress.Proofs.Document.Paging
import ReportPress.Proofs.Document.Prepare
import ReportPress.Proofs.Document.Spacing
import ReportPress.Proofs.Document.Tables
import ReportPress.Proofs.Effect
import ReportPress.Proofs.Expr.Blanks
import ReportPress.Proofs.Expr.Chain
import ReportPress.Proofs.Expr.Grammar
import ReportPress.Proofs.Expr.Overlong
import ReportPress.Proofs.Expr.Tokens
import ReportPress.Proofs.Files.Descent
import ReportPress.Proofs.Flow.Faults
import ReportPress.Proofs.Flow.Instances
import ReportPress.Proofs.Flow.Mishaps
import ReportPress.Proofs.Flow.Outline
import ReportPress.Proofs.Flow.Overrun
import ReportPress.Proofs.Flow.Pages
import ReportPress.Proofs.Flow.Paging
import ReportPress.Proofs.Flow.Paintings
import ReportPress.Proofs.Flow.Reachable
import ReportPress.Proofs.Flow.Script
import ReportPress.Proofs.Flow.Spacing
import ReportPress.Proofs.Flow.Unrounded
import ReportPress.Proofs.Json.Reader
import ReportPress.Proofs.Number.Exact
import ReportPress.Proofs.Number.NotANumber
import ReportPress.Proofs.Number.Numeral
import ReportPress.Proofs.Number.Order
import ReportPress.Proofs.Number.Packing
import ReportPress.Proofs.Number.Ratio
import ReportPress.Proofs.Number.Rounding
import ReportPress.Proofs.Number.Shortest
import ReportPress.Proofs.Number.Sum
import ReportPress.Proofs.Number.Written
import ReportPress.Proofs.Order.Stable
import ReportPress.Proofs.Page.Surface
import ReportPress.Proofs.Page.Tools
import ReportPress.Proofs.Paint.Alike
import ReportPress.Proofs.Paint.BoundText
import ReportPress.Proofs.Paint.Cells
import ReportPress.Proofs.Paint.Colour
import ReportPress.Proofs.Paint.Entries
import ReportPress.Proofs.Paint.FallBack
import ReportPress.Proofs.Paint.Growth
import ReportPress.Proofs.Paint.Isolation
import ReportPress.Proofs.Paint.Legible
import ReportPress.Proofs.Paint.Lines
import ReportPress.Proofs.Paint.Reading
import ReportPress.Proofs.Paint.Remains
import ReportPress.Proofs.Paint.Rows
import ReportPress.Proofs.Paint.Sources
import ReportPress.Proofs.Paint.Steady
import ReportPress.Proofs.Paint.Style
import ReportPress.Proofs.Paint.Tables
import ReportPress.Proofs.Paint.Unmoved
import ReportPress.Proofs.Record.Conditions
import ReportPress.Proofs.Record.Fallback
import ReportPress.Proofs.Record.Nesting
import ReportPress.Proofs.Record.Path
import ReportPress.Proofs.Record.Substitution
import ReportPress.Proofs.Record.Token
import ReportPress.Proofs.Template.Catalogue
import ReportPress.Proofs.Template.Conditions
import ReportPress.Proofs.Template.File
import ReportPress.Proofs.Template.Nulls
import ReportPress.Proofs.Template.Reader
import ReportPress.Proofs.Template.Refusal
import ReportPress.Proofs.Template.WellFormed
import ReportPress.Proofs.Text.Fit
import ReportPress.Proofs.Text.Gauge
import ReportPress.Proofs.Text.Latin
import ReportPress.Proofs.Text.Quoted
import ReportPress.Proofs.Text.Rewrap
import ReportPress.Proofs.Text.Trim
import ReportPress.Proofs.Value.Contents
import ReportPress.Proofs.Value.Equality
import ReportPress.Proofs.Value.Fields
import ReportPress.Proofs.Value.Settled
import ReportPress.Proofs.Value.Shown
import ReportPress.Proofs.Value.Text
import ReportPress.Raster.Bmp
import ReportPress.Raster.Directory
import ReportPress.Raster.Fault
import ReportPress.Raster.Flatten
import ReportPress.Raster.Format
import ReportPress.Raster.Gif
import ReportPress.Raster.Inflate
import ReportPress.Raster.Jpeg.Code
import ReportPress.Raster.Jpeg.Decoder
import ReportPress.Raster.Jpeg.Image
import ReportPress.Raster.Jpeg.Reader
import ReportPress.Raster.Jpeg.Scan
import ReportPress.Raster.Jpeg.Segment
import ReportPress.Raster.Octets
import ReportPress.Raster.Png.Chunk
import ReportPress.Raster.Png.Image
import ReportPress.Raster.Png.Rows
import ReportPress.Raster.Png.Stream
import ReportPress.Raster.Tiff.Image
import ReportPress.Raster.Tiff.Layout
import ReportPress.Raster.Tiff.Packed
import ReportPress.Raster.Tiff.Packing
import ReportPress.Raster.Tiff.Strip
import ReportPress.Raster.Tiff.Tags
import ReportPress.Raster.WebP
import ReportPress.Record.Condition
import ReportPress.Record.Path
import ReportPress.Record.Token
import ReportPress.Template.Basic
import ReportPress.Template.Catalogue
import ReportPress.Template.Fault
import ReportPress.Template.Field
import ReportPress.Template.File
import ReportPress.Template.Inspection
import ReportPress.Template.Reader
import ReportPress.Template.Table
import ReportPress.Text.Base64
import ReportPress.Text.Blank
import ReportPress.Text.CharSet
import ReportPress.Text.Compatible
import ReportPress.Text.Digit
import ReportPress.Text.Latin
import ReportPress.Text.LetterCase
import ReportPress.Text.Printable
import ReportPress.Text.Quoted
import ReportPress.Text.Split
import ReportPress.Text.Utf8
import ReportPress.Text.Word
import ReportPress.Text.Wrap
import ReportPress.Toml.Fault
import ReportPress.Toml.Reader
import ReportPress.Toml.Scalar
import ReportPress.Value.Basic
import ReportPress.Value.Equality
import ReportPress.Value.Text
