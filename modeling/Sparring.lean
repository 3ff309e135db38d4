import Sparring.Amount
import Sparring.Bot.Assemble
import Sparring.Bot.Playbook
import Sparring.Bot.Token
import Sparring.Card.Attributes
import Sparring.Card.Basic
import Sparring.Card.Kind
import Sparring.Card.Legend
import Sparring.Card.Line
import Sparring.Catalog.Basic
import Sparring.Catalog.Code
import Sparring.Catalog.Id
import Sparring.Catalog.Load
import Sparring.Catalog.Lookup
import Sparring.Combo.Compile
import Sparring.Combo.Step
import Sparring.Datum.Basic
import Sparring.Decimal.Binary64
import Sparring.Decimal.Shortest
import Sparring.Decimal.Stepwise
import Sparring.Dice
import Sparring.Json.Printer
import Sparring.Json.Reader
import Sparring.Main
import Sparring.Move.Basic
import Sparring.Move.Registry
import Sparring.Program.Arguments
import Sparring.Program.Assist
import Sparring.Program.Bridge
import Sparring.Program.Files
import Sparring.Program.Lint
import Sparring.Program.Outcome
import Sparring.Proofs.Checked
import Sparring.Proofs.Combo.Notation
import Sparring.Proofs.Combo.Play
import Sparring.Query.Control
import Sparring.Query.Row
import Sparring.Query.State
import Sparring.Reading.Card
import Sparring.Reading.Fault
import Sparring.Reading.Question
import Sparring.Reading.Record
import Sparring.Reading.Source
import Sparring.Reading.Spec
import Sparring.Reading.Table
import Sparring.Reading.Token
import Sparring.Roster.AncientHero
import Sparring.Roster.Basic
import Sparring.Roster.Catalog
import Sparring.Roster.Colossus
import Sparring.Roster.DragonbornCenturion
import Sparring.Roster.DragonbornFirebat
import Sparring.Roster.FoxPrimus
import Sparring.Roster.GlassMonk
import Sparring.Roster.JandraTheNegator
import Sparring.Roster.SoothingMonk
import Sparring.Roster.TwilightBaron
import Sparring.Roster.WhitestarGrappler
import Sparring.Text.Blank
import Sparring.Text.Digits
import Sparring.Text.Encoding
import Sparring.Text.LowerCase
import Sparring.Text.Quoted
import Sparring.Text.Utf16
import Sparring.Text.Utf8
import Sparring.Tuple
import Sparring.Width
import Sparring.Writing.Bot
import Sparring.Writing.Card
import Sparring.Writing.Move
import Sparring.Writing.Query
import Sparring.Yaml.Cursor
import Sparring.Yaml.Document
import Sparring.Yaml.Node
import Sparring.Yaml.Reader
import Sparring.Yaml.Scalar
import Sparring.Yaml.Token
import Sparring.Yaml.Word
import Sparring.Proofs.Bot.Assembly
import Sparring.Proofs.Combo.Score
import Sparring.Proofs.Dice
import Sparring.Proofs.Query.Cells
import Sparring.Proofs.Bot.HandCost
import Sparring.Proofs.Bot.Restraint
import Sparring.Proofs.Combo.Bill
import Sparring.Proofs.Combo.Overflow
import Sparring.Proofs.Combo.Join
import Sparring.Proofs.Bot.Order
import Sparring.Proofs.Bot.FirstFault
import Sparring.Proofs.Catalog.Build
import Sparring.Proofs.Catalog.Code
import Sparring.Proofs.Catalog.Lookup
import Sparring.Proofs.Catalog.Typed
import Sparring.Proofs.Query.Range
import Sparring.Proofs.Query.Controls
import Sparring.Proofs.Query.Saturation
import Sparring.Proofs.Catalog.Answer
import Sparring.Proofs.Program.Views
import Sparring.Proofs.Card.Attributes
import Sparring.Proofs.Reading.Filling
import Sparring.Proofs.Reading.RoundTrip
import Sparring.Proofs.Bot.Plain
import Sparring.Proofs.Reading.Tree
import Sparring.Proofs.Reading.Strict
import Sparring.Proofs.Text.Marks
import Sparring.Proofs.Program.Loading
import Sparring.Proofs.Text.Capitals
import Sparring.Proofs.Catalog.Spelling
import Sparring.Proofs.Combo.Alone
import Sparring.Proofs.Card.Patch
import Sparring.Proofs.Bot.Patched
import Sparring.Proofs.Move.Registry
import Sparring.Proofs.Bot.Locality
import Sparring.Proofs.Catalog.Slug
import Sparring.Proofs.Card.Labels
import Sparring.Proofs.Text.Utf8
import Sparring.Proofs.Text.Utf16
import Sparring.Proofs.Text.Misreading
import Sparring.Proofs.Text.SecondMark
import Sparring.Proofs.Program.Verdict
import Sparring.Proofs.Text.Row
import Sparring.Proofs.Card.Line
