import Waymark.Ascending
import Waymark.Character.Break
import Waymark.Character.Case
import Waymark.Character.CharSet
import Waymark.Character.Contributory
import Waymark.Character.Derived
import Waymark.Character.Edition
import Waymark.Character.Emoji
import Waymark.Character.Ideograph
import Waymark.Character.Letter
import Waymark.Character.Mark
import Waymark.Character.NamedSet
import Waymark.Character.Number
import Waymark.Character.Property
import Waymark.Character.Punctuation
import Waymark.Character.Ranges
import Waymark.Character.Recent
import Waymark.Character.Role
import Waymark.Character.Script
import Waymark.Character.Separator
import Waymark.Character.SharedUse
import Waymark.Character.Symbol
import Waymark.Draft
import Waymark.Draft.Binder
import Waymark.Draft.Block
import Waymark.Draft.Mapper
import Waymark.Draft.Template
import Waymark.Draft.Transform
import Waymark.Effect
import Waymark.Grammar.Arithmetic
import Waymark.Grammar.Declarations
import Waymark.Input
import Waymark.Journal
import Waymark.Location
import Waymark.Mark
import Waymark.Outline
import Waymark.Parser
import Waymark.Parser.DoBlock
import Waymark.Parser.Fuel
import Waymark.Parser.Primitive
import Waymark.Parser.Run
import Waymark.Pattern
import Waymark.Proofs.Absorption
import Waymark.Proofs.Alternatives
import Waymark.Proofs.Anchoring
import Waymark.Proofs.Arithmetic
import Waymark.Proofs.Ascent
import Waymark.Proofs.Boundary
import Waymark.Proofs.CharacterRun
import Waymark.Proofs.Confinement
import Waymark.Proofs.Consumption
import Waymark.Proofs.Conversation
import Waymark.Proofs.CursorSafety
import Waymark.Proofs.Declarations
import Waymark.Proofs.DirectStyle
import Waymark.Proofs.Enclosure
import Waymark.Proofs.ErrorChain
import Waymark.Proofs.Evaluation
import Waymark.Proofs.Excerpt
import Waymark.Proofs.Filing
import Waymark.Proofs.Flattening
import Waymark.Proofs.Halting
import Waymark.Proofs.HighWater
import Waymark.Proofs.InOrder
import Waymark.Proofs.Invariant
import Waymark.Proofs.Iteration
import Waymark.Proofs.Labels
import Waymark.Proofs.Language
import Waymark.Proofs.LiveParts
import Waymark.Proofs.Longhand
import Waymark.Proofs.Lossless
import Waymark.Proofs.Mapped
import Waymark.Proofs.MarkedText
import Waymark.Proofs.Noninterference
import Waymark.Proofs.OneOrMore
import Waymark.Proofs.Parts
import Waymark.Proofs.Passage
import Waymark.Proofs.Passage.Run
import Waymark.Proofs.Peg.Completeness
import Waymark.Proofs.Peg.Expr
import Waymark.Proofs.Peg.Realization
import Waymark.Proofs.Peg.Refinement
import Waymark.Proofs.Peg.Soundness
import Waymark.Proofs.Peg.Translation
import Waymark.Proofs.Places
import Waymark.Proofs.Primitive
import Waymark.Proofs.Recognition
import Waymark.Proofs.Relocation
import Waymark.Proofs.Separation
import Waymark.Proofs.Simulation
import Waymark.Proofs.Simulation.Limit
import Waymark.Proofs.Simulation.Run
import Waymark.Proofs.Stalling
import Waymark.Proofs.Tabulation
import Waymark.Proofs.Termination
import Waymark.Proofs.Triple
import Waymark.Proofs.Unlabel
import Waymark.Proofs.Utf8
import Waymark.Regex
import Waymark.Regex.ByteRanges
import Waymark.Regex.Footprint
import Waymark.Regex.Node
import Waymark.Regex.Program
import Waymark.Regex.Reading
import Waymark.Regex.Reading.Bracket
import Waymark.Regex.Reading.Escape
import Waymark.Regex.Reading.Nested
import Waymark.Regex.Reading.Spacing
import Waymark.Regex.Search
import Waymark.State
import Waymark.Suggestions
import Waymark.Text.Alphanumeric
import Waymark.Text.Blank
import Waymark.Text.Bytes
import Waymark.Text.Escaped
import Waymark.Text.Lines
import Waymark.Text.Quoted
import Waymark.Text.Significance
import Waymark.Text.Suffixes
import Waymark.Value
import Waymark.Value.Convert
import Waymark.Value.Render
