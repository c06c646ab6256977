import Blueprint.Document.ReadMap
import Blueprint.Main
import Blueprint.Proofs.Build.Connections
import Blueprint.Proofs.Build.Tiles
import Blueprint.Proofs.Build.Typing
import Blueprint.Proofs.Document.RoundTrip
import Blueprint.Proofs.Document.Validity
import Blueprint.Proofs.Template.Document
import Blueprint.Proofs.Template.Idempotence
import Blueprint.Proofs.Template.Kept
import Blueprint.Proofs.Template.LongestMatch
import Blueprint.Proofs.Template.Patterns
import Blueprint.Proofs.Placement.Margin
import Blueprint.Proofs.Placement.Renaming
import Blueprint.Proofs.Build.Precedence
import Blueprint.Proofs.Document.Starter
import Blueprint.Proofs.Build.Starter
import Blueprint.Proofs.Placement.Relevance
import Blueprint.Proofs.Document.Vetted
import Blueprint.Proofs.Build.Capacity
import Blueprint.Proofs.Build.Conformance
import Blueprint.Proofs.Json.Unambiguous
import Blueprint.Proofs.Schematic.Base64
import Blueprint.Proofs.Schematic.Lossless
import Blueprint.Proofs.Template.InsertionOrder
import Blueprint.Proofs.Template.Exhausted
import Blueprint.Proofs.Template.Unreferenced
import Blueprint.Proofs.Document.Constants
import Blueprint.Proofs.Placement.Constants
import Blueprint.Proofs.Build.Constants
import Blueprint.Proofs.FileTree
import Blueprint.Proofs.Path
import Blueprint.Proofs.CommandLine.Output
import Blueprint.Proofs.Placement.Outcome
import Blueprint.Proofs.Template.Occurrences
import Blueprint.Proofs.Build.Tags
import Blueprint.Proofs.Document.Cursor
import Blueprint.Proofs.Document.Authors
import Blueprint.Proofs.Document.Span
import Blueprint.Proofs.Placement.Points
import Blueprint.Proofs.Program
import Blueprint.Proofs.Catalog
import Blueprint.Proofs.Document.ReadMap
import Blueprint.Proofs.Template.Glyphs
import Blueprint.Proofs.Template.Lexemes
import Blueprint.Proofs.Template.Shortcuts
