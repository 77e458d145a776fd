import ClassDiagram.Main
import ClassDiagram.Files.Disk
import ClassDiagram.Proofs.OrderedMap
import ClassDiagram.Proofs.Text.Blank
import ClassDiagram.Proofs.Text.Case
import ClassDiagram.Proofs.Text.Numeral
import ClassDiagram.Proofs.Text.Split
import ClassDiagram.Proofs.Member.Grammar
import ClassDiagram.Proofs.Member.Merge
import ClassDiagram.Proofs.Member.Method
import ClassDiagram.Proofs.Member.NormalForm
import ClassDiagram.Proofs.Member.Parts
import ClassDiagram.Proofs.Member.Property
import ClassDiagram.Proofs.Member.Token
import ClassDiagram.Proofs.Model.Connectors
import ClassDiagram.Proofs.Model.Embedding
import ClassDiagram.Proofs.Model.Dependency
import ClassDiagram.Proofs.Model.Edits
import ClassDiagram.Proofs.Model.Images
import ClassDiagram.Proofs.Model.Interface
import ClassDiagram.Proofs.Model.OfDrawing
import ClassDiagram.Proofs.Recognition.ClassBox
import ClassDiagram.Proofs.Recognition.Exchange
import ClassDiagram.Proofs.Recognition.Inert
import ClassDiagram.Proofs.Recognition.Opening
import ClassDiagram.Proofs.Recognition.Step
import ClassDiagram.Proofs.Recognition.Tally
import ClassDiagram.Proofs.Emit.Accessors
import ClassDiagram.Proofs.Emit.Alike
import ClassDiagram.Proofs.Emit.Balance
import ClassDiagram.Proofs.Emit.CSharp
import ClassDiagram.Proofs.Emit.Constructors
import ClassDiagram.Proofs.Emit.Cpp
import ClassDiagram.Proofs.Emit.Imports
import ClassDiagram.Proofs.Emit.Java
import ClassDiagram.Proofs.Emit.Php
import ClassDiagram.Proofs.Emit.Pieces
import ClassDiagram.Proofs.Emit.Python
import ClassDiagram.Proofs.Emit.Returns
import ClassDiagram.Proofs.Emit.Stubs
import ClassDiagram.Proofs.Emit.TypeScript
import ClassDiagram.Proofs.Schema.Clauses
import ClassDiagram.Proofs.Schema.Creation
import ClassDiagram.Proofs.Schema.KeyNames
import ClassDiagram.Proofs.Schema.Levels
import ClassDiagram.Proofs.Schema.Order
import ClassDiagram.Proofs.Schema.Quoting
import ClassDiagram.Proofs.Schema.Reference
import ClassDiagram.Proofs.Schema.Script
import ClassDiagram.Proofs.Schema.Settling
import ClassDiagram.Proofs.Schema.Similar
import ClassDiagram.Proofs.Schema.Walks
import ClassDiagram.Proofs.Target.Embedding
import ClassDiagram.Proofs.Target.Served
import ClassDiagram.Proofs.Target.Selection
import ClassDiagram.Proofs.Files.Disk
import ClassDiagram.Proofs.Files.System
import ClassDiagram.Proofs.Files.Held
import ClassDiagram.Proofs.Run.Steps
import ClassDiagram.Proofs.Run.Ending
import ClassDiagram.Proofs.Run.LastWrite
import ClassDiagram.Proofs.Emit.CaseNumbers
import ClassDiagram.Proofs.Schema.Literal
import ClassDiagram.Proofs.Text.Combinators
