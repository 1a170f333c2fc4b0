import Frontend.Allocator.Audited
import Frontend.Allocator.Rationed
import Frontend.Inspector.Program
import Frontend.Main
import Frontend.Proofs.Script.Replay
import Frontend.Proofs.Table.Declarations
import Frontend.Proofs.Table.Frame
import Frontend.Proofs.Table.WellNested
import Frontend.Table.History
import Frontend.Tree.Equality
import Frontend.Tree.Shape
import Frontend.Tree.Teardown
import Frontend.Tree.Walk
import Frontend.Proofs.Script.Scan
import Frontend.Proofs.Script.Join
import Frontend.Proofs.Script.Limit
import Frontend.Proofs.Inspector.Session
import Frontend.Proofs.Text.Fields
import Frontend.Proofs.Script.Canonical
import Frontend.Proofs.Script.Names
import Frontend.Proofs.Table.Dump
import Frontend.Proofs.Table.Capacity
import Frontend.Proofs.Table.Requests
import Frontend.Proofs.Table.Messages
import Frontend.Proofs.Table.Chronicle
import Frontend.Proofs.Table.Doubling
import Frontend.Proofs.Table.Insertion
import Frontend.Proofs.Table.Ceiling
import Frontend.Proofs.Inspector.StartUp
import Frontend.Proofs.Table.Lenient
import Frontend.Proofs.Table.Saturation
import Frontend.Proofs.Table.Reordering
import Frontend.Proofs.Script.Rejoin
import Frontend.Proofs.Script.Grammar
import Frontend.Proofs.Tree.Walk
import Frontend.Proofs.Tree.Teardown
import Frontend.Proofs.Tree.Reading
import Frontend.Proofs.Script.Marks
import Frontend.Proofs.Inspector.CommandLine
import Frontend.Proofs.Tree.Building
