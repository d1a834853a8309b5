import CanvasScript.Disk.FileTree
import CanvasScript.Main
import CanvasScript.Scalar.Rational
import CanvasScript.Proofs.Run.SavedPaths
import CanvasScript.Proofs.Session.FileAccount
import CanvasScript.Proofs.Shortcut.Stratified
import CanvasScript.Proofs.Shortcut.Sigils
import CanvasScript.Proofs.Shortcut.Expansion
import CanvasScript.Proofs.Validation.Grammar
import CanvasScript.Proofs.Host.Operation
import CanvasScript.Proofs.Run.Composition
import CanvasScript.Proofs.Run.OnHost
import CanvasScript.Proofs.Run.Stepwise
import CanvasScript.Proofs.Run.Refusal
import CanvasScript.Proofs.Run.Omission
import CanvasScript.Proofs.Host.Handles
import CanvasScript.Proofs.Run.Handles
import CanvasScript.Proofs.Run.State
import CanvasScript.Proofs.Run.Renders
import CanvasScript.Proofs.Session.Positions
import CanvasScript.Proofs.Listing.Order
import CanvasScript.Proofs.CommandLine.Agreement
import CanvasScript.Proofs.Digest.Injective
import CanvasScript.Proofs.Json.Places
import CanvasScript.Proofs.Script.Models
import CanvasScript.Proofs.Validation.Faults
import CanvasScript.Proofs.Binary64.Integers
import CanvasScript.Proofs.Configuration.Size
import CanvasScript.Proofs.Run.AdaptSize
import CanvasScript.Proofs.Run.Availability
import CanvasScript.Proofs.Session.Availability
import CanvasScript.Proofs.Run.Zoom
import CanvasScript.Proofs.View.Centering
import CanvasScript.Proofs.View.Literals
import CanvasScript.Proofs.Binary64.Arithmetic
import CanvasScript.Proofs.View.Shares
import CanvasScript.Proofs.Run.MaskOfAnswer
import CanvasScript.Proofs.Run.Patches
import CanvasScript.Proofs.Host.Refused
import CanvasScript.Proofs.Host.History
import CanvasScript.Proofs.Run.AskedMask
import CanvasScript.Proofs.Run.Cycling
import CanvasScript.Proofs.Shortcut.Selection
import CanvasScript.Proofs.Draws.Uniform
import CanvasScript.Proofs.Violation.Records
import CanvasScript.Proofs.Shortcut.SelfReference
import CanvasScript.Proofs.Shortcut.Insertions
import CanvasScript.Proofs.Configuration.Changes
