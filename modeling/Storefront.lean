import Storefront.Files.WellFormed
import Storefront.Main
import Storefront.Report.Json
import Storefront.Session
import Storefront.Text.UpperCase
import Storefront.Proofs.Path.Join
import Storefront.Proofs.Path.OutputName
import Storefront.Proofs.Files.Reach
import Storefront.Proofs.Text.LetterCase
import Storefront.Proofs.Files.Agreement
import Storefront.Proofs.Files.Writing
import Storefront.Proofs.Image.FixedPoint
import Storefront.Proofs.Batch.Course
import Storefront.Proofs.Batch.Collision
import Storefront.Proofs.Batch.EndState
import Storefront.Proofs.Batch.Copying
import Storefront.Proofs.Batch.Rerun
import Storefront.Proofs.Batch.Sources
import Storefront.Proofs.Batch.Order
import Storefront.Proofs.Batch.Repeat
import Storefront.Proofs.Batch.Lossless
import Storefront.Proofs.Image.Veil
import Storefront.Proofs.Batch.Telling
import Storefront.Proofs.Json.RoundTrip
import Storefront.Proofs.Batch.Messages
import Storefront.Proofs.Files.Scanning
import Storefront.Proofs.Settings.Gate
import Storefront.Proofs.Batch.Fatal
import Storefront.Proofs.Json.Blind
import Storefront.Proofs.Json.KeptOrder
import Storefront.Proofs.Json.Overlay
import Storefront.Proofs.Report.MemberOrder
import Storefront.Proofs.Settings.Overlay
import Storefront.Proofs.Geometry.Proportion
import Storefront.Proofs.Geometry.Borders
import Storefront.Proofs.Image.Unscaled
import Storefront.Proofs.Batch.Causes
import Storefront.Proofs.Batch.SingleFile
import Storefront.Proofs.Batch.OutputPath
import Storefront.Proofs.Icon.Set
import Storefront.Proofs.Icon.Painting
import Storefront.Proofs.Text.Blank
import Storefront.Proofs.Text.ColorGrammar
import Storefront.Proofs.Files.BlankEntries
import Storefront.Proofs.Batch.CaseVariants
