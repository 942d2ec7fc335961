import DogCourier.Binary64.Basic
import DogCourier.Decimal.Shortest
import DogCourier.Decimal.Layout
import DogCourier.Plane.Basic
import DogCourier.Road.Basic
import DogCourier.Road.Network
import DogCourier.Gather.Sweep
import DogCourier.Text.CodeRanges
import DogCourier.Text.Printable
import DogCourier.Text.GraphemeExtend
import DogCourier.Text.Quoted
import DogCourier.Json.Value
import DogCourier.Json.Fault
import DogCourier.Json.Number
import DogCourier.Json.Scan
import DogCourier.Json.Tree
import DogCourier.Json.Shape
import DogCourier.Time.Duration
import DogCourier.Loot.Supply
import DogCourier.Leaderboard.Basic
import DogCourier.Map.Basic
import DogCourier.Config.Doc
import DogCourier.Config.Read
import DogCourier.Config.Build
import DogCourier.Random.ChaCha
import DogCourier.Random.Stream
import DogCourier.Game.Basic
import DogCourier.Game.Run
import DogCourier.Sim.Args
import DogCourier.Sim.Run
import DogCourier.Main
import DogCourier.Proofs.Leaderboard.Rank
import DogCourier.Proofs.Game.Tick
import DogCourier.Proofs.Session.Loot
import DogCourier.Proofs.Game.Reach
import DogCourier.Proofs.Save.RoundTrip
import DogCourier.Proofs.Float.Floor
import DogCourier.Proofs.Session.Safety
import DogCourier.Proofs.Game.Safety
import DogCourier.Host.Loop
import DogCourier.Proofs.Host.Sequential
import DogCourier.Proofs.Session.Restore
import DogCourier.Proofs.Game.Resume
import DogCourier.Proofs.Road.Index
import DogCourier.Proofs.Session.Refusal
import DogCourier.Proofs.Save.Checks
import DogCourier.Proofs.Save.Validation
import DogCourier.Proofs.Float.Total
import DogCourier.Proofs.Road.Hops
import DogCourier.Proofs.Text.ByteOrder
import DogCourier.Proofs.Leaderboard.Board
import DogCourier.Proofs.Float.Lift
import DogCourier.Proofs.Gather.Events
import DogCourier.Proofs.Float.Quotient
import DogCourier.Proofs.Time.Seconds
import DogCourier.Proofs.Loot.Supply
import DogCourier.Proofs.Session.Retirement
import DogCourier.Proofs.Session.Movement
import DogCourier.Proofs.Game.Saving
import DogCourier.Proofs.Config.Checks
