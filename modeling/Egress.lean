import Egress.Agent
import Egress.Awareness
import Egress.Box
import Egress.Building
import Egress.Building.Office
import Egress.Category
import Egress.Conditions
import Egress.Contact
import Egress.Demonstration
import Egress.Fault
import Egress.Goal
import Egress.Guidance
import Egress.Heap
import Egress.Main
import Egress.Moment
import Egress.Network
import Egress.Number.Digits
import Egress.Number.Double
import Egress.Number.Hypotenuse
import Egress.Number.Layout
import Egress.Number.Numeral
import Egress.Number.Pair
import Egress.Number.Rounding
import Egress.Outbreak
import Egress.Plane
import Egress.Point
import Egress.Polygon
import Egress.Proofs.Arrivals
import Egress.Proofs.Assessment
import Egress.Proofs.Burning
import Egress.Proofs.Comparison
import Egress.Proofs.Costs
import Egress.Proofs.Cycle
import Egress.Proofs.Declarations
import Egress.Proofs.Densities
import Egress.Proofs.Descent
import Egress.Proofs.Diffusion
import Egress.Proofs.Directory
import Egress.Proofs.Discovery
import Egress.Proofs.Distances
import Egress.Proofs.Doubles
import Egress.Proofs.Doubles.Order
import Egress.Proofs.Effort
import Egress.Proofs.Exits
import Egress.Proofs.Expedition
import Egress.Proofs.Exploration
import Egress.Proofs.Factors
import Egress.Proofs.Failure
import Egress.Proofs.Frontier
import Egress.Proofs.Guidance
import Egress.Proofs.Heap
import Egress.Proofs.History
import Egress.Proofs.Hop
import Egress.Proofs.Ignition
import Egress.Proofs.Inventory
import Egress.Proofs.Isolation
import Egress.Proofs.Itinerary
import Egress.Proofs.Journey
import Egress.Proofs.Knowledge
import Egress.Proofs.Likeness
import Egress.Proofs.Livelock
import Egress.Proofs.Locating
import Egress.Proofs.Members
import Egress.Proofs.Network
import Egress.Proofs.Numerals
import Egress.Proofs.Outbreak
import Egress.Proofs.Outlook
import Egress.Proofs.Overrides
import Egress.Proofs.Parting
import Egress.Proofs.Precedence
import Egress.Proofs.Predecessors
import Egress.Proofs.Ranking
import Egress.Proofs.Reach
import Egress.Proofs.Rectangle
import Egress.Proofs.Refusal
import Egress.Proofs.Registry
import Egress.Proofs.Removal
import Egress.Proofs.Renumbering
import Egress.Proofs.Reordering
import Egress.Proofs.Repetition
import Egress.Proofs.Roster
import Egress.Proofs.Route
import Egress.Proofs.Scene
import Egress.Proofs.Search.Arrival
import Egress.Proofs.Search.Effort
import Egress.Proofs.Search.Least
import Egress.Proofs.Search.Outcome
import Egress.Proofs.Search.Renumbering
import Egress.Proofs.Search.Rooted
import Egress.Proofs.Search.Ties
import Egress.Proofs.Search.Trail
import Egress.Proofs.Search.Turns
import Egress.Proofs.Search.WayBack
import Egress.Proofs.Separation
import Egress.Proofs.Sequence
import Egress.Proofs.Settling
import Egress.Proofs.Severity
import Egress.Proofs.Smouldering
import Egress.Proofs.Snapshot
import Egress.Proofs.Stopping
import Egress.Proofs.Survey
import Egress.Proofs.Table
import Egress.Proofs.Tariff
import Egress.Proofs.Topology
import Egress.Proofs.Traversal
import Egress.Proofs.Trials
import Egress.Proofs.Verdict
import Egress.Proofs.Walk
import Egress.Proofs.Waypoint
import Egress.Proofs.Weighing
import Egress.Proofs.Writes
import Egress.Quotation
import Egress.RandomSource
import Egress.Ranking
import Egress.Ring
import Egress.Route
import Egress.Scalar
import Egress.Search
import Egress.Segment
import Egress.Sensor
import Egress.Setting
import Egress.Settings
import Egress.SettingsFile
import Egress.Suite
import Egress.Survey
import Egress.Table
import Egress.Tariff
import Egress.Twister
import Egress.Unicode.Digit
import Egress.Unicode.Letter
import Egress.Unicode.Lower
import Egress.Unicode.Span
import Egress.Unicode.Visible
import Egress.Value
import Egress.Wording
import Egress.Yaml.Binary
import Egress.Yaml.Content
import Egress.Yaml.Cursor
import Egress.Yaml.Form
import Egress.Yaml.Lexer
import Egress.Yaml.Node
import Egress.Yaml.ScalarText
import Egress.Yaml.Token
