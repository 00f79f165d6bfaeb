import Storybook.Asset.Manifest
import Storybook.Asset.Resource
import Storybook.Cast.Binding
import Storybook.Cast.Character
import Storybook.Cast.Effect
import Storybook.Clock.Span
import Storybook.Clock.TimerQueue
import Storybook.Data.Decode
import Storybook.Data.Fault
import Storybook.Data.Node
import Storybook.Data.Number
import Storybook.Files.Path
import Storybook.Files.Tree
import Storybook.Image.Jpeg
import Storybook.Image.Picture
import Storybook.Image.Png
import Storybook.Image.Size
import Storybook.Json.Numeral
import Storybook.Json.Reader
import Storybook.Json.Token
import Storybook.Launcher.Arguments
import Storybook.Launcher.Catalogue
import Storybook.Launcher.Host
import Storybook.Launcher.Launch
import Storybook.Launcher.Report
import Storybook.Launcher.Session
import Storybook.Log.Filter
import Storybook.Main
import Storybook.Number.Binary
import Storybook.Number.Decimal
import Storybook.Number.Power
import Storybook.Pattern.Bracket
import Storybook.Pattern.Escape
import Storybook.Pattern.Expression
import Storybook.Pattern.Fault
import Storybook.Pattern.Meaning
import Storybook.Pattern.Reading
import Storybook.Pattern.Source
import Storybook.Pattern.Tree
import Storybook.Play.Event
import Storybook.Play.Player
import Storybook.Play.Scene
import Storybook.Play.World
import Storybook.Proofs.Continuation
import Storybook.Proofs.Holders
import Storybook.Proofs.Holding.Characters
import Storybook.Proofs.Holding.Effects
import Storybook.Proofs.Holding.Frames
import Storybook.Proofs.Holding.Held
import Storybook.Proofs.Holding.Kept
import Storybook.Proofs.Holding.Players
import Storybook.Proofs.Holding.Quiet
import Storybook.Proofs.Holding.Scenes
import Storybook.Proofs.Holding.Sounds
import Storybook.Proofs.Motions
import Storybook.Proofs.Openings
import Storybook.Proofs.Overtaking
import Storybook.Proofs.Reports
import Storybook.Proofs.Roots
import Storybook.Proofs.Sounding.Chains
import Storybook.Proofs.Sounding.Players
import Storybook.Proofs.Sounding.Scenes
import Storybook.Proofs.Sounding.Voices
import Storybook.Proofs.Sprites
import Storybook.Proofs.Restarting
import Storybook.Proofs.Teardown
import Storybook.Proofs.Timers
import Storybook.Settings.Section
import Storybook.Settings.Store
import Storybook.Settings.Writing
import Storybook.Sound.Audio
import Storybook.Sound.Chain
import Storybook.Stage.Animator
import Storybook.Stage.Sprite
import Storybook.Stage.Stage
import Storybook.Story.Colour
import Storybook.Story.Document
import Storybook.Story.Millis
import Storybook.Story.Reading
import Storybook.Story.Writing
import Storybook.Table
import Storybook.Text.Blank
import Storybook.Text.Invisible
import Storybook.Text.Plain
import Storybook.Text.Quoted
import Storybook.Toml.Reader
import Storybook.Toml.Scalar
import Storybook.Toml.Token
import Storybook.Toml.Tree
import Storybook.Proofs.Queue
import Storybook.Proofs.Sounding.Courses
import Storybook.Proofs.Succession
import Storybook.Proofs.Mirroring.Worlds
import Storybook.Proofs.Mirroring.Cast
import Storybook.Proofs.Mirroring.Scenes
import Storybook.Proofs.Working
import Storybook.Proofs.Entry
import Storybook.Proofs.Chronicle
import Storybook.Proofs.Lifecycle
import Storybook.Proofs.Occurrences
import Storybook.Proofs.Playbacks
import Storybook.Proofs.Layers
import Storybook.Proofs.Ownership
import Storybook.Proofs.Sounding.Minding
import Storybook.Proofs.Lingering
import Storybook.Proofs.Tables
import Storybook.Proofs.Widening
import Storybook.Proofs.Decoding
import Storybook.Proofs.Rereading
import Storybook.Proofs.Abiding
import Storybook.Proofs.Casts
import Storybook.Proofs.Arrivals
import Storybook.Proofs.Manifests
import Storybook.Proofs.Loading
import Storybook.Proofs.Routing
import Storybook.Proofs.Commuting
import Storybook.Proofs.Neighbours.Players
import Storybook.Proofs.Fading.Players
import Storybook.Proofs.Clock
import Storybook.Proofs.Splash
import Storybook.Proofs.Recurrences
import Storybook.Proofs.Returning.Scenes
import Storybook.Proofs.Returning.Entries
import Storybook.Proofs.Renewal.Outfits
import Storybook.Proofs.Renewal.Clean
import Storybook.Proofs.Renewal.Players
import Storybook.Proofs.Omissions
import Storybook.Proofs.Searches
import Storybook.Proofs.Sounding.Instances
import Storybook.Proofs.Piles
import Storybook.Proofs.Splitting
import Storybook.Proofs.Enduring
import Storybook.Proofs.Touching
import Storybook.Proofs.Landing
import Storybook.Proofs.Sounding.Restarts
import Storybook.Proofs.Watching.Spins
import Storybook.Proofs.Watching.Fades
import Storybook.Proofs.Refusals
import Storybook.Proofs.Colours
import Storybook.Proofs.Scripts
import Storybook.Proofs.Sweeping
import Storybook.Proofs.Drawing
