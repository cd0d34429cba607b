import LiveMarkup.Cli
import LiveMarkup.Cli.Arguments
import LiveMarkup.Cli.Variables
import LiveMarkup.Config
import LiveMarkup.Discovery
import LiveMarkup.Display.Client
import LiveMarkup.Display.Module
import LiveMarkup.Display.Play
import LiveMarkup.Display.Scene
import LiveMarkup.Display.Step
import LiveMarkup.Main
import LiveMarkup.Proofs.Handler.Turns
import LiveMarkup.Proofs.Path.Identity
import LiveMarkup.Workspace
import LiveMarkup.Workspace.World
import LiveMarkup.Proofs.Handler.Record
import LiveMarkup.Proofs.Handler.Calls
import LiveMarkup.Proofs.Json.Quoting
import LiveMarkup.Proofs.ModuleText.Reading
import LiveMarkup.Proofs.Handler.Steady
import LiveMarkup.Proofs.Handler.Create
import LiveMarkup.Proofs.Transform
import LiveMarkup.Proofs.Handler.Inherited
import LiveMarkup.Proofs.Live.Agreement
import LiveMarkup.Proofs.Live.Delivery
import LiveMarkup.Proofs.Live.Serving
import LiveMarkup.Proofs.ModuleText.Emission
import LiveMarkup.Proofs.Registry.Adoption
import LiveMarkup.Proofs.Display.Runs
import LiveMarkup.Proofs.Display.Numbers
import LiveMarkup.Proofs.Display.Pending
import LiveMarkup.Proofs.Display.Moves
import LiveMarkup.Proofs.Display.Contents
import LiveMarkup.Proofs.Display.Following
import LiveMarkup.Proofs.Display.Removal
import LiveMarkup.Proofs.Display.Nesting
import LiveMarkup.Proofs.Display.Hearing
import LiveMarkup.Proofs.Display.Synchrony
import LiveMarkup.Proofs.Registry.History
import LiveMarkup.Proofs.Live.Wire
import LiveMarkup.Proofs.Handler.Likeness
import LiveMarkup.Proofs.Live.Watching
import LiveMarkup.Proofs.ModuleText.Requiring
import LiveMarkup.Proofs.Handler.Decision
import LiveMarkup.Proofs.Minify.Spacing
import LiveMarkup.Proofs.Workspace.Stages
import LiveMarkup.Proofs.Path.Directory
import LiveMarkup.Proofs.Cli.Commands
import LiveMarkup.Proofs.Path.Ancestors
import LiveMarkup.Proofs.FileTree
import LiveMarkup.Proofs.Discovery
import LiveMarkup.Proofs.Stage.Location
import LiveMarkup.Proofs.Remedy
import LiveMarkup.Proofs.Minify.Comments
import LiveMarkup.Proofs.Pattern.Matching
import LiveMarkup.Proofs.Matcher
import LiveMarkup.Proofs.Remedy.Prebuilt
import LiveMarkup.Proofs.Manifest.Encoding
import LiveMarkup.Proofs.Path.Canonical
import LiveMarkup.Proofs.Display.Upkeep
import LiveMarkup.Proofs.Display.Listeners
import LiveMarkup.Proofs.Display.KeyTable
import LiveMarkup.Proofs.Display.Bindings
import LiveMarkup.Proofs.Path.Letters
import LiveMarkup.Proofs.Path.Respelling
import LiveMarkup.Proofs.RawPath.Showing
import LiveMarkup.Proofs.RawPath.Spelling
import LiveMarkup.Proofs.RawPath.Ways
import LiveMarkup.Proofs.RawPath.Requiring
import LiveMarkup.Proofs.Workspace.Watching
