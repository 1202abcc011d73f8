import Yeet.Go.Strings
import Yeet.Go.Filepath
import Yeet.Go.Errors
import Yeet.Db.Data
import Yeet.Db.Migrate
import Yeet.Catch.Server
import Yeet.Svc.DockerCompose
import Yeet.Registry.ContainerRegistry
import Yeet.Registry.Manifests
import Yeet.Registry.Integrity
import Yeet.Registry.Tags
import Yeet.Catch.EventBus
import Yeet.Catch.EditUnits
import Yeet.Catch.Lifecycle
import Yeet.Catch.Generations
import Yeet.Catch.StoreUpdates
import Yeet.Catch.Routing
import Yeet.Catch.InstallEntry
import Yeet.Catch.FileHandler
import Yeet.Catch.TerminalResize
import Yeet.Catch.SftpListing
import Yeet.Catch.Status
import Yeet.Catch.ServiceCommands
import Yeet.Ftdetect.Detect
import Yeet.Websocketutil.ConnReadWriter
import Yeet.Websocketutil.ReadStream
import Yeet.Client.PushImage
import Yeet.Cli.Flags
import Yeet.Client.Main
import Yeet.Client.RunPayload
import Yeet.Cli.CommandHandler
import Yeet.Client.Hosts
import Yeet.Client.Install
import Yeet.Catch.Web
