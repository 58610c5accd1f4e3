import PlasmaLogin.Mealy
import PlasmaLogin.ArgScan
import PlasmaLogin.HelperArguments
import PlasmaLogin.ResponseRouting
import PlasmaLogin.SecretFilling
import PlasmaLogin.SessionEnd
import PlasmaLogin.SessionCommand
import PlasmaLogin.SessionUnlock
import PlasmaLogin.Daemon
import PlasmaLogin.OneVerdict
import PlasmaLogin.LoginAnswers
import PlasmaLogin.DataStream
import PlasmaLogin.PathWalk
import PlasmaLogin.GreeterMessages
import PlasmaLogin.SessionFiles
import PlasmaLogin.SessionContainment
import PlasmaLogin.AnsweredPrompts
import PlasmaLogin.CallChannel
import PlasmaLogin.RequestReplies
import PlasmaLogin.HelperProcess
import PlasmaLogin.Lockstep
import PlasmaLogin.VerdictRouting
import PlasmaLogin.AuthWire
import PlasmaLogin.AuthServer
import PlasmaLogin.SafeDataStream
import PlasmaLogin.GreeterChunks
import PlasmaLogin.AttemptEnvironment
import PlasmaLogin.GreeterEnd
import PlasmaLogin.DisplayStops
import PlasmaLogin.Seat
import PlasmaLogin.StoppedOnce
import PlasmaLogin.IdleDisplays
import PlasmaLogin.AttendedDisplays
import PlasmaLogin.PamBrackets
import PlasmaLogin.PrivilegeDrop
import PlasmaLogin.SeatAgreement
import PlasmaLogin.LoginSubmissions
import PlasmaLogin.ClearedPasswords
import PlasmaLogin.SharedScreens
import PlasmaLogin.SavedSessions
import PlasmaLogin.MalformedRequests
import PlasmaLogin.AuthFrames
import PlasmaLogin.FailClosed
import PlasmaLogin.ResponseArray
import PlasmaLogin.GreeterAuths
import PlasmaLogin.SettingsMirror
import PlasmaLogin.ConfigSave
import PlasmaLogin.IdleTimeout
import PlasmaLogin.SeatRemoval
import PlasmaLogin.WindowFilters
import PlasmaLogin.X11Command
import PlasmaLogin.X11Server
import PlasmaLogin.SessionLabels
import PlasmaLogin.SessionAccess
import PlasmaLogin.OwnershipRepair
import PlasmaLogin.ClosedPeer
import PlasmaLogin.VirtualTerminals
import PlasmaLogin.ConsoleSwitch
import PlasmaLogin.UserModel
import PlasmaLogin.ReturningLogin
import PlasmaLogin.OwnCredentials
import PlasmaLogin.ActivatedTerminals
import PlasmaLogin.SessionChoice
import PlasmaLogin.AnswerTrace
import PlasmaLogin.LinearAnswers
import PlasmaLogin.EnvironmentReaders
import PlasmaLogin.WallpaperPackage
import PlasmaLogin.SettingsReset
import PlasmaLogin.SettingsSource
import PlasmaLogin.BlurScreens
import PlasmaLogin.GrantedLogins
import PlasmaLogin.LaunchEnvironment
