import HelbreathBackend.Domain
import HelbreathBackend.Application
import HelbreathBackend.Lib.FiniteMap
import HelbreathBackend.Lib.Transition
import HelbreathBackend.Lib.Framing
import HelbreathBackend.Frame
import HelbreathBackend.Lib.EscapeRuns
import HelbreathBackend.Wire
import HelbreathBackend.WireStream
import HelbreathBackend.World
import HelbreathBackend.Counters
import HelbreathBackend.MapServer
import HelbreathBackend.MapInput
import HelbreathBackend.MapCombat
import HelbreathBackend.MapRun
import HelbreathBackend.MapOverflow
import HelbreathBackend.MapOrder
import HelbreathBackend.MapDeterminism
import HelbreathBackend.MapRuntimes
import HelbreathBackend.Whereabouts
import HelbreathBackend.MapManager
import HelbreathBackend.Registration
import HelbreathBackend.Teardown
import HelbreathBackend.Translate
import HelbreathBackend.Gateway
import HelbreathBackend.Grants
import HelbreathBackend.Routing
import HelbreathBackend.GatewaySystem
import HelbreathBackend.GatewayTrace
import HelbreathBackend.GatewaySteps
import HelbreathBackend.RouterRun
import HelbreathBackend.Authorisation
import HelbreathBackend.PhaseAgreement
import HelbreathBackend.GatewayAndWorld
import HelbreathBackend.Departure
import HelbreathBackend.Infrastructure
import HelbreathBackend.CharacterSlots
import HelbreathBackend.SessionBinding
import HelbreathBackend.SessionValidity
import HelbreathBackend.AdminPortal
import HelbreathBackend.AdminRepository
import HelbreathBackend.AdminHandlers
import HelbreathBackend.AdminLogin
import HelbreathBackend.AdminAudit
import HelbreathBackend.MapControl
import HelbreathBackend.AuthService
import HelbreathBackend.Bans
import HelbreathBackend.AuthHandlers
import HelbreathBackend.EarlyRemoval
import HelbreathBackend.Cleanup
import HelbreathBackend.GatewayAndAuth
import HelbreathBackend.ClosingRace
import HelbreathBackend.WorldPosts
import HelbreathBackend.DeletedCharacters
import HelbreathBackend.ConnectionCounts
import HelbreathBackend.SessionGrammar
import HelbreathBackend.WireFormat
import HelbreathBackend.Delivery
import HelbreathBackend.ActingCharacter
import HelbreathBackend.MapIsolation
import HelbreathBackend.MapResources
import HelbreathBackend.AdminTokens
import HelbreathBackend.Lib.Window
import HelbreathBackend.OutboundFeed
import HelbreathBackend.WireGrammar
import HelbreathBackend.WireHeader
import HelbreathBackend.Lib.Panics
import HelbreathBackend.CleanText
import HelbreathBackend.ServerTranslate
import HelbreathBackend.TranslateSafety
import HelbreathBackend.ClientFrames
import HelbreathBackend.LoginPaths
import HelbreathBackend.UuidTexts
import HelbreathBackend.RateLimiter
import HelbreathBackend.LoginThrottle
import HelbreathBackend.MapTimers
import HelbreathBackend.MapMovement
import HelbreathBackend.MapGauge
import HelbreathBackend.MapDefeats
import HelbreathBackend.CharacterCreation
import HelbreathBackend.LoginRejections
import HelbreathBackend.Lib.Progress
import HelbreathBackend.ChatService
import HelbreathBackend.Persistence
import HelbreathBackend.SaveFeed
import HelbreathBackend.CharacterOwners
import HelbreathBackend.CommandOrder
import HelbreathBackend.GatewayAndMaps
import HelbreathBackend.GatewayProgress
import HelbreathBackend.Lib.Script
import HelbreathBackend.AdminScripts
import HelbreathBackend.AdminAuthority
import HelbreathBackend.Lib.ExpiringCounter
import HelbreathBackend.DistributedLimit
import HelbreathBackend.SessionStream
import HelbreathBackend.Captures
