import SingBox.MatchState
import SingBox.RuleItem
import SingBox.Rule
import SingBox.RuleDNS
import SingBox.RuleInvert
import SingBox.RuleMerge
import SingBox.RuleLegacy
import SingBox.BitBlock
import SingBox.FakeIPAddr
import SingBox.FakeIPStore
import SingBox.FakeIPInvariant
import SingBox.Uvarint
import SingBox.GunConn
import SingBox.Sniff
import SingBox.QUICSniff
import SingBox.BigEndian
import SingBox.SRSIP
import SingBox.DNSMessage
import SingBox.DNSClient
import SingBox.LockStep
import SingBox.DNSRouter
import SingBox.DNSCache
import SingBox.BadVersion
import SingBox.URLTest
import SingBox.RuleSetCompile
import SingBox.RuleFrame
import SingBox.ByteStream
import SingBox.Geosite
import SingBox.TLSIndex
import SingBox.TLSFragment
import SingBox.AdGuard
import SingBox.AdGuardRule
import SingBox.DependencyOrder
import SingBox.OutboundManager
import SingBox.OutboundStart
import SingBox.RuleOrder
import SingBox.RuleMonotone
import SingBox.OutboundChange
import SingBox.ServiceUsage
import SingBox.CacheFileDNS
import SingBox.OnesComplement
import SingBox.TLSSpoofPacket
import SingBox.TLSSpoofLayout
import SingBox.TLSSpoofChecksum
import SingBox.ConnPool
import SingBox.ConnPoolTracking
import SingBox.ConnPoolSafety
import SingBox.DNSRouterRules
import SingBox.DNSRouterModes
import SingBox.DNSRouterCache
import SingBox.DNSTransportManager
import SingBox.PartialInverse
import SingBox.DNSTransportUDP
import SingBox.RouteMatch
import SingBox.RouteReject
import SingBox.IndexedFold
import SingBox.DNSRuleMode
import SingBox.RuleSetRead
