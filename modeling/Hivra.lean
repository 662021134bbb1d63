import Hivra.Core.PayloadCodecs
import Hivra.Core.SlotLocks
import Hivra.Ffi.IngressTerminals
import Hivra.Core.History
import Hivra.Ffi.ChatHandoff
import Hivra.Ffi.SenderRate
import Hivra.Ffi.QuarantineAtomic
import Hivra.Ffi.SenderRevoke
import Hivra.Ffi.LegacyAnchor
import Hivra.Ffi.EventTime
import Hivra.Ffi.AcceptAtomic
import Hivra.Ffi.Redelivery
import Hivra.Host.BurnRule
import Hivra.Host.LocalBreak
import Hivra.Core.HeadBinding
import Hivra.Ffi.BreakRetry
import Hivra.Ffi.MirroredAcceptance
import Hivra.Host.StateCustody
import Hivra.Transport.ReceiveHandoff
import Hivra.Transport.ReceiveCursor
import Hivra.Host.ChatKept
import Hivra.Host.ReceiveCoalescer
import Hivra.Host.IndexRuns
import Hivra.Host.SecretScopes
import Hivra.Host.GrantedEffects
import Hivra.Host.InferenceRuns
import Hivra.Host.RuntimeBootstrap
import Hivra.Host.OutboxLosses
import Hivra.Host.HivraIdFormat
import Hivra.Host.SourceInstall
import Hivra.Host.HandoffReplay
import Hivra.Host.RunnerDispatch
import Hivra.Core.VerifierLoops
import Hivra.Host.ConsensusVerify
import Hivra.Host.TimelineRetention
import Hivra.Host.RestoreAtomic
import Hivra.Ffi.RuntimeHistory
import Hivra.Ffi.TransportReceive
