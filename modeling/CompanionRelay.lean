import CompanionRelay.Machine
import CompanionRelay.Script
import CompanionRelay.Base64
import CompanionRelay.Wire
import CompanionRelay.Encoding
import CompanionRelay.State
import CompanionRelay.Room
import CompanionRelay.Host
import CompanionRelay.Footprint
import CompanionRelay.Turns
import CompanionRelay.Wiring
import CompanionRelay.WipeBarrier
import CompanionRelay.VerifierOnce
import CompanionRelay.Admission
import CompanionRelay.Closing
import CompanionRelay.PairingBudget
import CompanionRelay.Housekeeping
import CompanionRelay.WakeGuarantee
import CompanionRelay.Reclaim
import CompanionRelay.Framing
import CompanionRelay.Transcripts
import CompanionRelay.Ordered
import CompanionRelay.ShardMap
import CompanionRelay.OneOwner
import CompanionRelay.ShardMapStore
import CompanionRelay.DrainScheduler
import CompanionRelay.Reshard
import CompanionRelay.Alerts
import CompanionRelay.RefusedJoin
import CompanionRelay.FixedWindow
import CompanionRelay.ProofFlood
import CompanionRelay.OneTime
import CompanionRelay.SingleUse
import CompanionRelay.SlotExclusivity
import CompanionRelay.Fifo
import CompanionRelay.Splice
import CompanionRelay.SoleProof
import CompanionRelay.History
import CompanionRelay.Provenance
import CompanionRelay.BigEndian
import CompanionRelay.Der
import CompanionRelay.Signature
import CompanionRelay.Reading
import CompanionRelay.Utf8
import CompanionRelay.Cbor
import CompanionRelay.CborGrammar
import CompanionRelay.CborStrict
import CompanionRelay.CborRoundTrip
import CompanionRelay.NonceExtension
import CompanionRelay.Attestation
import CompanionRelay.PreAuth
import CompanionRelay.RefusedCall
import CompanionRelay.NullInput
import CompanionRelay.WriteBehind
import CompanionRelay.Quota
import CompanionRelay.ByteQuota
import CompanionRelay.AlarmSpec
import CompanionRelay.TokenBucket
import CompanionRelay.DrainPace
import CompanionRelay.DrainEpisodes
import CompanionRelay.DrainProgress
import CompanionRelay.Limiter
import CompanionRelay.ClientIp
import CompanionRelay.SqlLike
import CompanionRelay.RoomStorage
import CompanionRelay.AlarmTimer
import CompanionRelay.MonitorChecks
import CompanionRelay.MonitorMap
import CompanionRelay.MonitorRun
import CompanionRelay.MonitorAgreement
import CompanionRelay.Debounce
import CompanionRelay.MonitorDebounce
import CompanionRelay.MonitorHours
import CompanionRelay.Adjacent
import CompanionRelay.Dashboard
import CompanionRelay.Residency
import CompanionRelay.IdleTtl
import CompanionRelay.ProbeRooms
import CompanionRelay.Quantile
import CompanionRelay.Latency
import CompanionRelay.Exposition
import CompanionRelay.ExpositionParse
import CompanionRelay.ExpositionSeries
import CompanionRelay.ExpositionAgreement
import CompanionRelay.FileStore
import CompanionRelay.Departures
import CompanionRelay.HalfOpen
import CompanionRelay.Inert
import CompanionRelay.Conversation
import CompanionRelay.Simulation
import CompanionRelay.Rendezvous
import CompanionRelay.Counters
import CompanionRelay.Gateway
import CompanionRelay.Tally
import CompanionRelay.Accounts
import CompanionRelay.Keepalive
import CompanionRelay.ShardFetch
import CompanionRelay.Process
import CompanionRelay.Visit
import CompanionRelay.Assertion
import CompanionRelay.Odometer
import CompanionRelay.Collector
import CompanionRelay.Scrapes
import CompanionRelay.Handover
import CompanionRelay.Watcher
import CompanionRelay.Lockstep
import CompanionRelay.StorageCalls
import CompanionRelay.ClientInput
