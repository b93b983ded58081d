import MobileBimanual.Stream.DeadMan
import MobileBimanual.Stream.LeadWindow
import MobileBimanual.Stream.Conservation
import MobileBimanual.Stream.Schedule
import MobileBimanual.Firmware.ArmRefusal
import MobileBimanual.Firmware.BatchReply
import MobileBimanual.Firmware.StopRun
import MobileBimanual.Stream.ShiftRun
import MobileBimanual.Mobile.FeedbackSound
import MobileBimanual.Firmware.SafetyRun
import MobileBimanual.Mobile.StopReach
import MobileBimanual.Adapter.FailClosed
import MobileBimanual.Adapter.FeedConservation
import MobileBimanual.Adapter.FeedCounts
import MobileBimanual.Adapter.Refusals
import MobileBimanual.Mobile.StatusReplies
import MobileBimanual.Firmware.HostUartTx
import MobileBimanual.Mobile.BootIdentity
import MobileBimanual.Mobile.LiftLease
import MobileBimanual.Tasks.HandoffSafety
import MobileBimanual.Tasks.LeaseSafety
import MobileBimanual.Tasks.RequestIdentity
import MobileBimanual.Tasks.PayloadLatch
import MobileBimanual.Mobile.LiftHeight
import MobileBimanual.Stream.Splice
import MobileBimanual.Tasks.BaseVelocity
import MobileBimanual.Tasks.FurnitureConsistency
import MobileBimanual.Tasks.FusionSafety
import MobileBimanual.Tasks.ObjectCustody
import MobileBimanual.Tasks.RobotEvidence
import MobileBimanual.Tasks.ScanEvidence
import MobileBimanual.Firmware.HostBytes
import MobileBimanual.Firmware.PairedDispatch
import MobileBimanual.Mobile.EndpointSync
import MobileBimanual.Wire.BurstErrors
import MobileBimanual.Wire.HostReader
import MobileBimanual.Mobile.HostClock
import MobileBimanual.Mobile.VelocityExpiry
import MobileBimanual.Adapter.SpliceMirror
import MobileBimanual.Transport.Leases
import MobileBimanual.Buffered.OutputSpacing
import MobileBimanual.Mobile.ArmHold
import MobileBimanual.Mobile.OutputPhase
import MobileBimanual.Mobile.StartupEpisodes
import MobileBimanual.Servo.OperationalLimits
import MobileBimanual.Servo.RxWindow
import MobileBimanual.Servo.TaughtPose
import MobileBimanual.Tasks.PhaseEvidence
import MobileBimanual.Tasks.SearchBounds
import MobileBimanual.Lib.Quintic
import MobileBimanual.Tasks.ArmRoute
import MobileBimanual.Tasks.RouteSafety
