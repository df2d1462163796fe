import Rtl8821ce.Recv.PoolRun
import Rtl8821ce.Recv.ReorderTimer
import Rtl8821ce.Ap.AidAllocation
import Rtl8821ce.Xmit.TxPacketNumber
import Rtl8821ce.Recv.UncheckedFrames
import Rtl8821ce.Recv.GroupReplay
import Rtl8821ce.Hal.DumpXframe
import Rtl8821ce.Recv.FragmentRoundTrip
import Rtl8821ce.Mesh.AirtimeMetric
import Rtl8821ce.Mesh.GateTable
import Rtl8821ce.Mesh.ReceivedCache
import Rtl8821ce.Ap.MacidAllocation
import Rtl8821ce.Security.CamOwnership
import Rtl8821ce.Ap.SleepCounters
import Rtl8821ce.Ap.TimBitmap
import Rtl8821ce.Ap.BeaconElements
import Rtl8821ce.P2p.CheckFramesSafe
import Rtl8821ce.Hal.C2hInside
import Rtl8821ce.Cmd.HandOver
import Rtl8821ce.Sta.TablePartition
import Rtl8821ce.P2p.GoNegoAgree
import Rtl8821ce.Recv.DuplicateFilter
import Rtl8821ce.Recv.AmsduSubframes
import Rtl8821ce.Recv.FrameBuffer
import Rtl8821ce.Efuse.LogWrite
import Rtl8821ce.Efuse.ParserAccess
import Rtl8821ce.Security.CamRelocation
import Rtl8821ce.Ieee80211.P2pMerge
import Rtl8821ce.Ieee80211.ParseElems
import Rtl8821ce.Ieee80211.ParseWpaIe
import Rtl8821ce.Hal.ParamBatchRun
import Rtl8821ce.Mlme.ScanQueueRun
import Rtl8821ce.Recv.MgmtProtect
import Rtl8821ce.Ap.BeaconTim
import Rtl8821ce.P2p.DeleteAttributes
import Rtl8821ce.Mesh.AddressDelivery
import Rtl8821ce.Recv.Rc4RoundTrip
import Rtl8821ce.Recv.AesInside
import Rtl8821ce.Br.DhcpBroadcast
import Rtl8821ce.Hal.FirmwareImage
import Rtl8821ce.Hal.FifoDumpExact
import Rtl8821ce.Hal.H2cQueueRun
import Rtl8821ce.Hal.ScanListRun
import Rtl8821ce.Hal.MccTimingExact
import Rtl8821ce.Br.AddressTableRun
import Rtl8821ce.Ap.AccessControl
import Rtl8821ce.OsDep.PointerRing
import Rtl8821ce.OsDep.SegmentMap
import Rtl8821ce.OsDep.Blacklist
import Rtl8821ce.Efuse.BtWriteBack
import Rtl8821ce.Br.PppoeRelay
import Rtl8821ce.Mesh.AmpeSync
import Rtl8821ce.Recv.MichaelRoundTrip
