import Rtl8723du.Ap.ApStep
import Rtl8723du.Ap.FramePool
import Rtl8723du.Ap.ServicePeriod
import Rtl8723du.Ap.Sleep
import Rtl8723du.Ap.SleepqCount
import Rtl8723du.Ap.StaInvariant
import Rtl8723du.Ap.Station
import Rtl8723du.Ap.TimIe
import Rtl8723du.Ap.TxOrder
import Rtl8723du.Ap.TxQueues
import Rtl8723du.Ap.Xmit
import Rtl8723du.Assoc.OnAssocReq
import Rtl8723du.Assoc.Rsn
import Rtl8723du.Assoc.Security
import Rtl8723du.Ba.Action
import Rtl8723du.Ba.Agreement
import Rtl8723du.Ba.Response
import Rtl8723du.Bridge.Bounds
import Rtl8723du.Bridge.Checksum
import Rtl8723du.Bridge.ClientTx
import Rtl8723du.Bridge.DbHandle
import Rtl8723du.Bridge.Nat25
import Rtl8723du.Bridge.Nat25Db
import Rtl8723du.Bridge.Neighbour
import Rtl8723du.Bridge.PppoeRelay
import Rtl8723du.Bridge.Resolve
import Rtl8723du.Bt.Channels
import Rtl8723du.Bt.Coex
import Rtl8723du.Bt.Config
import Rtl8723du.Bt.Deferred
import Rtl8723du.Bt.Download
import Rtl8723du.Bt.ExtraConfig
import Rtl8723du.Bt.Firmware
import Rtl8723du.Bt.HciEvent
import Rtl8723du.Bt.MergeConfigs
import Rtl8723du.Bt.Refcount
import Rtl8723du.Bt.RefcountRun
import Rtl8723du.Bt.StaleEvent
import Rtl8723du.Cam.CamRun
import Rtl8723du.Cam.CamSwap
import Rtl8723du.Cam.Camid
import Rtl8723du.Cmd.CmdRun
import Rtl8723du.Crypto.Arc4
import Rtl8723du.Crypto.Decryptor
import Rtl8723du.Crypto.AesCcm
import Rtl8723du.Crypto.AesGcm
import Rtl8723du.Crypto.Integrity
import Rtl8723du.Crypto.SwProtect
import Rtl8723du.Crypto.TkipMix
import Rtl8723du.Efuse.Analyze
import Rtl8723du.Efuse.Append
import Rtl8723du.Efuse.BtBanks
import Rtl8723du.Efuse.ConfigFile
import Rtl8723du.Efuse.Fault
import Rtl8723du.Efuse.FaultFree
import Rtl8723du.Efuse.FileStore
import Rtl8723du.Efuse.MapWrite
import Rtl8723du.Efuse.PacketRead
import Rtl8723du.Efuse.Protected
import Rtl8723du.Efuse.Read
import Rtl8723du.Efuse.Scan
import Rtl8723du.Efuse.Write
import Rtl8723du.Elems.BeaconVendor
import Rtl8723du.Elems.DelP2p
import Rtl8723du.Elems.GetIe
import Rtl8723du.Elems.IesEdit
import Rtl8723du.Elems.P2pMerge
import Rtl8723du.Elems.ParseElems
import Rtl8723du.Elems.Rsne
import Rtl8723du.Elems.WpaIe
import Rtl8723du.Ie.Attr
import Rtl8723du.Ie.BcnEdit
import Rtl8723du.Ie.BcnIe
import Rtl8723du.Ie.Bss
import Rtl8723du.Ie.RateIe
import Rtl8723du.Ie.SupportedRates
import Rtl8723du.Lib.BitPoly
import Rtl8723du.Lib.Branches
import Rtl8723du.Lib.Bytes
import Rtl8723du.Lib.Census
import Rtl8723du.Lib.Cipher
import Rtl8723du.Lib.Elements
import Rtl8723du.Lib.Footprint
import Rtl8723du.Lib.HashChain
import Rtl8723du.Lib.Hlist
import Rtl8723du.Lib.Links
import Rtl8723du.Lib.ListHead
import Rtl8723du.Lib.Loop
import Rtl8723du.Lib.Machine
import Rtl8723du.Lib.Monitor
import Rtl8723du.Lib.Memory
import Rtl8723du.Lib.OnesComplement
import Rtl8723du.Lib.Pick
import Rtl8723du.Lib.Reassembly
import Rtl8723du.Lib.Replay
import Rtl8723du.Lib.Resequencer
import Rtl8723du.Lib.Search
import Rtl8723du.Lib.Serial
import Rtl8723du.Lib.Simulation
import Rtl8723du.Lib.Spelling
import Rtl8723du.Lib.Strsep
import Rtl8723du.Lib.Tlv
import Rtl8723du.Lib.Walk
import Rtl8723du.Mgmt.Bip
import Rtl8723du.Mgmt.BipRoundTrip
import Rtl8723du.Mgmt.Decrypt
import Rtl8723du.Mgmt.Frame
import Rtl8723du.Mgmt.Protect
import Rtl8723du.Mlme.BeaconInfo
import Rtl8723du.Mlme.Handlers
import Rtl8723du.Mlme.JoinHandlers
import Rtl8723du.Mlme.OnAssocRsp
import Rtl8723du.Osdep.Cbuf
import Rtl8723du.Osdep.RegMap
import Rtl8723du.Osdep.TextFile
import Rtl8723du.Phydm.ParaTable
import Rtl8723du.Recv.Amsdu
import Rtl8723du.Recv.Bulkin
import Rtl8723du.Recv.Decache
import Rtl8723du.Recv.Defrag
import Rtl8723du.Recv.DefragQueue
import Rtl8723du.Recv.Frame
import Rtl8723du.Recv.Michael
import Rtl8723du.Recv.Pn
import Rtl8723du.Recv.Reorder
import Rtl8723du.Recv.ReorderBar
import Rtl8723du.Recv.ReorderRefine
import Rtl8723du.Recv.ReorderSafety
import Rtl8723du.Recv.ReorderTimer
import Rtl8723du.Recv.Session
import Rtl8723du.Scan.AbsorbSsid
import Rtl8723du.Scan.Entry
import Rtl8723du.Scan.ScanQueue
import Rtl8723du.Sta.Acl
import Rtl8723du.Sta.Aid
import Rtl8723du.Sta.ApRun
import Rtl8723du.Sta.AuthAccess
import Rtl8723du.Sta.AuthStep
import Rtl8723du.Sta.BeaconRun
import Rtl8723du.Sta.BeaconStep
import Rtl8723du.Sta.BssCap
import Rtl8723du.Sta.CapStep
import Rtl8723du.Sta.Counters
import Rtl8723du.Sta.Flags
import Rtl8723du.Sta.Intolerant
import Rtl8723du.Sta.Macid
import Rtl8723du.Sta.MfpAuth
import Rtl8723du.Sta.MsrReport
import Rtl8723du.Sta.OnAuth
import Rtl8723du.Sta.SharedKey
import Rtl8723du.Sta.Table
import Rtl8723du.Sta.TableInv
import Rtl8723du.Sta.TableRun
import Rtl8723du.Survey.ScanChannels
import Rtl8723du.Survey.SiteSurvey
import Rtl8723du.Survey.Abort
import Rtl8723du.Survey.Visits
import Rtl8723du.Txpwr.Target
import Rtl8723du.Xmit.Aggregate
import Rtl8723du.Xmit.Coalesce
import Rtl8723du.Xmit.Fragments
import Rtl8723du.Xmit.Reassembly
import Rtl8723du.Xmit.Tkip
import Rtl8723du.Xmit.Walkers
