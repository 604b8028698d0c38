import Rtl8723du.Lib.HashChain
import Rtl8723du.Lib.Machine
import Rtl8723du.Recv.Frame

/-!
# The bridge extension (NAT2.5)

A station that is a port of a bridge sends the frames of the clients behind it under its own
address.  `rtw_br_client_tx` learns which client has which IP address, and `nat25_handle_frame`
gives a received frame the client's address back.  What is learnt is in a hash table of network
addresses; the client that sent last is also in a cache of one entry, `scdb_mac`, `scdb_ip` and
`scdb_entry`.

Modelled are IPv4 and ARP frames; the network addresses in the table are then all of type
`NAT25_IPV4`.  No entry ages out here, so that the ageing timers and use counts are left out,
as is the payload behind the headers, and with it `dhcp_flag_bcast`.  `nat25_disable` and
`nat25sc_disable` are set nowhere.
-/

namespace Rtl8723du.Bridge

open Lib.HashChain

/-! ### Frames -/

/-- An IPv4 address, in network order. -/
abbrev IpAddr := Vector UInt8 4

/-- An address from its bytes. -/
def IpAddr.ofBytes (a b c d : UInt8) : IpAddr := #v[a, b, c, d]

/-- The last byte of an address. -/
def IpAddr.last (ipAddr : IpAddr) : UInt8 := ipAddr[3]

/-- `0.0.0.0`. -/
abbrev zeroIp : IpAddr := Vector.replicate 4 0

/-- The address of six zeros. -/
abbrev zeroMac : MacAddr := Vector.replicate 6 0

/-- What is read of an IPv4 header, with the length of the frame that it is in. -/
structure IpHdr where
  saddr : IpAddr
  daddr : IpAddr
  ihl : ℕ
  /-- `skb->len`, without a VLAN tag. -/
  len : ℕ
deriving DecidableEq

/-- What is read of an ARP message. -/
structure ArpHdr where
  /-- `ar_pro` is `ETH_P_IP`. -/
  proIp : Bool
  senderMac : MacAddr
  /-- The four bytes after `ar_hln` bytes. -/
  senderIp : IpAddr
  targetMac : MacAddr
  targetIp : IpAddr
deriving DecidableEq

inductive Payload
  | ip (iph : IpHdr)
  | arp (arp : ArpHdr)
deriving DecidableEq

/-- An Ethernet frame. -/
structure EthFrame where
  da : MacAddr
  sa : MacAddr
  /-- It has an 802.1Q tag. -/
  vlan : Bool
  payload : Payload
deriving DecidableEq

/-- The header does not reach beyond the frame. -/
def IpHdr.WellFormed (iph : IpHdr) : Prop := 4 * iph.ihl < iph.len

instance (iph : IpHdr) : Decidable iph.WellFormed := by
  unfold IpHdr.WellFormed
  infer_instance

/-! ### The table -/

/-- `__nat25_generate_ipv4_network_addr`: the type, the address from byte 7 on, and zeros up to
`MAX_NETWORK_ADDR_LEN`. -/
def nat25GenerateIpv4NetworkAddr (ipAddr : IpAddr) : List UInt8 :=
  1 :: (List.replicate 6 0 ++ ipAddr.toList ++ List.replicate 6 0)

/-- `__nat25_network_hash` of an address of type `NAT25_IPV4`. -/
def nat25NetworkHash (networkAddr : List UInt8) : UInt8 :=
  (networkAddr.getD 7 0 ^^^ networkAddr.getD 8 0 ^^^ networkAddr.getD 9 0 ^^^
    networkAddr.getD 10 0) &&& 15

/-- The part of the adapter that the bridge extension has. -/
structure BrState where
  /-- `nethash`: MAC addresses by network address. -/
  nethash : Table UInt8 (List UInt8) MacAddr := empty
  scdbMac : MacAddr := zeroMac
  scdbIp : IpAddr := zeroIp
  /-- `scdb_entry`, as the network address of the entry that it points to. -/
  scdbEntry : Option (List UInt8) := none
  brMac : MacAddr := zeroMac
  brIp : IpAddr := zeroIp

/-- What does not change while frames are bridged. -/
structure BrConfig where
  /-- `GET_MY_HWADDR`. -/
  myHwaddr : MacAddr
  /-- The address of the bridge device, if `netdev_br_init` finds it. -/
  bridge : Option MacAddr

/-- The MAC address in the table. -/
def BrState.lookup (s : BrState) (ipAddr : IpAddr) : Option MacAddr :=
  find nat25NetworkHash s.nethash (nat25GenerateIpv4NetworkAddr ipAddr)

/-- `__nat25_db_network_insert`; `mallocOk` says that there is memory for an entry. -/
def nat25DbNetworkInsert (s : BrState) (mallocOk : Bool) (macAddr : MacAddr)
    (networkAddr : List UInt8) : BrState :=
  if (find nat25NetworkHash s.nethash networkAddr).isSome then
    { s with nethash := replace nat25NetworkHash s.nethash networkAddr macAddr }
  else if mallocOk then
    { s with nethash := link nat25NetworkHash s.nethash networkAddr macAddr }
  else s

/-- `netdev_br_init`, when `br_mac` is zero. -/
def netdevBrInit (cfg : BrConfig) (s : BrState) : BrState :=
  if s.brMac = zeroMac then { s with brMac := cfg.bridge.getD s.brMac } else s

/-- `scdb_findEntry`. -/
def scdbFindEntry (s : BrState) (ipAddr : IpAddr) : Option (List UInt8) :=
  if (s.lookup ipAddr).isSome then some (nat25GenerateIpv4NetworkAddr ipAddr) else none

/-! ### `nat25_db_handle` -/

inductive Nat25Method
  | check
  | insert
  | lookup
deriving DecidableEq

/-- The lookup of an IPv4 destination.  An unknown one is broadcast or goes to the bridge. -/
def nat25LookupIp (cfg : BrConfig) (s : BrState) (f : EthFrame) (daddr : IpAddr) :
    BrState × EthFrame :=
  match s.lookup daddr with
  | some macAddr => (s, { f with da := macAddr })
  | none =>
      if IpAddr.last daddr = 0xff then (s, { f with da := bcAddr })
      else (netdevBrInit cfg s, { f with da := (netdevBrInit cfg s).brMac })

/-- `nat25_db_handle`: the frame after it, and what it returns. -/
def nat25DbHandle (cfg : BrConfig) (mallocOk : Bool) (s : BrState) (f : EthFrame)
    (method : Nat25Method) : BrState × EthFrame × ℤ :=
  match f.payload with
  | .ip iph =>
      if ¬ iph.WellFormed then (s, f, -1)
      else
        match method with
        | .check => (s, f, -1)
        | .insert =>
            if iph.saddr = zeroIp then (s, f, 0)
            else
              (nat25DbNetworkInsert s mallocOk f.sa (nat25GenerateIpv4NetworkAddr iph.saddr),
                f, 0)
        | .lookup =>
            ((nat25LookupIp cfg s f iph.daddr).1, (nat25LookupIp cfg s f iph.daddr).2, 0)
  | .arp arp =>
      if arp.proIp = false then (s, f, -1)
      else
        match method with
        | .check => (s, f, 0)
        | .insert =>
            (nat25DbNetworkInsert s mallocOk f.sa (nat25GenerateIpv4NetworkAddr arp.senderIp),
              { f with payload := .arp { arp with senderMac := cfg.myHwaddr } }, 0)
        | .lookup =>
            let da := (s.lookup arp.targetIp).getD f.da
            (s, { f with da := da, payload := .arp { arp with targetMac := da } }, 0)

/-! ### `rtw_br_client_tx` -/

/-- What the kernel answers while a frame is sent. -/
structure TxEnv where
  /-- The interface is still the port of a bridge. -/
  brPort : Bool := true
  /-- `rtw_skb_copy` has memory. -/
  copyOk : Bool := true
  /-- `skb_linearize` succeeds. -/
  linearOk : Bool := true
  /-- `rtw_malloc` has memory for an entry. -/
  mallocOk : Bool := true

/-- A frame that is answered by the cache at once. -/
def fastPath (o : TxEnv) (s : BrState) (f : EthFrame) : Bool :=
  match f.payload with
  | .ip _ =>
      !isMcast f.da && o.brPort && f.sa != s.brMac && !f.vlan && s.scdbMac == f.sa &&
        s.scdbEntry.isSome
  | .arp _ => false

/-- `br_ip` follows the frames of the bridge itself. -/
def learnBrIp (s : BrState) (f : EthFrame) : BrState :=
  match f.payload with
  | .ip iph => if f.sa = s.brMac then { s with brIp := iph.saddr } else s
  | .arp _ => s

/-- The cache when a frame is sent, and whether the table is asked (`do_nat25`). -/
def scdbLearn (s : BrState) (f : EthFrame) : BrState × Bool :=
  match f.payload with
  | .ip iph =>
      if s.scdbMac ≠ f.sa then
        match scdbFindEntry s iph.saddr with
        | some entry =>
            ({ s with scdbMac := f.sa, scdbIp := iph.saddr, scdbEntry := some entry }, false)
        | none => ({ s with scdbEntry := none }, true)
      else if s.scdbEntry.isSome then (s, false)
      else ({ s with scdbMac := zeroMac, scdbIp := zeroIp }, true)
  | .arp _ => (s, true)

/-- The frame is entered in the table. -/
def nat25Learn (cfg : BrConfig) (o : TxEnv) (s : BrState) (f : EthFrame) :
    BrState × Option EthFrame :=
  if (nat25DbHandle cfg o.mallocOk s f .check).2.2 = 0 ∧ o.copyOk = false then (s, none)
  else if o.linearOk = false then (s, none)
  else
    let r := nat25DbHandle cfg o.mallocOk s f .insert
    -- a frame that is not entered goes out as it is, without its tag
    if r.2.2 < 0 then (r.1, some { r.2.1 with vlan := false })
    else (r.1, some { r.2.1 with sa := cfg.myHwaddr })

/-- `rtw_br_client_tx`: the frame that goes out, or none if it is dropped. -/
def rtwBrClientTx (cfg : BrConfig) (o : TxEnv) (s : BrState) (f : EthFrame) :
    BrState × Option EthFrame :=
  if fastPath o s f then (s, some { f with sa := cfg.myHwaddr })
  else
    let r := scdbLearn (learnBrIp s f) f
    if r.2 = false then (r.1, some { f with sa := cfg.myHwaddr })
    else nat25Learn cfg o r.1 f

/-! ### `nat25_handle_frame` -/

/-- The frame is answered by the cache. -/
def scdbHit (s : BrState) (f : EthFrame) : Bool :=
  match f.payload with
  | .ip iph => s.scdbIp == iph.daddr
  | .arp _ => false

/-- `nat25_handle_frame`. -/
def nat25HandleFrame (cfg : BrConfig) (s : BrState) (f : EthFrame) : BrState × EthFrame × ℤ :=
  if isMcast f.da then (s, f, 0)
  else if scdbHit s f then (s, { f with da := s.scdbMac }, 0)
  else nat25DbHandle cfg true s f .lookup

end Rtl8723du.Bridge
