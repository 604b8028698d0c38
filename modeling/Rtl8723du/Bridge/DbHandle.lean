import Rtl8723du.Bridge.Neighbour
import Rtl8723du.Lib.OnesComplement

/-!
# `nat25_db_handle` on the bytes of a frame

The bridge extension reads and rewrites the frames of the clients in place.  Here a frame is the
part `[data, data + len)` of a memory, so that what stands behind it has bytes as well; each
function also hands out the fields, tags and addresses that it accesses, with the length the frame
has then.  The number that selects the protocol and the bytes that a checksum runs over are not
among them.

This is the build for kernels from 5.15 on, without IPX and AppleTalk, on a little-endian CPU.  Of
the network database only its answers count; its chains are in `Bridge/Nat25Db`.
-/

namespace Rtl8723du.BrExt

open Lib Lib.Memory Lib.OnesComplement

/-! ### Frames in memory -/

/-- `struct sk_buff`. -/
structure Skb where
  /-- The bytes of the buffer, and those around it. -/
  mem : Mem
  data : ℕ
  len : ℕ
  tailroom : ℕ

namespace Skb

/-- A byte of the frame. -/
def get (b : Skb) (i : ℕ) : UInt8 := b.mem (b.data + i)

/-- A 16-bit field, through `ntohs`. -/
def be (b : Skb) (i : ℕ) : ℕ := be16 b.mem (b.data + i)

/-- Some bytes of the frame. -/
def rd (b : Skb) (i n : ℕ) : List UInt8 := readBytes b.mem (b.data + i) n

/-- Some bytes of the frame are overwritten. -/
def wr (b : Skb) (i : ℕ) (bs : List UInt8) : Skb := { b with mem := write b.mem (b.data + i) bs }

/-- An address in the frame. -/
def mac (b : Skb) (i : ℕ) : MacAddr := Vector.ofFn fun k => b.get (i + k)

/-- `skb_put`. -/
def put (b : Skb) (n : ℕ) : Skb := { b with len := b.len + n, tailroom := b.tailroom - n }

/-- The frame as a string. -/
def bytes (b : Skb) : List UInt8 := b.rd 0 b.len

end Skb

/-- `htons`. -/
def beBytes (n : ℕ) : List UInt8 := [UInt8.ofNat (n / 256), UInt8.ofNat n]

/-- A 16-bit number as it lies in memory. -/
def leBytes16 (n : ℕ) : List UInt8 := [UInt8.ofNat n, UInt8.ofNat (n / 256)]

/-- `n` bytes from `off` on are accessed while the frame has `len` bytes. -/
structure Access where
  off : ℕ
  n : ℕ
  len : ℕ
deriving DecidableEq, Repr

/-- The access lies inside the frame. -/
def Access.Inside (a : Access) : Prop := a.off + a.n ≤ a.len

instance (a : Access) : Decidable a.Inside := inferInstanceAs (Decidable (_ ≤ _))

/-- An access to the frame as it is. -/
def Skb.acc (b : Skb) (off n : ℕ) : Access := ⟨off, n, b.len⟩

/-! ### The adapter -/

/-- The part of the adapter that the bridge extension has. -/
structure Priv where
  /-- `GET_MY_HWADDR`. -/
  hwaddr : MacAddr
  brMac : MacAddr
  /-- The address of the bridge device, if `netdev_br_init` finds it. -/
  bridge : Option MacAddr
  brIp : List UInt8
  /-- `nethash`: addresses by network address. -/
  nethash : List UInt8 → Option MacAddr
  scdbMac : MacAddr
  scdbIp : List UInt8
  /-- `scdb_entry`, as the network address of the entry that it points to. -/
  scdbEntry : Option (List UInt8)
  addPppoeTag : Bool
  dhcpBcstDisable : Bool
  pppoeConnectionInProgress : ℕ
  pppoeAddr : MacAddr

/-- An adapter that has bridged nothing yet. -/
def freshPriv (hwaddr : MacAddr) : Priv where
  hwaddr := hwaddr
  brMac := Vector.replicate 6 0
  bridge := none
  brIp := List.replicate 4 0
  nethash := fun _ => none
  scdbMac := Vector.replicate 6 0
  scdbIp := List.replicate 4 0
  scdbEntry := none
  addPppoeTag := true
  dhcpBcstDisable := false
  pppoeConnectionInProgress := 0
  pppoeAddr := Vector.replicate 6 0

/-- What a call of `nat25_db_handle` depends on besides the frame. -/
structure Env where
  /-- `rtw_malloc` has memory for an entry. -/
  mallocOk : Bool
  /-- The entry of a network address has expired. -/
  expired : List UInt8 → Bool
  /-- The stack from `tag_buf` on, before that is filled in. -/
  stack : Mem
  /-- A bound for the passes of `scan_tlv`. -/
  fuel : ℕ

inductive Method
  | check
  | insert
  | lookup
deriving DecidableEq, Repr

/-- What `nat25_db_handle` leaves; `ret` is missing if `scan_tlv` needs more passes. -/
structure Handled where
  priv : Priv
  skb : Skb
  ret : Option ℤ
  acc : List Access

/-- `__nat25_generate_ipv4_network_addr`. -/
def nat25GenerateIpv4NetworkAddr (ipAddr : List UInt8) : List UInt8 :=
  1 :: (List.replicate 6 0 ++ ipAddr ++ List.replicate 6 0)

/-- `__nat25_generate_ipv6_network_addr`. -/
def nat25GenerateIpv6NetworkAddr (ipAddr : List UInt8) : List UInt8 := 2 :: ipAddr

/-- `__nat25_generate_pppoe_network_addr`. -/
def nat25GeneratePppoeNetworkAddr (acMac sid : List UInt8) : List UInt8 :=
  5 :: (sid ++ acMac ++ List.replicate 8 0)

/-- `__nat25_db_network_insert`. -/
def nat25DbNetworkInsert (e : Env) (p : Priv) (macAddr : MacAddr) (networkAddr : List UInt8) :
    Priv :=
  if (p.nethash networkAddr).isSome ∨ e.mallocOk = true then
    { p with nethash := fun a => if a = networkAddr then some macAddr else p.nethash a }
  else p

/-- `__nat25_db_network_lookup_and_replace`; an entry that has expired is found but not used. -/
def nat25DbNetworkLookupAndReplace (e : Env) (p : Priv) (b : Skb) (networkAddr : List UInt8) :
    Skb × List Access × Bool :=
  match p.nethash networkAddr with
  | none => (b, [], false)
  | some macAddr =>
      if e.expired networkAddr then (b, [], true)
      else (b.wr 0 macAddr.toList, [b.acc 0 6], true)

/-- `netdev_br_init`, when `br_mac` is zero. -/
def netdevBrInit (p : Priv) : Priv :=
  if p.brMac = Vector.replicate 6 0 then
    { p with brMac := p.bridge.getD p.brMac, addPppoeTag := true }
  else p

/-! ### IPv4 and ARP -/

/-- `nat25_db_handle` for `ETH_P_IP`. -/
def handleIp (e : Env) (p : Priv) (b : Skb) (method : Method) : Handled :=
  let ihl := (b.get 14 &&& 0x0f).toNat
  if b.len ≤ 4 * ihl then ⟨p, b, some (-1), [b.acc 14 1]⟩
  else
    match method with
    | .check => ⟨p, b, some (-1), [b.acc 14 1]⟩
    | .insert =>
        if b.rd 26 4 = List.replicate 4 0 then ⟨p, b, some 0, [b.acc 14 1, b.acc 26 4]⟩
        else
          ⟨nat25DbNetworkInsert e p (b.mac 6) (nat25GenerateIpv4NetworkAddr (b.rd 26 4)), b, some 0,
            [b.acc 14 1, b.acc 26 4, b.acc 6 6]⟩
    | .lookup =>
        let r := nat25DbNetworkLookupAndReplace e p b (nat25GenerateIpv4NetworkAddr (b.rd 30 4))
        let acc := [b.acc 14 1, b.acc 30 4] ++ r.2.1
        if r.2.2 = true then ⟨p, r.1, some 0, acc⟩
        else if b.get 33 = 0xff then
          ⟨p, b.wr 0 (List.replicate 6 0xff), some 0, acc ++ [b.acc 33 1, b.acc 0 6]⟩
        else
          let p := netdevBrInit p
          ⟨p, b.wr 0 p.brMac.toList, some 0, acc ++ [b.acc 33 1, b.acc 0 6]⟩

/-- `nat25_db_handle` for `ETH_P_ARP`; the hardware addresses have the length `ar_hln`. -/
def handleArp (e : Env) (p : Priv) (b : Skb) (method : Method) : Handled :=
  let hln := (b.get 18).toNat
  let pln := (b.get 19).toNat
  if b.be 16 ≠ 0x0800 then ⟨p, b, some (-1), [b.acc 16 2]⟩
  else
    match method with
    | .check => ⟨p, b, some 0, [b.acc 16 2]⟩
    | .insert =>
        let b' := b.wr 22 p.hwaddr.toList
        let networkAddr := nat25GenerateIpv4NetworkAddr (b'.rd (22 + hln) 4)
        ⟨nat25DbNetworkInsert e p (b'.mac 6) networkAddr, b', some 0,
          [b.acc 16 2, b.acc 22 6, b.acc 18 1, b.acc (22 + hln) 4, b.acc 6 6]⟩
    | .lookup =>
        let networkAddr := nat25GenerateIpv4NetworkAddr (b.rd (22 + hln + (hln + pln)) 4)
        let r := nat25DbNetworkLookupAndReplace e p b networkAddr
        ⟨p, r.1.wr (22 + (hln + pln)) (r.1.rd 0 6), some 0,
          [b.acc 16 2, b.acc 18 1, b.acc 19 1, b.acc (22 + hln + (hln + pln)) 4] ++ r.2.1 ++
            [b.acc 0 6, b.acc (22 + (hln + pln)) 6]⟩

/-! ### PPPoE -/

/-- `PTT_RELAY_SID`. -/
abbrev pttRelaySid : ℕ := 0x0110

/-- `MAGIC_CODE`. -/
abbrev magicCode : ℕ := 0x8186

/-- The loop of `__nat25_find_pppoe_tag`: the tags begin at 20, and `c` counts from there. -/
def findTagFrom (b : Skb) (type : ℕ) : ℕ → ℕ → Option ℕ × List Access
  | 0, _ => (none, [])
  | k + 1, c =>
      if c < b.be 18 then
        let acc := [b.acc 18 2, b.acc (20 + c) 2, b.acc (20 + c + 2) 2]
        if b.be (20 + c) = type then (some (20 + c), acc)
        else
          let r := findTagFrom b type k (c + (4 + b.be (20 + c + 2)))
          (r.1, acc ++ r.2)
      else (none, [b.acc 18 2])

/-- `__nat25_find_pppoe_tag`; each pass takes four bytes at least. -/
def nat25FindPppoeTag (b : Skb) (type : ℕ) : Option ℕ × List Access :=
  findTagFrom b type (b.be 18 + 1) 0

/-- `skb_pull_and_merge`. -/
def skbPullAndMerge (b : Skb) (src n : ℕ) : Option Skb :=
  if b.len < src + n ∨ b.len < n then none
  else
    some { b with
      mem := move b.mem (b.data + src) (b.data + (src + n)) (b.len - (src + n))
      len := b.len - n
      tailroom := b.tailroom + n }

/-- `__nat25_add_pppoe_tag`: the tag is in network order, and so is the `tag_len` that is added to
`TAG_HDR_LEN` here. -/
def nat25AddPppoeTag (b : Skb) (tag : Mem) : Option Skb × List Access :=
  let dataLen := (tag 2).toNat + 256 * (tag 3).toNat + 4
  if b.tailroom < dataLen then (none, [])
  else
    let b₁ := b.put dataLen
    let length := b₁.be 18
    let b₂ : Skb :=
      { b₁ with mem := move b₁.mem (b₁.data + (20 + dataLen)) (b₁.data + 20) length }
    let b₃ := b₂.wr 18 (beBytes (length + dataLen))
    (some (b₃.wr 20 (readBytes tag 0 dataLen)),
      [b₁.acc 18 2, b₁.acc 20 length, b₁.acc (20 + dataLen) length, b₁.acc 20 dataLen])

/-- The relay tag of the client is taken out; its data go to `tag_buf`. -/
def takeOldTag (b : Skb) (tagBuf : Mem) (old : Option ℕ) :
    Option (Skb × Mem × ℕ) × List Access :=
  match old with
  | none => (some (b, tagBuf, 0), [])
  | some t =>
      let oldTagLen := b.be (t + 2)
      if 40 < oldTagLen + 4 + 2 + 6 then (none, [b.acc (t + 2) 2])
      else
        let tagBuf := write tagBuf 12 (b.rd (t + 4) oldTagLen)
        let acc := [b.acc (t + 2) 2, b.acc (t + 4) oldTagLen]
        match skbPullAndMerge b t (4 + oldTagLen) with
        | none => (none, acc)
        | some b' =>
            let length := (b'.be 18 + (65536 - 4) + (65536 - oldTagLen)) % 65536
            (some (b'.wr 18 (beBytes length), tagBuf, oldTagLen), acc ++ [b'.acc 18 2])

/-- The relay tag with the address of the client, in front of what `tag_buf` has. -/
def fillTag (tagBuf : Mem) (client : List UInt8) (oldTagLen : ℕ) : Mem :=
  write tagBuf 0 (beBytes pttRelaySid ++ beBytes (2 + 6 + oldTagLen) ++ beBytes magicCode ++ client)

/-- A PADI or PADR gets a relay tag. -/
def insertRelayTag (e : Env) (p : Priv) (b : Skb) (acc : List Access) : Handled :=
  let found := nat25FindPppoeTag b pttRelaySid
  let taken := takeOldTag b e.stack found.1
  let acc := acc ++ found.2 ++ taken.2
  match taken.1 with
  | none =>
      -- a tag that is taken out by halves is not put back
      ⟨p, b, some (-1), acc⟩
  | some (b', tagBuf, oldTagLen) =>
      let added := nat25AddPppoeTag b' (fillTag tagBuf (b'.rd 6 6) oldTagLen)
      match added.1 with
      | none => ⟨p, b', some (-1), acc ++ [b'.acc 6 6] ++ added.2⟩
      | some b'' => ⟨p, b'', some 0, acc ++ [b'.acc 6 6] ++ added.2⟩

/-- A PADI or PADR without a relay tag: one client connects at a time. -/
def insertUntagged (p : Priv) (b : Skb) (acc : List Access) : Handled :=
  let acc := acc ++ [b.acc 6 6]
  if p.pppoeConnectionInProgress ≠ 0 ∧ b.mac 6 ≠ p.pppoeAddr then ⟨p, b, some (-2), acc⟩
  else
    let addr := if p.pppoeConnectionInProgress = 0 then b.mac 6 else p.pppoeAddr
    ⟨{ p with pppoeAddr := addr, pppoeConnectionInProgress := 5 }, b, some 0, acc⟩

/-- A frame of a PPPoE session is entered in the database. -/
def insertSession (e : Env) (p : Priv) (b : Skb) (acc : List Access) : Handled :=
  let networkAddr := nat25GeneratePppoeNetworkAddr (b.rd 0 6) (b.rd 16 2)
  let p' := nat25DbNetworkInsert e p (b.mac 6) networkAddr
  let p'' :=
    if p.addPppoeTag = false ∧ p.pppoeConnectionInProgress ≠ 0 ∧ b.mac 6 = p.pppoeAddr then
      { p' with pppoeConnectionInProgress := 0 }
    else p'
  ⟨p'', b, some 0, acc ++ [b.acc 0 6, b.acc 16 2, b.acc 6 6]⟩

/-- A PADO or PADS goes to the client whose address is in the relay tag, which is taken out. -/
def lookupRelayTag (p : Priv) (b : Skb) (acc : List Access) : Handled :=
  let found := nat25FindPppoeTag b pttRelaySid
  let acc := acc ++ found.2
  match found.1 with
  | none => ⟨p, b, some (-1), acc⟩
  | some t =>
      let tagLen := b.be (t + 2)
      let acc := acc ++ [b.acc t 4]
      if b.be t ≠ pttRelaySid ∨ tagLen < 2 + 6 then ⟨p, b, some (-1), acc⟩
      else if b.be (t + 4) ≠ magicCode then ⟨p, b, some (-1), acc ++ [b.acc (t + 4) 2]⟩
      else
        let b' := b.wr 0 (b.rd (t + 6) 6)
        let acc := acc ++ [b.acc (t + 4) 2, b.acc (t + 6) 6, b.acc 0 6]
        let offset := if tagLen > 2 + 6 then 4 else 0
        match skbPullAndMerge b' (t + offset) (4 + 2 + 6 - offset) with
        | none => ⟨p, b', some (-1), acc⟩
        | some b'' =>
            let length := (b''.be 18 + (65536 - (4 + 2 + 6 - offset))) % 65536
            let b₃ := b''.wr 18 (beBytes length)
            let b₄ := if offset > 0 then b₃.wr (t + 2) (beBytes (tagLen - 2 - 6)) else b₃
            ⟨p, b₄, some 0, acc ++ b''.acc 18 2 :: if offset > 0 then [b''.acc (t + 2) 2] else []⟩

/-- `nat25_db_handle` for `ETH_P_PPP_DISC` and `ETH_P_PPP_SES`. -/
def handlePppoe (e : Env) (p : Priv) (b : Skb) (method : Method) : Handled :=
  let code := b.get 15
  let sid := b.be 16
  match method with
  | .check => ⟨p, b, some (if sid = 0 then 0 else 1), [b.acc 16 2]⟩
  | .insert =>
      if sid = 0 then
        if code = 0x09 ∨ code = 0x19 then  -- `PADI_CODE`, `PADR_CODE`
          if p.addPppoeTag then insertRelayTag e p b [b.acc 16 2, b.acc 15 1]
          else insertUntagged p b [b.acc 16 2, b.acc 15 1]
        else ⟨p, b, some (-1), [b.acc 16 2, b.acc 15 1]⟩
      else insertSession e p b [b.acc 16 2]
  | .lookup =>
      if code = 0x07 ∨ code = 0x65 then  -- `PADO_CODE`, `PADS_CODE`
        if p.addPppoeTag then lookupRelayTag p b [b.acc 15 1]
        else if p.pppoeConnectionInProgress = 0 then ⟨p, b, some (-1), [b.acc 15 1]⟩
        else
          ⟨{ p with pppoeConnectionInProgress := 5 }, b.wr 0 p.pppoeAddr.toList, some 0,
            [b.acc 15 1, b.acc 0 6]⟩
      else if sid ≠ 0 then
        let networkAddr := nat25GeneratePppoeNetworkAddr (b.rd 6 6) (b.rd 16 2)
        let r := nat25DbNetworkLookupAndReplace e p b networkAddr
        ⟨p, r.1, some 0, [b.acc 15 1, b.acc 16 2, b.acc 6 6, b.acc 16 2] ++ r.2.1⟩
      else ⟨p, b, some (-1), [b.acc 15 1, b.acc 16 2]⟩

/-! ### IPv6 -/

/-- `csum_partial`: the sum over `n` bytes. -/
def csumPartial (m : Mem) (a n : ℕ) : ℕ := sum16 (readBytes m a n)

/-- The pseudo header of IPv6. -/
def pseudoHeader (saddr daddr : List UInt8) (len : ℕ) (proto : UInt8) : List UInt8 :=
  saddr ++ daddr ++ [UInt8.ofNat (len / 2 ^ 24), UInt8.ofNat (len / 2 ^ 16),
    UInt8.ofNat (len / 2 ^ 8), UInt8.ofNat len] ++ [0, 0, 0, proto]

/-- `csum_ipv6_magic`. -/
def csumIpv6Magic (saddr daddr : List UInt8) (len : ℕ) (proto : UInt8) (sum : ℕ) : ℕ :=
  csumFold (sum16 (pseudoHeader saddr daddr len proto) + sum)

/-- The offsets of the options that `scan_tlv` sees, in at most `k` passes. -/
def scanAccesses (b : Skb) (m : Mem) (tag len8b : UInt8) : ℕ → ℕ × ℤ → List Access
  | 0, _ => []
  | k + 1, s =>
      if 0 < s.2 then
        b.acc (s.1 - b.data) 2 ::
          match scanPass m tag len8b s with
          | .inl _ => []
          | .inr s' => scanAccesses b m tag len8b k s'
      else []

/-- The accesses of `update_nd_link_layer_addr`; the message begins at 54. -/
def updateNdAccesses (b : Skb) (fuel : ℕ) : List Access :=
  b.acc 54 1 ::
    match ndOptions (b.get 54) with
    | none => []
    | some (hdr, tag) =>
        if (hdr : ℤ) ≤ (b.len : ℤ) - 54 then
          scanAccesses b b.mem tag 1 fuel (b.data + 54 + hdr, (b.len : ℤ) - 54 - hdr) ++
            match scanTlv b.mem (b.data + 54 + hdr) ((b.len : ℤ) - 54 - hdr) tag 1 fuel with
            | some (some mac) => [b.acc (mac - b.data) 6]
            | _ => []
        else []

/-- `payload_len` as it lies in memory, without `ntohs`. -/
def rawPayloadLen (b : Skb) : ℕ := (b.get 18).toNat + 256 * (b.get 19).toNat

/-- The address in a Neighbour Discovery message is replaced, and its checksum computed anew. -/
def updateNd (e : Env) (p : Priv) (b : Skb) (acc : List Access) : Handled :=
  let acc := acc ++ updateNdAccesses b e.fuel
  match updateNdLinkLayerAddr b.mem (b.data + 54) ((b.len : ℤ) - 54) p.hwaddr e.fuel with
  | none => ⟨p, b, none, acc⟩
  | some (_, false) => ⟨p, b, some 0, acc⟩
  | some (m, true) =>
      let b₁ := ({ b with mem := m } : Skb).wr 56 [0, 0]
      let len := rawPayloadLen b₁
      let cksum := csumIpv6Magic (b₁.rd 22 16) (b₁.rd 38 16) len 58
        (csumPartial b₁.mem (b₁.data + 54) len)
      ⟨p, b₁.wr 56 (leBytes16 cksum), some 0,
        acc ++ [b.acc 56 2, b.acc 22 16, b.acc 38 16, b.acc 18 2, b.acc 56 2]⟩

/-- `nat25_db_handle` for `ETH_P_IPV6`; the length without the Ethernet header is unsigned. -/
def handleIpv6 (e : Env) (p : Priv) (b : Skb) (method : Method) : Handled :=
  if (b.len + (2 ^ 32 - 14)) % 2 ^ 32 ≤ 40 then ⟨p, b, some (-1), []⟩
  else
    match method with
    | .check => ⟨p, b, some (if b.get 0 &&& 1 ≠ 0 then 0 else -1), [b.acc 0 1]⟩
    | .insert =>
        if b.rd 22 16 = List.replicate 16 0 then ⟨p, b, some 0, [b.acc 22 16]⟩
        else
          let p := nat25DbNetworkInsert e p (b.mac 6) (nat25GenerateIpv6NetworkAddr (b.rd 22 16))
          let acc := [b.acc 22 16, b.acc 6 6, b.acc 20 1]
          if b.get 20 = 58 ∧ 14 + 40 + 4 < b.len then updateNd e p b acc
          else ⟨p, b, some 0, acc⟩
    | .lookup =>
        let r := nat25DbNetworkLookupAndReplace e p b (nat25GenerateIpv6NetworkAddr (b.rd 38 16))
        ⟨p, r.1, some 0, b.acc 38 16 :: r.2.1⟩

/-! ### All protocols -/

/-- `nat25_db_handle` for EAP and for the frames of C-Media. -/
def handleOwn (p : Priv) (b : Skb) (method : Method) : Handled :=
  ⟨p, b, some (if method = .check then -1 else 0), []⟩

/-- `nat25_db_handle`. -/
def nat25DbHandle (e : Env) (p : Priv) (b : Skb) (method : Method) : Handled :=
  let protocol := b.be 12
  if protocol = 0x0800 then handleIp e p b method
  else if protocol = 0x0806 then handleArp e p b method
  else if protocol = 0x8863 ∨ protocol = 0x8864 then handlePppoe e p b method
  else if protocol = 0x888e then handleOwn p b method
  else if protocol = 0xe2ae ∨ protocol = 0xe2af then handleOwn p b method
  else if protocol = 0x86dd then handleIpv6 e p b method
  else ⟨p, b, some (-1), []⟩

end Rtl8723du.BrExt
